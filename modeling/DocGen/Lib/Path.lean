/-
# Absolute paths, resolved segment by segment

A resolved path is the list of its segments from the root. A path text is read
after a resolved path (`walk`): empty and `.` segments are dropped, `..`
removes the segment before it and does nothing at the root. There are no links.

Two lists of segments that lead to one path are respellings of each other
(`Respells`): one is rewritten into the other by dropping and adding segments
that lead nowhere. `respells_iff` says that the two notions agree, so a
collision of resolved paths can be stated without resolving anything.
-/
import DocGen.Lib.Str
import Mathlib.Tactic.Common

namespace DocGen
namespace Path

/-- A segment that names an entry of a directory. -/
def Proper (seg : String) : Prop := seg ≠ "" ∧ seg ≠ "." ∧ seg ≠ ".."

instance (seg : String) : Decidable (Proper seg) := inferInstanceAs (Decidable (_ ∧ _ ∧ _))

/-- No segment holds a NUL character, which ends a path for the system. -/
def NulFree (p : List String) : Prop := ∀ seg ∈ p, nul ∉ seg.toList

instance (p : List String) : Decidable (NulFree p) := inferInstanceAs (Decidable (∀ seg ∈ p, _))

theorem nulFree_append {p q : List String} : NulFree (p ++ q) ↔ NulFree p ∧ NulFree q := List.forall_mem_append

theorem nulFree_split {s : String} : NulFree (split '/' s) ↔ nul ∉ s.toList := by
  rw [mem_split (c := '/') (by decide)]
  simp [NulFree]

/-- The path reached from `p` by one segment. -/
def enter (p : List String) (seg : String) : List String :=
  if seg = "" ∨ seg = "." then p else if seg = ".." then p.dropLast else p ++ [seg]

/-- The path reached from `p` by a list of segments. -/
def walk (p : List String) (segs : List String) : List String := segs.foldl enter p

/-- `(p / s).resolve()`: a text that starts with a slash is read from the root. -/
def join (p : List String) (s : String) : List String :=
  walk (if s.toList.head? = some '/' then [] else p) (split '/' s)

/-- `PurePosixPath(s).name`. -/
def name (s : String) : String :=
  ((split '/' s).filter fun seg => seg ≠ "" ∧ seg ≠ ".").getLast?.getD ""

/-- `root in p.parents`. -/
def Below (root p : List String) : Prop := root <+: p ∧ root ≠ p

instance (root p : List String) : Decidable (Below root p) := inferInstanceAs (Decidable (_ ∧ _))

/-- `p.parents`, the nearest first. -/
def parents (p : List String) : List (List String) := (List.range p.length).reverse.map fun n => p.take n

theorem below_iff_mem_parents {root p : List String} : Below root p ↔ root ∈ parents p := by
  simp only [parents, List.mem_map, List.mem_reverse, List.mem_range]
  constructor
  · rintro ⟨hpre, hne⟩
    refine ⟨root.length, Nat.lt_of_le_of_ne hpre.length_le fun hlen => hne (hpre.eq_of_length hlen), ?_⟩
    exact (List.prefix_iff_eq_take.mp hpre).symm
  · rintro ⟨n, hn, rfl⟩
    refine ⟨List.take_prefix n p, fun he => ?_⟩
    have hlen := congrArg List.length he
    rw [List.length_take] at hlen
    omega

instance (root p : List String) : Decidable (root ∈ parents p) := decidable_of_iff _ below_iff_mem_parents

theorem enter_skip {p : List String} {seg : String} (h : seg = "" ∨ seg = ".") : enter p seg = p :=
  if_pos h

@[simp] theorem enter_back (p : List String) : enter p ".." = p.dropLast := rfl

theorem enter_proper {p : List String} {seg : String} (h : Proper seg) : enter p seg = p ++ [seg] := by
  rw [enter, if_neg (by rintro (h' | h'); exacts [h.1 h', h.2.1 h']), if_neg h.2.2]

@[simp] theorem walk_nil (p : List String) : walk p [] = p := rfl

@[simp] theorem walk_cons (p : List String) (seg : String) (segs : List String) :
    walk p (seg :: segs) = walk (enter p seg) segs := rfl

theorem walk_append (p l r : List String) : walk p (l ++ r) = walk (walk p l) r :=
  List.foldl_append

/-- Proper segments are entered one after the other. -/
theorem walk_proper : ∀ {segs : List String} (p : List String), (∀ g ∈ segs, Proper g) →
    walk p segs = p ++ segs
  | [], p, _ => (List.append_nil p).symm
  | seg :: segs, p, h => by
    rw [walk_cons, enter_proper (h seg List.mem_cons_self),
      walk_proper _ fun g hg => h g (List.mem_cons_of_mem _ hg), List.append_assoc, List.singleton_append]

/-- Segments that do not climb are entered one after the other, without those
that lead nowhere. -/
theorem walk_down : ∀ {segs : List String} (p : List String), ".." ∉ segs →
    walk p segs = p ++ segs.filter fun seg => seg ≠ "" ∧ seg ≠ "."
  | [], p, _ => (List.append_nil p).symm
  | seg :: segs, p, h => by
    rw [List.mem_cons, not_or] at h
    rw [walk_cons, walk_down _ h.2]
    by_cases hskip : seg = "" ∨ seg = "."
    · rw [enter_skip hskip, List.filter_cons_of_neg]
      rwa [decide_eq_true_eq, ← not_or, not_not]
    · rw [enter, if_neg hskip, if_neg (Ne.symm h.1), List.filter_cons_of_pos, List.append_assoc,
        List.singleton_append]
      rwa [decide_eq_true_eq, ← not_or]

/-! ### Respellings -/

/-- The segments lead to one path, by rewriting: a segment that leads nowhere,
and one with the `..` that undoes it, come and go. -/
inductive Respells : List String → List String → Prop
  | refl (l : List String) : Respells l l
  | symm {l m : List String} : Respells l m → Respells m l
  | trans {l m n : List String} : Respells l m → Respells m n → Respells l n
  | skip {seg : String} (l r : List String) (h : seg = "" ∨ seg = ".") :
      Respells (l ++ seg :: r) (l ++ r)
  | back {seg : String} (l r : List String) (h : Proper seg) :
      Respells (l ++ seg :: ".." :: r) (l ++ r)
  | top (r : List String) : Respells (".." :: r) r

/-- Respellings lead to one path. -/
theorem Respells.walk_eq {l m : List String} (h : Respells l m) : walk [] l = walk [] m := by
  induction h with
  | refl l => rfl
  | symm _ ih => exact ih.symm
  | trans _ _ ih₁ ih₂ => exact ih₁.trans ih₂
  | skip l r h => rw [walk_append, walk_append, walk_cons, enter_skip h]
  | back l r h =>
    rw [walk_append, walk_append, walk_cons, walk_cons, enter_proper h, enter_back,
      List.dropLast_concat]
  | top r => rfl

/-- Segments respell the path they lead to. -/
theorem respells_walk : ∀ (r : List String) {p : List String}, (∀ g ∈ p, Proper g) →
    Respells (p ++ r) (walk p r)
  | [], p, _ => by rw [List.append_nil]; exact .refl p
  | seg :: r, p, hp => by
    by_cases hskip : seg = "" ∨ seg = "."
    · rw [walk_cons, enter_skip hskip]
      exact (Respells.skip p r hskip).trans (respells_walk r hp)
    by_cases hback : seg = ".."
    · subst hback
      rw [walk_cons, enter_back]
      rcases List.eq_nil_or_concat p with rfl | ⟨q, g, rfl⟩
      · exact (Respells.top r).trans (respells_walk r hp)
      · have hg : Proper g := hp g (by simp)
        have hq : ∀ g' ∈ q, Proper g' := fun g' hg' => hp g' (by simp [hg'])
        rw [List.concat_eq_append, List.append_assoc, List.singleton_append, List.dropLast_concat]
        exact (Respells.back q r hg).trans (respells_walk r hq)
    · have hseg : Proper seg := ⟨fun h => hskip (Or.inl h), fun h => hskip (Or.inr h), hback⟩
      have hp' : ∀ g ∈ p ++ [seg], Proper g := by
        intro g hg
        rcases List.mem_append.mp hg with hg | hg
        · exact hp g hg
        · exact List.mem_singleton.mp hg ▸ hseg
      rw [walk_cons, enter_proper hseg]
      have h := respells_walk r hp'
      rwa [List.append_assoc, List.singleton_append] at h

/-- Two lists of segments lead to one path exactly if they are respellings. -/
theorem respells_iff {l m : List String} : Respells l m ↔ walk [] l = walk [] m := by
  constructor
  · exact Respells.walk_eq
  · intro h
    have hl := respells_walk l (List.forall_mem_nil Proper)
    have hm := respells_walk m (List.forall_mem_nil Proper)
    rw [List.nil_append] at hl hm
    rw [h] at hl
    exact hl.trans hm.symm

end Path
end DocGen
