/-
# Substituting the matches of a pattern

Patterns are lists of pieces, a fixed text or a greedy run of elements of a
class, matched as a backtracking engine matches them: a run takes as much as it
can and gives back until the rest of the pattern matches. `sub` replaces the
matches from the left, none over another, as `re.sub` does.

An element has an opening tag, a text and a closing tag. Its pattern matches
in one way (`matchHere_element`), and an element within a text is replaced, or
passed over by the pattern of another, whatever stands around it
(`sub_element`, `sub_other`).
-/
import Mathlib.Data.List.Basic
import DocGen.Lib.Str

namespace DocGen
namespace Regex

/-! ### The engine -/

inductive Piece (α : Type) where
  /-- The text itself. -/
  | lit (w : List α)
  /-- The longest run of elements of the class that lets the rest match. -/
  | many (p : α → Bool)

section

variable {α : Type}

/-- The first result of `f` at `n`, `n - 1`, and so on. -/
def longest {β : Type} (f : ℕ → Option β) : ℕ → Option β
  | 0 => f 0
  | n + 1 => (f (n + 1)).or (longest f n)

theorem longest_of_some {β : Type} {f : ℕ → Option β} {b : β} : ∀ {n : ℕ}, f n = some b →
    longest f n = some b
  | 0, h => h
  | n + 1, h => by rw [longest, h, Option.some_or]

theorem of_longest {β : Type} {f : ℕ → Option β} {b : β} : ∀ {n : ℕ}, longest f n = some b →
    ∃ k ≤ n, f k = some b
  | 0, h => ⟨0, le_rfl, h⟩
  | n + 1, h => by
    rw [longest, Option.or_eq_some_iff] at h
    rcases h with h | ⟨-, h⟩
    · exact ⟨n + 1, le_rfl, h⟩
    · obtain ⟨k, hk, h⟩ := of_longest h
      exact ⟨k, Nat.le_succ_of_le hk, h⟩

variable [DecidableEq α]

/-- The texts that the pieces match at the front of `s`, and what is left. -/
def matchHere : List (Piece α) → List α → Option (List (List α) × List α)
  | [], s => some ([], s)
  | .lit w :: ps, s =>
    if w <+: s then (matchHere ps (s.drop w.length)).map fun m => (w :: m.1, m.2) else none
  | .many p :: ps, s =>
    longest (fun n => (matchHere ps (s.drop n)).map fun m => (s.take n :: m.1, m.2))
      (s.takeWhile p).length

/-- The substitution, when the first `n` elements belong to a match already. -/
def subFrom (ps : List (Piece α)) (replace : List (List α) → List α) : ℕ → List α → List α
  | _, [] => []
  | n + 1, _ :: s => subFrom ps replace n s
  | 0, x :: s =>
    match matchHere ps (x :: s) with
    | none => x :: subFrom ps replace 0 s
    | some (texts, rest) => replace texts ++ subFrom ps replace (s.length - rest.length) s

/-- Each match replaced, for a pattern that matches no empty text. -/
def sub (ps : List (Piece α)) (replace : List (List α) → List α) (s : List α) : List α :=
  subFrom ps replace 0 s

variable {ps : List (Piece α)} {replace : List (List α) → List α} {s rest : List α}
  {texts : List (List α)}

theorem matchHere_lit {w : List α} : matchHere (.lit w :: ps) s = some (texts, rest) ↔
    ∃ u texts', s = w ++ u ∧ matchHere ps u = some (texts', rest) ∧ texts = w :: texts' := by
  rw [matchHere]
  constructor
  · intro h
    split at h
    · rename_i hw
      obtain ⟨u, rfl⟩ := hw
      obtain ⟨⟨texts', rest'⟩, hm, he⟩ := Option.map_eq_some_iff.mp h
      obtain ⟨rfl, rfl⟩ := Prod.mk.inj he
      rw [List.drop_left] at hm
      exact ⟨u, texts', rfl, hm, rfl⟩
    · cases h
  · rintro ⟨u, texts', rfl, hm, rfl⟩
    rw [if_pos (List.prefix_append w u), List.drop_left, hm]
    rfl

/-- A run up to a delimiter is matched in one way. -/
theorem matchHere_many_lit {x : α} {w : List α} :
    matchHere (.many (· ≠ x) :: .lit (x :: w) :: ps) s = some (texts, rest) ↔
      ∃ t u texts', x ∉ t ∧ s = t ++ x :: (w ++ u) ∧ matchHere ps u = some (texts', rest) ∧
        texts = t :: (x :: w) :: texts' := by
  rw [matchHere]
  constructor
  · intro h
    obtain ⟨k, hk, h⟩ := of_longest h
    obtain ⟨⟨ts, r⟩, hm, he⟩ := Option.map_eq_some_iff.mp h
    obtain ⟨rfl, rfl⟩ : s.take k :: ts = texts ∧ r = rest := Prod.mk.inj he
    obtain ⟨u, texts', hu, hm', rfl⟩ := matchHere_lit.mp hm
    refine ⟨s.take k, u, texts', fun hx => ?_, ?_, hm', rfl⟩
    · have htake : s.take k <+: s.takeWhile (· ≠ x) :=
        List.prefix_of_prefix_length_le (List.take_prefix k s) (List.takeWhile_prefix _)
          ((List.length_take_le k s).trans hk)
      have := List.mem_takeWhile_imp (htake.subset hx)
      simp at this
    · rw [← List.cons_append, ← hu, List.take_append_drop]
  · rintro ⟨t, u, texts', hx, rfl, hm, rfl⟩
    have ht : (t ++ x :: (w ++ u)).takeWhile (· ≠ x) = t :=
      takeWhile_append_cons (by simp) (fun y hy => by
        simp only [decide_eq_true_eq]
        rintro rfl
        exact hx hy) _
    rw [ht]
    refine longest_of_some ?_
    rw [List.drop_left, List.take_left,
      matchHere_lit.mpr ⟨u, texts', (List.cons_append ..).symm, hm, rfl⟩]
    rfl

/-- What is matched and what is left make the text. -/
theorem matchHere_flatten : ∀ {ps : List (Piece α)} {s rest : List α} {texts : List (List α)},
    matchHere ps s = some (texts, rest) → s = texts.flatten ++ rest
  | [], s, rest, texts, h => by
    cases h
    rfl
  | .lit w :: ps, s, rest, texts, h => by
    obtain ⟨u, texts', rfl, hm, rfl⟩ := matchHere_lit.mp h
    rw [List.flatten_cons, List.append_assoc, ← matchHere_flatten hm]
  | .many p :: ps, s, rest, texts, h => by
    rw [matchHere] at h
    obtain ⟨k, -, h⟩ := of_longest h
    obtain ⟨⟨texts', r⟩, hm, he⟩ := Option.map_eq_some_iff.mp h
    obtain ⟨rfl, rfl⟩ := Prod.mk.inj he
    rw [List.flatten_cons, List.append_assoc, ← matchHere_flatten hm, List.take_append_drop]

theorem subFrom_eq_drop : ∀ (n : ℕ) (s : List α), subFrom ps replace n s = sub ps replace (s.drop n)
  | 0, _ => rfl
  | _ + 1, [] => rfl
  | n + 1, _ :: s => subFrom_eq_drop n s

@[simp] theorem sub_nil : sub ps replace [] = [] := rfl

theorem sub_of_none {x : α} (h : matchHere ps (x :: s) = none) :
    sub ps replace (x :: s) = x :: sub ps replace s := by
  rw [sub, subFrom, h]
  rfl

theorem sub_of_match {t : List α} {ts : List (List α)} (hne : t ≠ [])
    (h : matchHere ps s = some (t :: ts, rest)) : sub ps replace s = replace (t :: ts) ++ sub ps replace rest := by
  have hs := matchHere_flatten h
  rcases s with _ | ⟨x, s⟩
  · rw [List.flatten_cons, List.append_assoc] at hs
    exact absurd (List.append_eq_nil_iff.mp hs.symm).1 hne
  · rw [sub, subFrom, h]
    show replace (t :: ts) ++ subFrom ps replace (s.length - rest.length) s = _
    rw [subFrom_eq_drop]
    obtain ⟨y, t, rfl⟩ := List.exists_cons_of_ne_nil hne
    rw [List.flatten_cons, List.cons_append, List.cons_append] at hs
    obtain ⟨-, rfl⟩ := List.cons.inj hs
    rw [List.length_append, Nat.add_sub_cancel_right, List.drop_left]

/-! ### Elements -/

/-- Two texts that differ at a place that both have. -/
def Clash (u v : List α) : Prop := ∃ p ∈ u.zip v, p.1 ≠ p.2

instance (u v : List α) : Decidable (Clash u v) := inferInstanceAs (Decidable (∃ p ∈ u.zip v, p.1 ≠ p.2))

omit [DecidableEq α] in
theorem Clash.append_ne : ∀ {u v : List α}, Clash u v → ∀ y z, u ++ y ≠ v ++ z
  | [], _, ⟨p, hp, _⟩, _, _ => by cases hp
  | _ :: _, [], ⟨p, hp, _⟩, _, _ => by cases hp
  | a :: u, b :: v, ⟨p, hp, hne⟩, y, z => by
    intro h
    obtain ⟨rfl, h'⟩ := List.cons.inj h
    rcases List.mem_cons.mp hp with rfl | hp
    · exact hne rfl
    · exact Clash.append_ne ⟨p, hp, hne⟩ y z h'

/-- Without the elements `lt` and `gt` that delimit its tags: what an element's
opening tag begins with, and its closing tag. -/
structure Tag (lt gt : α) where
  opening : List α
  closing : List α
  lt_ne_gt : lt ≠ gt
  lt_opening : lt ∉ opening
  gt_opening : gt ∉ opening
  lt_closing : lt ∉ closing
  clash : Clash opening closing

variable {lt gt : α}

namespace Tag

/-- The pattern of an element: the opening tag up to `gt`, the text up to `lt`,
the closing tag. -/
def element (k : Tag lt gt) : List (Piece α) :=
  [.lit (lt :: k.opening), .many (· ≠ gt), .lit [gt], .many (· ≠ lt), .lit (lt :: k.closing)]

/-- An element with the attributes `a`, the text `t`, and `rest` after it. -/
def write (k : Tag lt gt) (a t rest : List α) : List α :=
  lt :: (k.opening ++ a ++ gt :: (t ++ lt :: (k.closing ++ rest)))

end Tag

/-- The replacement of the text of an element by `r`. -/
def replaceText (r : List α) : List (List α) → List α
  | [o, a, g, _, c] => o ++ a ++ g ++ r ++ c
  | texts => texts.flatten

variable {k k' : Tag lt gt}

theorem matchHere_element : matchHere k.element s = some (texts, rest) ↔
    ∃ a t, gt ∉ a ∧ lt ∉ t ∧ s = k.write a t rest ∧
      texts = [lt :: k.opening, a, [gt], t, lt :: k.closing] := by
  rw [Tag.element, matchHere_lit]
  constructor
  · rintro ⟨u, ts, rfl, hu, rfl⟩
    obtain ⟨a, v, ts, ha, rfl, hv, rfl⟩ := matchHere_many_lit.mp hu
    obtain ⟨t, w, ts, ht, rfl, hw, rfl⟩ := matchHere_many_lit.mp hv
    cases hw
    exact ⟨a, t, ha, ht, by simp [Tag.write], rfl⟩
  · rintro ⟨a, t, ha, ht, rfl, rfl⟩
    refine ⟨_, _, ?_, matchHere_many_lit.mpr ⟨a, _, _, ha, rfl, matchHere_many_lit.mpr
      ⟨t, _, _, ht, rfl, rfl, rfl⟩, rfl⟩, rfl⟩
    simp [Tag.write]

omit [DecidableEq α] in
/-- What stands before the first `x` holds a text without `x`. -/
theorem exists_of_append_eq {x : α} {w u b z : List α} (hx : x ∉ w) (h : b ++ x :: z = w ++ u) :
    ∃ b', b = w ++ b' ∧ u = b' ++ x :: z := by
  rcases List.append_eq_append_iff.mp h with ⟨v, rfl, hv⟩ | ⟨v, rfl, rfl⟩
  · rcases v with _ | ⟨y, v⟩
    · exact ⟨[], by simp, hv.symm⟩
    · obtain ⟨rfl, -⟩ := List.cons.inj hv
      exact absurd (by simp) hx
  · exact ⟨v, rfl, rfl⟩

omit [DecidableEq α] in
theorem first_inj {x : α} {u u' v v' : List α} (hu : x ∉ u) (hu' : x ∉ u')
    (h : u ++ x :: v = u' ++ x :: v') : u = u' ∧ v = v' := by
  obtain ⟨w, rfl, hw⟩ := exists_of_append_eq hu' h
  rcases w with _ | ⟨y, w⟩
  · exact ⟨List.append_nil u', (List.cons.inj hw).2.symm⟩
  · obtain ⟨rfl, -⟩ := List.cons.inj hw
    exact absurd (by simp) hu

/-- A match in front of an `lt` that opens no closing tag lies before it, or
its opening tag has not ended there. -/
theorem match_before {b z : List α} (hb : b ≠ []) (hz : ∀ v, z ≠ k.closing ++ v)
    (h : matchHere k.element (b ++ lt :: z) = some (texts, rest)) :
    (∃ rest', rest = rest' ++ lt :: z ∧ matchHere k.element b = some (texts, rest')) ∨
      ∃ b' a t, b = lt :: (k.opening ++ b') ∧ gt ∉ b' ∧ gt ∉ a ∧ lt ∉ t ∧
        b' ++ lt :: z = a ++ gt :: (t ++ lt :: (k.closing ++ rest)) ∧
        texts = [lt :: k.opening, a, [gt], t, lt :: k.closing] := by
  obtain ⟨a, t, ha, ht, hs, rfl⟩ := matchHere_element.mp h
  obtain ⟨x, b, rfl⟩ := List.exists_cons_of_ne_nil hb
  obtain ⟨rfl, hb'⟩ := List.cons.inj hs
  obtain ⟨b, rfl, htag'⟩ := exists_of_append_eq k.lt_opening (hb'.trans (List.append_assoc ..))
  have htag := htag'.symm
  by_cases hgt : gt ∈ b
  · left
    obtain ⟨a', b, rfl, ha'⟩ := List.eq_append_cons_of_mem hgt
    rw [List.append_assoc, List.cons_append] at htag
    obtain ⟨rfl, htext⟩ := first_inj ha' ha htag
    by_cases hlt : x ∈ b
    · obtain ⟨t', b, rfl, ht'⟩ := List.eq_append_cons_of_mem hlt
      rw [List.append_assoc, List.cons_append] at htext
      obtain ⟨rfl, hclose⟩ := first_inj ht' ht htext
      obtain ⟨rest', rfl, hrest⟩ := exists_of_append_eq k.lt_closing hclose
      exact ⟨rest', hrest, matchHere_element.mpr ⟨_, _, ha, ht, by simp [Tag.write], rfl⟩⟩
    · exact absurd (first_inj hlt ht htext).2 (hz rest)
  · exact Or.inr ⟨b, a, t, rfl, hgt, ha, ht, htag, rfl⟩

/-- Without the end of a tag there is no element. -/
theorem sub_of_no_gt : ∀ {s : List α}, gt ∉ s → sub k.element replace s = s
  | [], _ => rfl
  | x :: s, h => by
    have hnone : matchHere k.element (x :: s) = none := by
      rcases hm : matchHere k.element (x :: s) with _ | ⟨texts, rest⟩
      · rfl
      · obtain ⟨a, t, -, -, heq, -⟩ := matchHere_element.mp hm
        exact absurd (heq ▸ by simp [Tag.write]) h
    rw [sub_of_none hnone, sub_of_no_gt fun hs => h (List.mem_cons_of_mem x hs)]

/-- Without an element nothing is replaced. -/
theorem sub_of_no_element : ∀ {s : List α},
    (∀ b a t rest, gt ∉ a → lt ∉ t → s ≠ b ++ k.write a t rest) → sub k.element replace s = s
  | [], _ => rfl
  | x :: s, h => by
    have hnone : matchHere k.element (x :: s) = none := by
      rcases hm : matchHere k.element (x :: s) with _ | ⟨texts, rest⟩
      · rfl
      · obtain ⟨a, t, ha, ht, heq, -⟩ := matchHere_element.mp hm
        exact absurd heq (h [] a t rest ha ht)
    have hs : ∀ b a t rest, gt ∉ a → lt ∉ t → s ≠ b ++ k.write a t rest :=
      fun b a t rest ha ht heq => h (x :: b) a t rest ha ht (congrArg (x :: ·) heq)
    rw [sub_of_none hnone, sub_of_no_element hs]

/-- A text without `lt` is passed over. -/
theorem sub_append_of_no_lt : ∀ {w : List α}, lt ∉ w →
    sub k.element replace (w ++ s) = w ++ sub k.element replace s
  | [], _ => rfl
  | x :: w, h => by
    have hnone : matchHere k.element (x :: (w ++ s)) = none := by
      rcases hm : matchHere k.element (x :: (w ++ s)) with _ | ⟨texts, rest⟩
      · rfl
      · obtain ⟨a, t, -, -, heq, -⟩ := matchHere_element.mp hm
        exact absurd ((List.cons.inj heq).1 ▸ List.mem_cons_self) h
    rw [List.cons_append, sub_of_none hnone,
      sub_append_of_no_lt fun hw => h (List.mem_cons_of_mem x hw), List.cons_append]

/-- A closing tag is passed over. -/
theorem sub_closing (hclash : Clash k.opening k'.closing) :
    sub k.element replace (lt :: (k'.closing ++ s)) = lt :: (k'.closing ++ sub k.element replace s) := by
  have hnone : matchHere k.element (lt :: (k'.closing ++ s)) = none := by
    rcases hm : matchHere k.element (lt :: (k'.closing ++ s)) with _ | ⟨texts, rest⟩
    · rfl
    · obtain ⟨a, t, -, -, heq, -⟩ := matchHere_element.mp hm
      have := (List.cons.inj heq).2
      rw [List.append_assoc] at this
      exact absurd this.symm (hclash.append_ne _ _)
  rw [sub_of_none hnone, sub_append_of_no_lt k'.lt_closing]

/-- Nothing starts in an opening tag whose text ends with another closing
tag. -/
theorem sub_opening (hclash : Clash k.closing k'.closing) {t : List α} (ht : lt ∉ t) :
    ∀ {w : List α}, gt ∉ w →
      sub k.element replace (w ++ gt :: (t ++ lt :: (k'.closing ++ s))) =
        w ++ sub k.element replace (gt :: (t ++ lt :: (k'.closing ++ s)))
  | [], _ => rfl
  | x :: w, h => by
    have hnone : matchHere k.element (x :: (w ++ gt :: (t ++ lt :: (k'.closing ++ s)))) = none := by
      rcases hm : matchHere k.element (x :: (w ++ gt :: (t ++ lt :: (k'.closing ++ s)))) with
        _ | ⟨texts, rest⟩
      · rfl
      · obtain ⟨a, t', ha, ht', heq, -⟩ := matchHere_element.mp hm
        obtain ⟨-, heq⟩ := List.cons.inj heq
        have hw : gt ∉ w := fun hw => h (List.mem_cons_of_mem x hw)
        have ha' : gt ∉ k.opening ++ a := by simp [k.gt_opening, ha]
        obtain ⟨-, htext⟩ := first_inj hw ha' heq
        exact absurd (first_inj ht ht' htext).2.symm (hclash.append_ne _ _)
    rw [List.cons_append, sub_of_none hnone, sub_opening hclash ht fun hw => h (List.mem_cons_of_mem x hw),
      List.cons_append]

/-- A match stays when more follows. -/
theorem match_append (h : matchHere k.element s = some (texts, rest)) (u : List α) :
    matchHere k.element (s ++ u) = some (texts, rest ++ u) := by
  obtain ⟨a, t, ha, ht, rfl, rfl⟩ := matchHere_element.mp h
  exact matchHere_element.mpr ⟨a, t, ha, ht, by simp [Tag.write], rfl⟩

/-- A text is cut in front of an `lt` that opens no closing tag, if an opening
tag that has not ended there changes nothing. -/
theorem sub_append_lt {z out : List α} (hz : ∀ v, z ≠ k.closing ++ v)
    (hout : sub k.element replace (lt :: z) = out)
    (hopen : ∀ b a t rest, gt ∉ b → gt ∉ a → lt ∉ t →
      b ++ lt :: z = a ++ gt :: (t ++ lt :: (k.closing ++ rest)) →
      replace [lt :: k.opening, a, [gt], t, lt :: k.closing] ++ sub k.element replace rest =
        lt :: (k.opening ++ b) ++ out) (b : List α) :
    sub k.element replace (b ++ lt :: z) = sub k.element replace b ++ out := by
  induction hn : b.length using Nat.strong_induction_on generalizing b with
  | _ n ih =>
  subst hn
  rcases b with _ | ⟨x, b⟩
  · exact hout
  rcases hm : matchHere k.element (x :: b ++ lt :: z) with _ | ⟨texts, rest⟩
  · have hb : matchHere k.element (x :: b) = none := by
      rcases hb : matchHere k.element (x :: b) with _ | ⟨texts, rest⟩
      · rfl
      · rw [match_append hb] at hm
        cases hm
    have hcons : sub k.element replace (x :: b ++ lt :: z) = x :: sub k.element replace (b ++ lt :: z) :=
      sub_of_none hm
    rw [hcons, sub_of_none hb, ih b.length (Nat.lt_succ_self _) b rfl, List.cons_append]
  · rcases match_before (List.cons_ne_nil x b) hz hm with
      ⟨u, rfl, hb⟩ | ⟨b', a, t, hb, hgt, ha, ht, heq, rfl⟩
    · obtain ⟨a, t, -, -, hs, rfl⟩ := matchHere_element.mp hb
      have hlt : u.length < (x :: b).length := by
        rw [hs, Tag.write]
        simp only [List.length_cons, List.length_append]
        omega
      rw [sub_of_match (List.cons_ne_nil _ _) hm, sub_of_match (List.cons_ne_nil _ _) hb,
        ih u.length hlt u rfl, List.append_assoc]
    · have hgt' : gt ∉ x :: b := by
        rw [hb]
        simp [k.lt_ne_gt.symm, k.gt_opening, hgt]
      rw [sub_of_match (List.cons_ne_nil _ _) hm, hopen b' a t rest hgt ha ht heq, sub_of_no_gt hgt', hb]

/-- The text of an element is replaced, whatever stands before and after it. -/
theorem sub_element {a t r : List α} (ha : gt ∉ a) (ht : lt ∉ t) (rest b : List α) :
    sub k.element (replaceText r) (b ++ k.write a t rest) =
      sub k.element (replaceText r) b ++ k.write a r (sub k.element (replaceText r) rest) := by
  refine sub_append_lt (fun v => ?_) ?_ ?_ b
  · rw [List.append_assoc]
    exact k.clash.append_ne _ _
  · rw [← Tag.write, sub_of_match (List.cons_ne_nil _ _) (matchHere_element.mpr ⟨a, t, ha, ht, rfl, rfl⟩)]
    simp [replaceText, Tag.write]
  · intro b a' t' rest' hb ha' ht' heq
    have htag : gt ∉ b ++ lt :: (k.opening ++ a) := by simp [hb, k.lt_ne_gt.symm, k.gt_opening, ha]
    obtain ⟨rfl, htext⟩ := first_inj htag ha' (by simpa using heq)
    obtain ⟨rfl, hrest⟩ := first_inj ht ht' htext
    rw [List.append_cancel_left hrest]
    simp [replaceText, Tag.write]

/-- An element of another tag is passed over. -/
theorem sub_other (hclose : Clash k.closing k'.closing) (hopen : Clash k.opening k'.closing)
    (hopen' : Clash k'.opening k.closing) {a t : List α} (ha : gt ∉ a) (ht : lt ∉ t) (rest b : List α) :
    sub k.element replace (b ++ k'.write a t rest) =
      sub k.element replace b ++ k'.write a t (sub k.element replace rest) := by
  have htag : gt ∉ lt :: (k'.opening ++ a) := by simp [k.lt_ne_gt.symm, k'.gt_opening, ha]
  refine sub_append_lt (fun v => ?_) ?_ ?_ b
  · rw [List.append_assoc]
    exact hopen'.append_ne _ _
  · have htext : lt ∉ gt :: t := by simp [k.lt_ne_gt, ht]
    have h₁ : sub k.element replace (lt :: (k'.opening ++ a) ++ gt :: (t ++ lt :: (k'.closing ++ rest))) = _ :=
      sub_opening hclose ht htag
    have h₂ : sub k.element replace (gt :: t ++ lt :: (k'.closing ++ rest)) = _ := sub_append_of_no_lt htext
    rw [List.cons_append] at h₂
    rw [h₂, sub_closing hopen] at h₁
    simpa [Tag.write] using h₁
  · intro b a' t' rest' hb ha' ht' heq
    have htag' : gt ∉ b ++ lt :: (k'.opening ++ a) := by simp [hb, k.lt_ne_gt.symm, k'.gt_opening, ha]
    obtain ⟨-, htext⟩ := first_inj htag' ha' (by simpa using heq)
    exact absurd (first_inj ht ht' htext).2.symm (hclose.append_ne _ _)

end

end Regex
end DocGen
