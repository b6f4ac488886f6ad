/-
# The string operations of the source

Python's `lstrip`, `rstrip`, `strip`, `partition` and `split` at one
character, on the characters of a string, with what each does to a string it
meets in this development.
-/
import Mathlib.Data.List.DropRight

namespace DocGen

/-- The character that ends a text for the system. -/
def nul : Char := Char.ofNat 0

/-- `s.lstrip(c)`. -/
def lstrip (c : Char) (s : String) : String := String.ofList (s.toList.dropWhile (· = c))

/-- `s.rstrip(c)`. -/
def rstrip (c : Char) (s : String) : String := String.ofList (s.toList.rdropWhile (· = c))

/-- `s.strip(c)`. -/
def strip (c : Char) (s : String) : String := rstrip c (lstrip c s)

/-- `s.partition(c)`, without the separator: what stands before the first `c`
and what stands after it. -/
def partition (c : Char) (s : String) : String × String :=
  (String.ofList (s.toList.takeWhile (· ≠ c)), String.ofList (s.toList.dropWhile (· ≠ c)).tail)

/-- `s.rpartition(c)`, without the separator: what stands before the last `c`
(nothing, if there is none) and what stands after it. -/
def rpartition (c : Char) (s : String) : String × String :=
  (String.ofList (s.toList.reverse.dropWhile (· ≠ c)).tail.reverse,
    String.ofList (s.toList.reverse.takeWhile (· ≠ c)).reverse)

/-- `s.replace(c, "")`. -/
def remove (c : Char) (s : String) : String := String.ofList (s.toList.filter (· ≠ c))

/-- `s.split(c)`. -/
def split (c : Char) (s : String) : List String := (s.toList.splitOn c).map String.ofList

@[simp] theorem toList_lstrip (c : Char) (s : String) :
    (lstrip c s).toList = s.toList.dropWhile (· = c) := String.toList_ofList

@[simp] theorem toList_rstrip (c : Char) (s : String) :
    (rstrip c s).toList = s.toList.rdropWhile (· = c) := String.toList_ofList

/-- Stripping stops at a character that stays. -/
theorem dropWhile_append_cons {α : Type} {p : α → Bool} {x : α} (hx : p x = false) :
    ∀ l r : List α, (l ++ x :: r).dropWhile p = l.dropWhile p ++ x :: r
  | [], r => by simp [hx]
  | y :: l, r => by
    by_cases hy : p y = true
    · simp [hy, dropWhile_append_cons hx l r]
    · simp [hy]

theorem takeWhile_append_cons {α : Type} {p : α → Bool} {x : α} (hx : p x = false) {l : List α}
    (hl : ∀ y ∈ l, p y = true) (r : List α) : (l ++ x :: r).takeWhile p = l := by
  rw [List.takeWhile_append_of_pos hl, List.takeWhile_cons_of_neg (by simp [hx]), List.append_nil]

theorem dropWhile_append_of_all {α : Type} {p : α → Bool} {x : α} (hx : p x = false) {l : List α}
    (hl : ∀ y ∈ l, p y = true) (r : List α) : (l ++ x :: r).dropWhile p = x :: r := by
  rw [List.dropWhile_append_of_pos hl, List.dropWhile_cons_of_neg (by simp [hx])]

/-- Stripping both ends leaves a word that holds none of the characters, whatever
number of them surrounds it. -/
theorem strip_surrounded {α : Type} {p : α → Bool} {pre w post : List α} (hne : w ≠ [])
    (hw : ∀ x ∈ w, p x = false) (hpre : ∀ x ∈ pre, p x = true) (hpost : ∀ x ∈ post, p x = true) :
    ((pre ++ w ++ post).dropWhile p).rdropWhile p = w := by
  obtain ⟨x, w, rfl⟩ := List.exists_cons_of_ne_nil hne
  have hleft : (pre ++ (x :: w) ++ post).dropWhile p = (x :: w) ++ post := by
    rw [List.append_assoc, List.cons_append, dropWhile_append_of_all (hw x List.mem_cons_self) hpre]
  have hpost' : ∀ y ∈ post.reverse, p y = true := fun y hy => hpost y (List.mem_reverse.mp hy)
  have hself : (x :: w).rdropWhile p = x :: w :=
    List.rdropWhile_eq_self_iff.mpr fun hl => by simp [hw _ (List.getLast_mem hl)]
  rw [hleft, List.rdropWhile, List.reverse_append, List.dropWhile_append_of_pos hpost', ← List.rdropWhile, hself]

/-- What stripping takes off each end are the characters. -/
theorem strip_surround {α : Type} (p : α → Bool) (l : List α) :
    ∃ pre post, l = pre ++ (l.dropWhile p).rdropWhile p ++ post ∧ (∀ x ∈ pre, p x = true) ∧
      ∀ x ∈ post, p x = true := by
  refine ⟨l.takeWhile p, (l.dropWhile p).rtakeWhile p, ?_, fun x hx => List.mem_takeWhile_imp hx, fun x hx =>
    List.mem_rtakeWhile_imp hx⟩
  rw [List.append_assoc, List.rdropWhile_append_rtakeWhile, List.takeWhile_append_dropWhile]

/-- The last separator is the one with none after it. -/
theorem rpartition_append (c : Char) (l : String) {r : String} (hr : c ∉ r.toList) :
    rpartition c (l ++ String.singleton c ++ r) = (l, r) := by
  have hne : ∀ y ∈ r.toList.reverse, decide (y ≠ c) = true := by
    intro y hy
    simp only [decide_eq_true_eq]
    rintro rfl
    exact hr (List.mem_reverse.mp hy)
  have hs : (l ++ String.singleton c ++ r).toList.reverse =
      r.toList.reverse ++ c :: l.toList.reverse := by simp
  rw [rpartition, hs, takeWhile_append_cons (by simp) hne, dropWhile_append_of_all (by simp) hne,
    List.tail_cons, List.reverse_reverse, List.reverse_reverse, String.ofList_toList,
    String.ofList_toList]

/-- The first separator is the one with none before it. -/
theorem partition_append (c : Char) {l : String} (hl : c ∉ l.toList) (r : String) :
    partition c (l ++ String.singleton c ++ r) = (l, r) := by
  have hne : ∀ y ∈ l.toList, decide (y ≠ c) = true := by
    intro y hy
    simp only [decide_eq_true_eq]
    rintro rfl
    exact hl hy
  have hs : (l ++ String.singleton c ++ r).toList = l.toList ++ c :: r.toList := by simp
  rw [partition, hs, takeWhile_append_cons (by simp) hne, dropWhile_append_of_all (by simp) hne,
    List.tail_cons, String.ofList_toList, String.ofList_toList]

/-- What stands before the first separator holds none. -/
theorem partition_fst_not_mem (c : Char) (s : String) : c ∉ (partition c s).1.toList := by
  rw [partition, String.toList_ofList]
  intro h
  simpa using List.mem_takeWhile_imp h

/-! ### Stripping -/

/-- A stripped string does not start with the character stripped. -/
theorem head_strip (c : Char) (s : String) : (strip c s).toList.head? ≠ some c := by
  intro h
  rw [strip, toList_rstrip, toList_lstrip] at h
  have hpre := List.rdropWhile_prefix (· = c) (s.toList.dropWhile (· = c))
  rcases hl : (s.toList.dropWhile (· = c)).rdropWhile (· = c) with _ | ⟨x, l⟩
  · rw [hl] at h
    cases h
  · rw [hl] at h hpre
    obtain ⟨t, ht⟩ := hpre
    have hx : x = c := Option.some.inj h
    have hne := List.head?_dropWhile_not (fun y => decide (y = c)) s.toList
    rw [← ht] at hne
    simp [hx] at hne

/-- Nor does it end with it. -/
theorem getLast_strip (c : Char) (s : String) : (strip c s).toList.getLast? ≠ some c := by
  rw [strip, toList_rstrip]
  intro h
  have hne : (lstrip c s).toList.rdropWhile (· = c) ≠ [] := by
    intro hnil
    rw [hnil] at h
    cases h
  have hlast := List.rdropWhile_last_not (fun x => decide (x = c)) _ hne
  rw [List.getLast?_eq_getLast_of_ne_nil hne] at h
  exact hlast (decide_eq_true (Option.some.inj h))

/-- Stripping leaves a string that neither starts nor ends with the character
as it is. -/
theorem strip_eq_self {c : Char} {s : String} (hhead : s.toList.head? ≠ some c)
    (hlast : s.toList.getLast? ≠ some c) : strip c s = s := by
  have hl : s.toList.dropWhile (· = c) = s.toList := by
    rw [List.dropWhile_eq_self_iff]
    intro hpos hc
    rw [List.head?_eq_getElem?, List.getElem?_eq_getElem hpos] at hhead
    exact hhead (congrArg some (of_decide_eq_true hc))
  have hr : s.toList.rdropWhile (· = c) = s.toList := by
    rw [List.rdropWhile_eq_self_iff]
    intro hne hc
    rw [List.getLast?_eq_getLast_of_ne_nil hne] at hlast
    exact hlast (congrArg some (of_decide_eq_true hc))
  apply String.toList_inj.mp
  rw [strip, toList_rstrip, toList_lstrip, hl, hr]

/-- The characters stripped may be any number on each side. -/
theorem strip_pad (c : Char) (i k : ℕ) (l : List Char) :
    strip c (String.ofList (List.replicate i c ++ l ++ List.replicate k c)) =
      strip c (String.ofList l) := by
  have hall : ∀ n, ∀ x ∈ List.replicate n c, decide (x = c) = true := fun n x hx =>
    decide_eq_true (List.eq_of_mem_replicate hx)
  have hr : ∀ m : List Char, (m ++ List.replicate k c).rdropWhile (· = c) = m.rdropWhile (· = c) := by
    intro m
    rw [List.rdropWhile, List.reverse_append, List.reverse_replicate,
      List.dropWhile_append_of_pos (hall k), List.rdropWhile]
  apply String.toList_inj.mp
  simp only [strip, toList_rstrip, toList_lstrip, String.toList_ofList]
  rw [List.append_assoc, List.dropWhile_append_of_pos (hall i), List.dropWhile_append]
  split
  · rename_i hnil
    rw [List.isEmpty_iff.mp hnil, ← List.nil_append (List.replicate k c), List.nil_append,
      List.dropWhile_eq_nil_iff.mpr (hall k)]
  · exact hr _

/-! ### Splitting -/

theorem map_toList_split (c : Char) (s : String) :
    (split c s).map String.toList = s.toList.splitOn c := by
  rw [split, List.map_map]
  exact (List.map_congr_left fun l _ => String.toList_ofList).trans (List.map_id _)

/-- A string is its parts with the separators between them. -/
theorem split_injective {c : Char} {s t : String} (h : split c s = split c t) : s = t := by
  have h' := congrArg (List.map String.toList) h
  rw [map_toList_split, map_toList_split] at h'
  have h'' := congrArg ([c].intercalate) h'
  rw [List.intercalate_splitOn, List.intercalate_splitOn] at h''
  exact String.toList_inj.mp h''

/-- The parts around a separator. -/
theorem split_append {c : Char} {s : String} {l r : List Char} (h : s.toList = l ++ c :: r) :
    split c s = split c (String.ofList l) ++ split c (String.ofList r) := by
  rw [split, h, List.splitOn_append_cons_self, List.map_append, split, split, String.toList_ofList,
    String.toList_ofList]

/-- A character that separates nothing is in some part. -/
theorem mem_split {c d : Char} (hne : d ≠ c) {s : String} :
    d ∈ s.toList ↔ ∃ seg ∈ split c s, d ∈ seg.toList := by
  have hjoin : ∀ ls : List (List Char), d ∈ [c].intercalate ls ↔ ∃ l ∈ ls, d ∈ l := by
    intro ls
    induction ls with
    | nil => simp
    | cons l ls ih =>
      rcases ls with _ | ⟨l', ls⟩
      · simp
      · rw [List.intercalate_cons_cons, List.mem_append, List.mem_append, ih]
        simp [hne]
  have h := hjoin ((split c s).map String.toList)
  rw [map_toList_split, List.intercalate_splitOn, ← map_toList_split] at h
  rw [h]
  simp

theorem split_empty (c : Char) : split c "" = [""] := by
  rw [split, String.toList_empty, List.splitOn_nil]
  rfl

theorem intercalate_append (c : Char) {ms : List (List Char)} (hm : ms ≠ []) :
    ∀ {ls : List (List Char)}, ls ≠ [] →
      [c].intercalate (ls ++ ms) = [c].intercalate ls ++ c :: [c].intercalate ms
  | [l], _ => by
    obtain ⟨m, ms, rfl⟩ := List.exists_cons_of_ne_nil hm
    simp
  | l :: l' :: ls, _ => by
    have ih := intercalate_append c hm (List.cons_ne_nil l' ls)
    rw [List.cons_append] at ih
    rw [List.cons_append, List.cons_append, List.intercalate_cons_cons, ih,
      List.intercalate_cons_cons]
    simp

/-- A string whose last part is empty, and not its only part, ends with the
separator. -/
theorem split_concat_empty {c : Char} {s : String} {parts : List String} (hne : parts ≠ []) :
    split c s = parts ++ [""] ↔ ∃ l, s.toList = l ++ [c] ∧ split c (String.ofList l) = parts := by
  constructor
  · intro h
    have h' := congrArg (List.map String.toList) h
    rw [map_toList_split, List.map_append, List.map_singleton, String.toList_empty] at h'
    have hs := congrArg ([c].intercalate) h'
    rw [List.intercalate_splitOn, intercalate_append c (List.cons_ne_nil _ _) (by simpa using hne),
      List.intercalate_singleton] at hs
    refine ⟨_, hs, ?_⟩
    have happ := split_append hs
    rw [h, String.ofList_nil, split_empty] at happ
    exact (List.append_inj' happ rfl).1.symm
  · intro ⟨l, hs, hl⟩
    rw [split_append hs, hl, String.ofList_nil, split_empty]

/-- A string that ends with the separator is a prefix of those with its parts
and more. -/
theorem prefix_of_split {c : Char} {s t : String} {parts rest : List String} (hp : parts ≠ [])
    (hr : rest ≠ []) (hs : split c s = parts ++ [""]) (ht : split c t = parts ++ rest) :
    s.toList <+: t.toList := by
  have hjoin : ∀ {u : String} {more : List String}, more ≠ [] → split c u = parts ++ more →
      u.toList = [c].intercalate (parts.map String.toList) ++
        c :: [c].intercalate (more.map String.toList) := by
    intro u more hm hu
    have h := congrArg (List.map String.toList) hu
    rw [map_toList_split, List.map_append] at h
    have hi := congrArg ([c].intercalate) h
    rwa [List.intercalate_splitOn, intercalate_append c (by simpa using hm) (by simpa using hp)] at hi
  rw [hjoin (List.cons_ne_nil _ _) hs, hjoin hr ht, List.prefix_append_right_inj]
  simp

end DocGen
