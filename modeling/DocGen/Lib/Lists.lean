/-
# The elements of a list after a change

What stands at an index of a list that was extended by one element, or of
which one element was replaced.
-/
import Mathlib.Data.Int.Notation
import Mathlib.Tactic.Common

namespace DocGen

theorem getElem?_concat_some {α : Type} {l : List α} {a b : α} {i : ℕ} (h : (l ++ [a])[i]? = some b) :
    l[i]? = some b ∨ i = l.length ∧ b = a := by
  rcases Nat.lt_trichotomy i l.length with hi | rfl | hi
  · rw [List.getElem?_append_left hi] at h
    exact Or.inl h
  · rw [List.getElem?_concat_length, Option.some_inj] at h
    exact Or.inr ⟨rfl, h.symm⟩
  · rw [List.getElem?_eq_none (by simpa using Nat.succ_le_of_lt hi)] at h
    cases h

theorem getElem?_set_cases {α : Type} {l : List α} {i j : ℕ} {a b : α} (h : (l.set i a)[j]? = some b) :
    (j = i ∧ b = a) ∨ (j ≠ i ∧ l[j]? = some b) := by
  rw [List.getElem?_set] at h
  split at h
  · rename_i hij
    split at h
    · exact Or.inl ⟨hij.symm, (Option.some.inj h).symm⟩
    · cases h
  · rename_i hij
    exact Or.inr ⟨fun hji => hij hji.symm, h⟩

/-- In a list of pairs no two of which share a key, a pair is found by its key. -/
theorem lookup_of_mem {α β : Type} [BEq α] [LawfulBEq α] : ∀ {l : List (α × β)} {x : α × β},
    (l.map Prod.fst).Nodup → x ∈ l → l.lookup x.1 = some x.2
  | y :: l, x, hnd, hx => by
    rw [List.map_cons, List.nodup_cons] at hnd
    rcases List.mem_cons.mp hx with rfl | hx
    · rw [List.lookup_cons_self]
    · have hne : x.1 ≠ y.1 := fun he => hnd.1 (he ▸ List.mem_map_of_mem hx)
      rw [List.lookup_cons, beq_eq_false_iff_ne.mpr hne]
      exact lookup_of_mem hnd.2 hx

/-- A replaced element with the same image. -/
theorem map_set_of_eq {α β : Type} {l : List α} {i : ℕ} {a b : α} (f : α → β) (hi : l[i]? = some a)
    (h : f b = f a) : (l.set i b).map f = l.map f := by
  refine List.ext_getElem? fun j => ?_
  by_cases hij : i = j
  · subst hij
    rw [List.getElem?_map, List.getElem?_set_self (List.getElem?_eq_some_iff.mp hi).1, List.getElem?_map, hi]
    exact congrArg some h
  · simp [List.getElem?_set_ne hij]

/-- A list made of parts, the first `k` of them empty and the others of length
at most `c`. -/
theorem flatMap_length_le {α β : Type} {f : α → List β} {c : ℕ} : ∀ {l : List α} {k : ℕ},
    (∀ (i : ℕ) a, l[i]? = some a → i < k → f a = []) → (∀ (i : ℕ) a, l[i]? = some a → (f a).length ≤ c) →
      (l.flatMap f).length ≤ c * (l.length - k)
  | [], _, _, _ => Nat.zero_le _
  | a :: l, 0, hz, hc => by
    have ih := flatMap_length_le (k := 0) (fun i b _ hi => absurd hi (Nat.not_lt_zero i))
      fun i b hi => hc (i + 1) b hi
    have ha := hc 0 a rfl
    calc ((a :: l).flatMap f).length = (f a).length + (l.flatMap f).length := by
          rw [List.flatMap_cons, List.length_append]
      _ ≤ c + c * l.length := Nat.add_le_add ha ih
      _ = c * ((a :: l).length - 0) := by rw [List.length_cons, Nat.sub_zero, Nat.mul_succ, Nat.add_comm]
  | a :: l, k + 1, hz, hc => by
    have ih := flatMap_length_le (l := l) (k := k) (fun i b hi hk => hz (i + 1) b hi (Nat.succ_lt_succ hk))
      fun i b hi => hc (i + 1) b hi
    rw [List.flatMap_cons, hz 0 a rfl (Nat.succ_pos k), List.nil_append, List.length_cons, Nat.add_sub_add_right]
    exact ih

theorem prefix_eq_or_dropLast {α : Type} {l l' : List α} (h : l <+: l') : l = l' ∨ l <+: l'.dropLast := by
  obtain ⟨r, rfl⟩ := h
  by_cases hr : r = []
  · exact Or.inl (by rw [hr, List.append_nil])
  · exact Or.inr ⟨r.dropLast, (List.dropLast_append_of_ne_nil hr).symm⟩

end DocGen
