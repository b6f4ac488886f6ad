/-
# The errors of an `Except`

`Raises P x` says that every error of `x` is one of `P`. It has one rule for
each way such computations are put together. A bind fails in its first part or
in its second (`bind_error`), and a loop at the first turn that does
(`foldlM_error`).
-/
import DocGen.Lib.Writes

namespace DocGen

variable {ε σ α β : Type}

theorem bind_error {x : Except ε α} {f : α → Except ε β} {e : ε} :
    (x >>= f) = .error e ↔ x = .error e ∨ ∃ a, x = .ok a ∧ f a = .error e := by
  cases x with
  | error e' =>
    constructor
    · intro h
      cases h
      exact Or.inl rfl
    · rintro (h | ⟨a, ha, -⟩)
      · cases h
        rfl
      · cases ha
  | ok a =>
    constructor
    · intro h
      exact Or.inr ⟨a, rfl, h⟩
    · rintro (h | ⟨a', ha, h⟩)
      · cases h
      · cases ha
        exact h

/-- A loop fails at the first turn that fails, the turns before it having
completed. -/
theorem foldlM_error {f : σ → α → Except ε σ} {e : ε} : ∀ {xs : List α} {s : σ}, xs.foldlM f s = .error e ↔
    ∃ pre x post u, xs = pre ++ x :: post ∧ pre.foldlM f s = .ok u ∧ f u x = .error e
  | [], s => by
    constructor
    · intro h
      cases h
    · rintro ⟨pre, x, post, u, h, -⟩
      simp at h
  | x :: xs, s => by
    rw [List.foldlM_cons, bind_error]
    constructor
    · rintro (h | ⟨u, hu, h⟩)
      · exact ⟨[], x, xs, s, rfl, rfl, h⟩
      · obtain ⟨pre, y, post, v, rfl, hv, hy⟩ := foldlM_error.mp h
        exact ⟨x :: pre, y, post, v, rfl, foldlM_cons_ok.mpr ⟨u, hu, hv⟩, hy⟩
    · rintro ⟨pre, y, post, v, h, hv, hy⟩
      cases pre with
      | nil =>
        obtain ⟨rfl, rfl⟩ := List.cons.inj h
        cases hv
        exact Or.inl hy
      | cons z pre =>
        obtain ⟨rfl, rfl⟩ := List.cons.inj h
        obtain ⟨u, hu, hv⟩ := foldlM_cons_ok.mp hv
        exact Or.inr ⟨u, hu, foldlM_error.mpr ⟨pre, y, post, v, rfl, hv, hy⟩⟩

theorem mapM_cons_ok {f : α → Except ε β} {x : α} {xs : List α} {ys : List β} :
    (x :: xs).mapM f = .ok ys ↔ ∃ y ys', f x = .ok y ∧ xs.mapM f = .ok ys' ∧ ys = y :: ys' := by
  rw [List.mapM_cons]
  rcases f x with e | y
  · constructor
    · intro h
      cases h
    · rintro ⟨y, ys', hy, -⟩
      cases hy
  rcases xs.mapM f with e | ys'
  · constructor
    · intro h
      cases h
    · rintro ⟨y, ys', -, hys, -⟩
      cases hys
  · constructor
    · intro h
      cases h
      exact ⟨y, ys', rfl, rfl, rfl⟩
    · rintro ⟨y, ys', hy, hys, rfl⟩
      cases hy
      cases hys
      rfl

/-- Every error of `x` is one of `P`. -/
def Raises (P : ε → Prop) (x : Except ε α) : Prop := ∀ e, x = .error e → P e

variable {P : ε → Prop}

theorem raises_ok {a : α} : Raises P (.ok a : Except ε α) := by
  intro e h
  cases h

theorem raises_error {e : ε} (h : P e) : Raises P (.error e : Except ε α) := by
  intro e' he
  cases he
  exact h

theorem raises_bind {x : Except ε α} {f : α → Except ε β} (hx : Raises P x) (hf : ∀ a, Raises P (f a)) :
    Raises P (x >>= f) := by
  intro e h
  rcases bind_error.mp h with h | ⟨a, -, h⟩
  · exact hx e h
  · exact hf a e h

theorem raises_foldlM {f : σ → α → Except ε σ} (hf : ∀ s x, Raises P (f s x)) (xs : List α) (s : σ) :
    Raises P (xs.foldlM f s) := by
  intro e h
  obtain ⟨pre, x, post, u, -, -, hx⟩ := foldlM_error.mp h
  exact hf u x e hx

end DocGen
