/-
# One call that raises

A run in which one call raises and every other returns: the exception goes up
through the program, and each `except` it passes may make another of it.
`RaisesOn` says what comes out at the top, and has one rule for each way
programs are put together.
-/
import DocGen.Lib.Prog

namespace DocGen
namespace Prog

variable {S T : Sig} {ε α β : Type}

/-- No call of the run raises but `e`. -/
def NoOther (e : Event S ε) (tr : List (Event S ε)) : Prop := ∀ x ∈ tr, x.Raised → x = e

/-- A run that makes the call `e`, and in which no other raises, ends with an
exception of `Q`. -/
def RaisesOn (e : Event S ε) (Q : ε → Prop) (p : Prog S ε α) : Prop :=
  ∀ tr r, p.Runs tr r → NoOther e tr → e ∈ tr → ∃ exc, r = .error exc ∧ Q exc

variable {e : Event S ε} {Q Q' : ε → Prop} {p : Prog S ε α}

theorem NoOther.left {t₁ t₂ : List (Event S ε)} (h : NoOther e (t₁ ++ t₂)) : NoOther e t₁ :=
  fun x hx => h x (List.mem_append_left _ hx)

theorem NoOther.right {t₁ t₂ : List (Event S ε)} (h : NoOther e (t₁ ++ t₂)) : NoOther e t₂ :=
  fun x hx => h x (List.mem_append_right _ hx)

theorem RaisesOn.mono (h : RaisesOn e Q p) (hQ : ∀ exc, Q exc → Q' exc) : RaisesOn e Q' p := by
  intro tr r hr hno he
  obtain ⟨exc, hexc, hq⟩ := h tr r hr hno he
  exact ⟨exc, hexc, hQ exc hq⟩

theorem raisesOn_ret {a : α} : RaisesOn e Q (ret a) := by
  rintro tr r ⟨rfl, -⟩ - he
  cases he

theorem raisesOn_raise {exc : ε} : RaisesOn e Q (raise exc : Prog S ε α) := by
  rintro tr r ⟨rfl, -⟩ - he
  cases he

theorem raisesOn_perform {op op' : S.Op} {exc : ε} (h : op' = op → Q exc) :
    RaisesOn (⟨op, .error exc⟩ : Event S ε) Q (perform op') := by
  intro tr r hr _ he
  rw [runs_perform.mp hr, List.mem_singleton] at he
  cases he
  exact ⟨exc, rfl, h rfl⟩

theorem raisesOn_bind {f : α → Prog S ε β} (hp : RaisesOn e Q p) (hf : ∀ a, RaisesOn e Q (f a)) :
    RaisesOn e Q (p.bind f) := by
  intro tr r hr hno he
  rcases runs_bind.mp hr with ⟨exc, rfl, h⟩ | ⟨a, t₁, t₂, rfl, h₁, h₂⟩
  · obtain ⟨exc', hexc, hq⟩ := hp _ _ h hno he
    cases hexc
    exact ⟨exc, rfl, hq⟩
  rcases List.mem_append.mp he with he | he
  · obtain ⟨_, hexc, -⟩ := hp _ _ h₁ hno.left he
    cases hexc
  · exact hf a _ _ h₂ hno.right he

/-- The calls of the body are not `e`, or end it with an exception that the
handler makes another of. -/
theorem raisesOn_tryCatch {h : ε → Prog S ε α} (hp : RaisesOn e Q p)
    (hh : ∀ exc, RaisesOn e Q' (h exc))
    (hQ : ∀ exc tr r, Q exc → (h exc).Runs tr r → ∃ exc', r = .error exc' ∧ Q' exc') :
    RaisesOn e Q' (p.tryCatch h) := by
  intro tr r hr hno he
  rcases runs_tryCatch.mp hr with ⟨a, rfl, h₁⟩ | ⟨exc, t₁, t₂, rfl, h₁, h₂⟩
  · obtain ⟨_, hexc, -⟩ := hp _ _ h₁ hno he
    cases hexc
  rcases List.mem_append.mp he with he | he
  · obtain ⟨_, hexc, hq⟩ := hp _ _ h₁ hno.left he
    cases hexc
    exact hQ exc _ _ hq h₂
  · exact hh exc _ _ h₂ hno.right he

/-- A handler that raises what it makes of the exception. -/
theorem raisesOn_translate {g : ε → ε} (hp : RaisesOn e Q p) (hQ : ∀ exc, Q exc → Q' (g exc)) :
    RaisesOn e Q' (p.tryCatch fun exc => .raise (g exc)) := by
  refine raisesOn_tryCatch hp (fun _ => raisesOn_raise) ?_
  rintro exc tr r hq ⟨-, rfl⟩
  exact ⟨g exc, rfl, hQ exc hq⟩

/-- A `finally` that only makes a call other than `e`. -/
theorem raisesOn_tryFinally {f : Prog S ε Unit} (hp : RaisesOn e Q p)
    (hf : ∀ tr r, f.Runs tr r → NoOther e tr → e ∉ tr ∧ r = .ok ()) : RaisesOn e Q (p.tryFinally f) := by
  intro tr r hr hno he
  obtain ⟨s, t₁, t₂, rfl, h₁, h₂⟩ := runs_tryFinally.mp hr
  rcases runs_bind.mp h₂ with ⟨_, -, h⟩ | ⟨⟨⟩, t₃, t₄, rfl, h₃, h₄⟩
  · obtain ⟨-, hok⟩ := hf _ _ h hno.right
    cases hok
  obtain ⟨rfl, rfl⟩ := runs_ofExcept.mp h₄
  rw [List.append_nil] at he hno
  rcases List.mem_append.mp he with he | he
  · exact hp _ _ h₁ hno.left he
  · exact absurd he (hf _ _ h₃ hno.right).1

theorem raisesOn_forEach {f : α → Prog S ε β} : ∀ {xs : List α}, (∀ x ∈ xs, RaisesOn e Q (f x)) →
    RaisesOn e Q (forEach f xs)
  | [], _ => raisesOn_ret
  | x :: _, h => raisesOn_bind (h x List.mem_cons_self) fun _ =>
    raisesOn_bind (raisesOn_forEach fun y hy => h y (List.mem_cons_of_mem x hy)) fun _ => raisesOn_ret

/-! ### A fault that may be survived -/

/-- A run in which no other call raises ends with the exception of this one, if
it ends with one. -/
def Passes (op : S.Op) (exc : ε) (p : Prog S ε α) : Prop :=
  ∀ tr r, p.Runs tr r → NoOther ⟨op, .error exc⟩ tr → ∀ x, r = .error x → x = exc

/-- So does a run that makes the call. -/
def EndsBy (op : S.Op) (exc : ε) (p : Prog S ε α) : Prop :=
  ∀ tr r, p.Runs tr r → NoOther ⟨op, .error exc⟩ tr → ⟨op, .error exc⟩ ∈ tr → ∀ x, r = .error x → x = exc

section

variable {op : S.Op} {exc : ε}

theorem passes_ret {a : α} : Passes op exc (ret a : Prog S ε α) := by
  rintro tr r ⟨-, rfl⟩ - x hx
  cases hx

theorem passes_raise : Passes op exc (raise exc : Prog S ε α) := by
  rintro tr r ⟨-, rfl⟩ - x hx
  cases hx
  rfl

theorem passes_perform {op' : S.Op} : Passes op exc (perform op') := by
  rintro tr r h hno x rfl
  rw [runs_perform.mp h] at hno
  cases hno _ List.mem_cons_self ⟨x, rfl⟩
  rfl

theorem passes_bind {f : α → Prog S ε β} (hp : Passes op exc p) (hf : ∀ a, Passes op exc (f a)) :
    Passes op exc (p.bind f) := by
  rintro tr r h hno x rfl
  rcases runs_bind.mp h with ⟨x', hx, h₁⟩ | ⟨a, t₁, t₂, rfl, -, h₂⟩
  · cases hx
    exact hp _ _ h₁ hno x rfl
  · exact hf a _ _ h₂ hno.right x rfl

/-- The handler is given that exception. -/
theorem passes_tryCatch {h : ε → Prog S ε α} (hp : Passes op exc p) (hh : Passes op exc (h exc)) :
    Passes op exc (p.tryCatch h) := by
  rintro tr r hr hno x rfl
  rcases runs_tryCatch.mp hr with ⟨a, hx, -⟩ | ⟨x', t₁, t₂, rfl, h₁, h₂⟩
  · cases hx
  · obtain rfl := hp _ _ h₁ hno.left x' rfl
    exact hh _ _ h₂ hno.right x rfl

theorem Passes.endsBy (h : Passes op exc p) : EndsBy op exc p := fun tr r hr hno _ => h tr r hr hno

theorem RaisesOn.endsBy (h : RaisesOn ⟨op, .error exc⟩ (· = exc) p) : EndsBy op exc p := by
  rintro tr r hr hno he x rfl
  obtain ⟨x', hx, rfl⟩ := h _ _ hr hno he
  cases hx
  rfl

/-- The call ends the first program, or is one of the second. -/
theorem endsBy_bind {f : α → Prog S ε β} (hp : RaisesOn ⟨op, .error exc⟩ (· = exc) p)
    (hf : ∀ a, EndsBy op exc (f a)) : EndsBy op exc (p.bind f) := by
  rintro tr r h hno he x rfl
  rcases runs_bind.mp h with ⟨x', hx, h₁⟩ | ⟨a, t₁, t₂, rfl, h₁, h₂⟩
  · cases hx
    exact hp.endsBy _ _ h₁ hno he x rfl
  rcases List.mem_append.mp he with he | he
  · obtain ⟨_, hx, -⟩ := hp _ _ h₁ hno.left he
    cases hx
  · exact hf a _ _ h₂ hno.right he x rfl

theorem endsBy_tryFinally {f : Prog S ε Unit} (hp : EndsBy op exc p)
    (hf : RaisesOn ⟨op, .error exc⟩ (· = exc) f) (hpass : Passes op exc f) :
    EndsBy op exc (p.tryFinally f) := by
  rintro tr r h hno he x rfl
  obtain ⟨s, t₁, t₂, rfl, h₁, h₂⟩ := runs_tryFinally.mp h
  rcases runs_bind.mp h₂ with ⟨x', hx, h₃⟩ | ⟨⟨⟩, t₃, t₄, rfl, h₃, h₄⟩
  · cases hx
    exact hpass _ _ h₃ hno.right x rfl
  obtain ⟨rfl, rfl⟩ := runs_ofExcept.mp h₄
  rw [List.append_nil] at he hno
  rcases List.mem_append.mp he with he | he
  · exact hp _ _ h₁ hno.left he x rfl
  · obtain ⟨_, hx, -⟩ := hf _ _ h₃ hno.right he
    cases hx

end

/-! ### No call that raises -/

/-- A run in which no call raises returns. -/
def Returns (p : Prog S ε α) : Prop := ∀ tr r, p.Runs tr r → (∀ x ∈ tr, x.Ok) → ∃ a, r = .ok a

theorem returns_ret {a : α} : Returns (ret a : Prog S ε α) := by
  rintro tr r ⟨-, rfl⟩ -
  exact ⟨a, rfl⟩

theorem returns_perform {op : S.Op} : Returns (perform op : Prog S ε (S.Res op)) := by
  intro tr r h hok
  rw [runs_perform.mp h, List.forall_mem_singleton] at hok
  exact hok

theorem returns_bind {f : α → Prog S ε β} (hp : Returns p) (hf : ∀ a, Returns (f a)) :
    Returns (p.bind f) := by
  intro tr r h hok
  rcases runs_bind.mp h with ⟨exc, -, h₁⟩ | ⟨a, t₁, t₂, rfl, -, h₂⟩
  · obtain ⟨_, hr⟩ := hp _ _ h₁ hok
    cases hr
  · exact hf a _ _ h₂ fun x hx => hok x (List.mem_append_right _ hx)

/-- The handler is not reached. -/
theorem returns_tryCatch {h : ε → Prog S ε α} (hp : Returns p) : Returns (p.tryCatch h) := by
  intro tr r hr hok
  rcases runs_tryCatch.mp hr with ⟨a, rfl, -⟩ | ⟨exc, t₁, t₂, rfl, h₁, -⟩
  · exact ⟨a, rfl⟩
  · obtain ⟨_, hexc⟩ := hp _ _ h₁ fun x hx => hok x (List.mem_append_left _ hx)
    cases hexc

theorem returns_inl (hp : Returns p) : Returns (p.inl : Prog (S.sum T) ε α) := by
  intro tr r h hok
  obtain ⟨t, rfl, ht⟩ := runs_inl.mp h
  exact hp t r ht fun x hx => hok x.inl (List.mem_map_of_mem hx)

theorem returns_inr {q : Prog T ε α} (hq : Returns q) : Returns (q.inr : Prog (S.sum T) ε α) := by
  intro tr r h hok
  obtain ⟨t, rfl, ht⟩ := runs_inr.mp h
  exact hq t r ht fun x hx => hok x.inr (List.mem_map_of_mem hx)

/-! ### Over the calls of two signatures -/

theorem raisesOn_inl (h : RaisesOn e Q p) : RaisesOn (e.inl (T := T)) Q p.inl := by
  intro tr r hr hno he
  obtain ⟨t, rfl, ht⟩ := runs_inl.mp hr
  refine h t r ht (fun x hx hraised => Event.inl_injective (hno _ (List.mem_map_of_mem hx) hraised)) ?_
  obtain ⟨x, hx, hxe⟩ := List.mem_map.mp he
  rwa [Event.inl_injective hxe] at hx

/-- A program that makes no call of the first signature. -/
theorem raisesOn_inr {q : Prog T ε α} : RaisesOn (e.inl (T := T)) Q q.inr := by
  intro tr r hr _ he
  obtain ⟨t, rfl, -⟩ := runs_inr.mp hr
  obtain ⟨x, -, hx⟩ := List.mem_map.mp he
  cases e
  cases hx

/-- A program that makes no call of the second. -/
theorem raisesOn_inl_right {e : Event T ε} : RaisesOn (e.inr (S := S)) Q p.inl := by
  intro tr r hr _ he
  obtain ⟨t, rfl, -⟩ := runs_inl.mp hr
  obtain ⟨x, -, hx⟩ := List.mem_map.mp he
  cases e
  cases hx

end Prog
end DocGen
