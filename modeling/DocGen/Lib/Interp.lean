/-
# Calls implemented by programs

A program over the calls of `S` becomes one over the calls of `T` when each
call of `S` is a program over `T` (`interp`): the ports of a pipeline become
the adapters behind them. The runs of the result are those of the program
with each call replaced by a run of what implements it (`runs_interp`), so
what is proved of the bare calls is proved of every implementation.
-/
import DocGen.Lib.Prog

namespace DocGen

namespace Prog

variable {S T : Sig} {ε α β γ : Type}

/-- The program goes on with what `p` ended with, a value or an exception. -/
def andThen : Prog T ε α → (Except ε α → Prog T ε β) → Prog T ε β
  | .ret a, k => k (.ok a)
  | .raise e, k => k (.error e)
  | .call op f, k => .call op fun x => (f x).andThen k

theorem andThen_ofExcept : ∀ p : Prog T ε α, p.andThen ofExcept = p
  | .ret _ => rfl
  | .raise _ => rfl
  | .call op f => congrArg (call op) (funext fun x => andThen_ofExcept (f x))

theorem andThen_bind : ∀ (p : Prog T ε α) (k : Except ε α → Prog T ε β) (f : β → Prog T ε γ),
    (p.andThen k).bind f = p.andThen fun x => (k x).bind f
  | .ret _, _, _ => rfl
  | .raise _, _, _ => rfl
  | .call op g, k, f => congrArg (call op) (funext fun x => andThen_bind (g x) k f)

theorem andThen_tryCatch : ∀ (p : Prog T ε α) (k : Except ε α → Prog T ε β)
    (h : ε → Prog T ε β), (p.andThen k).tryCatch h = p.andThen fun x => (k x).tryCatch h
  | .ret _, _, _ => rfl
  | .raise _, _, _ => rfl
  | .call op g, k, h => congrArg (call op) (funext fun x => andThen_tryCatch (g x) k h)

theorem runs_andThen {k : Except ε α → Prog T ε β} {r : Except ε β} :
    ∀ {p : Prog T ε α} {tr : List (Event T ε)},
    (p.andThen k).Runs tr r ↔ ∃ x t₁ t₂, tr = t₁ ++ t₂ ∧ p.Runs t₁ x ∧ (k x).Runs t₂ r
  | .ret a, tr => by simp [andThen]
  | .raise e, tr => by simp [andThen]
  | .call op f, tr => by
    simp only [andThen, runs_call, runs_andThen (p := f _)]
    constructor
    · rintro ⟨y, _, rfl, x, t₁, t₂, rfl, h₁, h₂⟩
      exact ⟨x, _, t₂, rfl, ⟨y, t₁, rfl, h₁⟩, h₂⟩
    · rintro ⟨x, _, t₂, rfl, ⟨y, t₁, rfl, h₁⟩, h₂⟩
      exact ⟨y, t₁ ++ t₂, rfl, x, t₁, t₂, rfl, h₁, h₂⟩

/-- The program with each call implemented by `h`. -/
def interp (h : ∀ op : S.Op, Prog T ε (S.Res op)) : Prog S ε α → Prog T ε α
  | .ret a => .ret a
  | .raise e => .raise e
  | .call op k => (h op).andThen fun x => (k x).interp h

variable {h : ∀ op : S.Op, Prog T ε (S.Res op)}

@[simp] theorem interp_ret (a : α) : (ret a : Prog S ε α).interp h = .ret a := rfl
@[simp] theorem interp_raise (e : ε) : (raise e : Prog S ε α).interp h = .raise e := rfl

theorem interp_ofExcept (x : Except ε α) : (ofExcept x : Prog S ε α).interp h = ofExcept x := by
  cases x <;> rfl

@[simp] theorem interp_perform (op : S.Op) : (perform op).interp h = h op := by
  unfold perform interp
  simp only [interp_ofExcept]
  exact andThen_ofExcept (h op)

@[simp] theorem interp_bind (f : α → Prog S ε β) : ∀ p : Prog S ε α,
    (p.bind f).interp h = (p.interp h).bind fun a => (f a).interp h
  | .ret _ => rfl
  | .raise _ => rfl
  | .call op k => by
    rw [call_bind, interp, interp, andThen_bind]
    congr 1
    exact funext fun x => interp_bind f (k x)

@[simp] theorem interp_tryCatch (g : ε → Prog S ε α) : ∀ p : Prog S ε α,
    (p.tryCatch g).interp h = (p.interp h).tryCatch fun e => (g e).interp h
  | .ret _ => rfl
  | .raise _ => rfl
  | .call op k => by
    rw [tryCatch, interp, interp, andThen_tryCatch]
    congr 1
    exact funext fun x => interp_tryCatch g (k x)

@[simp] theorem interp_forEach (f : α → Prog S ε β) : ∀ xs : List α,
    (forEach f xs).interp h = forEach (fun x => (f x).interp h) xs
  | [] => rfl
  | x :: xs => by simp only [forEach, interp_bind, interp_forEach f xs, interp_ret]

/-- The calls `tr` are runs, one after the other, of what implements `es`. -/
inductive Implements (h : ∀ op : S.Op, Prog T ε (S.Res op)) :
    List (Event S ε) → List (Event T ε) → Prop
  | nil : Implements h [] []
  | cons {e es t₁ t₂} (hr : (h e.op).Runs t₁ e.ans) (ht : Implements h es t₂) :
      Implements h (e :: es) (t₁ ++ t₂)

theorem runs_interp {r : Except ε α} : ∀ {p : Prog S ε α} {tr : List (Event T ε)},
    (p.interp h).Runs tr r ↔ ∃ es, Implements h es tr ∧ p.Runs es r
  | .ret a, tr => by
    constructor
    · intro ⟨htr, hr⟩; exact ⟨[], htr ▸ .nil, rfl, hr⟩
    · intro ⟨es, hi, hes, hr⟩
      cases hi with
      | nil => exact ⟨rfl, hr⟩
      | cons => cases hes
  | .raise e, tr => by
    constructor
    · intro ⟨htr, hr⟩; exact ⟨[], htr ▸ .nil, rfl, hr⟩
    · intro ⟨es, hi, hes, hr⟩
      cases hi with
      | nil => exact ⟨rfl, hr⟩
      | cons => cases hes
  | .call op k, tr => by
    rw [interp, runs_andThen]
    constructor
    · intro ⟨x, t₁, t₂, htr, h₁, h₂⟩
      obtain ⟨es, hi, hr⟩ := runs_interp.mp h₂
      exact ⟨⟨op, x⟩ :: es, htr ▸ .cons h₁ hi, x, es, rfl, hr⟩
    · intro ⟨_, hi, x, es, hes, hr⟩
      subst hes
      cases hi with
      | cons h₁ ht => exact ⟨x, _, _, rfl, h₁, runs_interp.mpr ⟨es, ht, hr⟩⟩

namespace Implements

variable {es : List (Event S ε)} {tr : List (Event T ε)}

/-- The calls of a list of events are those of its first part, then those of the rest. -/
theorem append {es₁ es₂ : List (Event S ε)} (hi : Implements h (es₁ ++ es₂) tr) :
    ∃ t₁ t₂, tr = t₁ ++ t₂ ∧ Implements h es₁ t₁ ∧ Implements h es₂ t₂ := by
  induction es₁ generalizing tr with
  | nil => exact ⟨[], tr, rfl, .nil, hi⟩
  | cons e es₁ ih =>
    cases hi with
    | cons hr ht =>
      obtain ⟨t₁, t₂, rfl, h₁, h₂⟩ := ih ht
      exact ⟨_, t₂, (List.append_assoc ..).symm, .cons hr h₁, h₂⟩

theorem concat {es₁ es₂ : List (Event S ε)} {t₁ t₂ : List (Event T ε)} (h₁ : Implements h es₁ t₁)
    (h₂ : Implements h es₂ t₂) : Implements h (es₁ ++ es₂) (t₁ ++ t₂) := by
  induction h₁ with
  | nil => exact h₂
  | cons hr _ ih =>
    rw [List.cons_append, List.append_assoc]
    exact .cons hr ih

/-- Each call is one of a run of what implements an event. -/
theorem mem (hi : Implements h es tr) {e : Event T ε} (he : e ∈ tr) :
    ∃ e₀ ∈ es, ∃ t, e ∈ t ∧ (∀ x ∈ t, x ∈ tr) ∧ (h e₀.op).Runs t e₀.ans := by
  induction hi with
  | nil => cases he
  | cons hr _ ih =>
    rcases List.mem_append.mp he with he | he
    · exact ⟨_, List.mem_cons_self, _, he, fun x => List.mem_append_left _, hr⟩
    · obtain ⟨e₀, h₀, t, ht, hsub, hrun⟩ := ih he
      exact ⟨e₀, List.mem_cons_of_mem _ h₀, t, ht, fun x hx => List.mem_append_right _ (hsub x hx), hrun⟩

/-- Each event is implemented by a run whose calls are among those made. -/
theorem run (hi : Implements h es tr) {e : Event S ε} (he : e ∈ es) :
    ∃ t, (∀ x ∈ t, x ∈ tr) ∧ (h e.op).Runs t e.ans := by
  induction hi with
  | nil => cases he
  | cons hr _ ih =>
    rcases List.mem_cons.mp he with rfl | he
    · exact ⟨_, fun x => List.mem_append_left _, hr⟩
    · obtain ⟨t, hsub, hrun⟩ := ih he
      exact ⟨t, fun x hx => List.mem_append_right _ (hsub x hx), hrun⟩

end Implements

end Prog
end DocGen
