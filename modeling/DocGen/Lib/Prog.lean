/-
# Programs that call their environment and raise

A coroutine of the worker is a tree of calls: it returns, raises, or makes one
call and goes on with what the call answered, a value or an exception
(`Prog`). Nothing here fixes what the environment does. A run is read in two
ways: by its trace, the list of calls made and of their answers (`Runs`, a
complete run, and `Steps`, an initial part of one), or by a state the calls
act on (`Exec`, for a relation `Sem` between a call, its answer and the states
before and after).

`try`, `except` and `finally` are `tryCatch` and `tryFinally`; each of the
three has one inversion lemma per way of reading a run (`runs_bind`,
`runs_tryCatch`, `exec_bind` and so on), so that a proof about a coroutine is
a walk along its text.
-/
import Mathlib.Data.List.Forall2
import Mathlib.Tactic.Common

namespace DocGen

/-- What a program may call, and what each call answers when it returns. -/
structure Sig where
  Op : Type
  Res : Op → Type

/-- The answer to a call: a value or an exception. -/
abbrev Sig.Ans (S : Sig) (ε : Type) (op : S.Op) : Type := Except ε (S.Res op)

/-- A program over the calls of `S`, with exceptions in `ε`. -/
inductive Prog (S : Sig) (ε α : Type) : Type
  | ret (a : α)
  | raise (e : ε)
  | call (op : S.Op) (k : S.Ans ε op → Prog S ε α)

/-- One call of a run, with its answer. -/
structure Event (S : Sig) (ε : Type) where
  op : S.Op
  ans : S.Ans ε op

namespace Event

variable {S : Sig} {ε : Type}

/-- The call returned. -/
def Ok (e : Event S ε) : Prop := ∃ a, e.ans = .ok a

/-- The call raised. -/
def Raised (e : Event S ε) : Prop := ∃ x, e.ans = .error x

@[simp] theorem ok_mk {op : S.Op} {a : S.Res op} : (⟨op, .ok a⟩ : Event S ε).Ok := ⟨a, rfl⟩

@[simp] theorem not_ok_mk {op : S.Op} {x : ε} : ¬ (⟨op, .error x⟩ : Event S ε).Ok := by
  rintro ⟨_, h⟩
  cases h

theorem raised_of_not_ok {e : Event S ε} (h : ¬ e.Ok) : e.Raised := by
  obtain ⟨op, x | a⟩ := e
  · exact ⟨x, rfl⟩
  · exact (h ⟨a, rfl⟩).elim

/-- A call that comes after every event of `pre ++ post` that is none of `p`
comes after all of `pre`. -/
theorem prefix_of_split {p : Event S ε → Prop} {pre post l r : List (Event S ε)} {e : Event S ε}
    (hpre : ∀ x ∈ pre, ¬ p x) (h : pre ++ post = l ++ e :: r) (he : p e) : pre <+: l := by
  rcases List.append_eq_append_iff.mp h with ⟨m, hl, -⟩ | ⟨m, hp, hm⟩
  · exact ⟨m, hl.symm⟩
  · rcases m with _ | ⟨x, m⟩
    · exact ⟨[], by simpa using hp⟩
    · obtain ⟨rfl, -⟩ := List.cons.inj hm
      exact absurd he (hpre e (by simp [hp]))

/-- The call that raises in a run whose other calls all returned. -/
theorem last_of_split {body pre post : List (Event S ε)} {e e' : Event S ε}
    (hbody : ∀ x ∈ body, x.Ok) (h : body ++ [e'] = pre ++ e :: post) (he : ¬ e.Ok) :
    pre = body ∧ e = e' ∧ post = [] := by
  obtain ⟨m, rfl⟩ := prefix_of_split (p := fun x => ¬ x.Ok) (fun x hx => not_not.mpr (hbody x hx)) h he
  rw [List.append_assoc, List.append_cancel_left_eq] at h
  rcases List.singleton_eq_append_iff.mp h with ⟨rfl, hm⟩ | ⟨-, hm⟩
  · obtain ⟨rfl, rfl⟩ := List.cons.inj hm
    exact ⟨List.append_nil _, rfl, rfl⟩
  · cases hm

end Event

namespace Prog

variable {S : Sig} {ε α β γ : Type}

def bind : Prog S ε α → (α → Prog S ε β) → Prog S ε β
  | .ret a, f => f a
  | .raise e, _ => .raise e
  | .call op k, f => .call op fun x => (k x).bind f

/-- `try: p except Exception as e: h e`. -/
def tryCatch : Prog S ε α → (ε → Prog S ε α) → Prog S ε α
  | .ret a, _ => .ret a
  | .raise e, h => h e
  | .call op k, h => .call op fun x => (k x).tryCatch h

/-- A program ends with this answer. -/
def ofExcept : Except ε α → Prog S ε α
  | .ok a => .ret a
  | .error e => .raise e

/-- `try: p finally: f`; an exception of `f` replaces what `p` ended with. -/
def tryFinally : Prog S ε α → Prog S ε Unit → Prog S ε α
  | .ret a, f => f.bind fun _ => .ret a
  | .raise e, f => f.bind fun _ => .raise e
  | .call op k, f => .call op fun x => (k x).tryFinally f

/-- `for x in xs: ys.append(f x)`, returning `ys`. -/
def forEach (f : α → Prog S ε β) : List α → Prog S ε (List β)
  | [] => .ret []
  | x :: xs => (f x).bind fun y => (forEach f xs).bind fun ys => .ret (y :: ys)

/-- The call `op` as a program: its answer is the program's. -/
def perform (op : S.Op) : Prog S ε (S.Res op) := .call op ofExcept

instance : Monad (Prog S ε) where
  pure := .ret
  bind := bind

theorem bind_ret : ∀ p : Prog S ε α, p.bind .ret = p
  | .ret _ => rfl
  | .raise _ => rfl
  | .call op k => congrArg (call op) (funext fun x => bind_ret (k x))

theorem bind_assoc : ∀ (p : Prog S ε α) (f : α → Prog S ε β) (g : β → Prog S ε γ),
    (p.bind f).bind g = p.bind fun a => (f a).bind g
  | .ret _, _, _ => rfl
  | .raise _, _, _ => rfl
  | .call op k, f, g => congrArg (call op) (funext fun x => bind_assoc (k x) f g)

instance : LawfulMonad (Prog S ε) :=
  LawfulMonad.mk' (Prog S ε) bind_ret (fun _ _ => rfl) bind_assoc

@[simp] theorem pure_eq (a : α) : (pure a : Prog S ε α) = .ret a := rfl
@[simp] theorem bind_eq (p : Prog S ε α) (f : α → Prog S ε β) : p >>= f = p.bind f := rfl
@[simp] theorem ret_bind (a : α) (f : α → Prog S ε β) : (ret a : Prog S ε α).bind f = f a := rfl
@[simp] theorem raise_bind (e : ε) (f : α → Prog S ε β) :
    (raise e : Prog S ε α).bind f = .raise e := rfl
@[simp] theorem call_bind (op : S.Op) (k : S.Ans ε op → Prog S ε α) (f : α → Prog S ε β) :
    (call op k).bind f = .call op fun x => (k x).bind f := rfl
@[simp] theorem ofExcept_ok (a : α) : (ofExcept (.ok a) : Prog S ε α) = .ret a := rfl
@[simp] theorem ofExcept_error (e : ε) : (ofExcept (.error e) : Prog S ε α) = .raise e := rfl

/-! ### Runs by their traces -/

/-- A complete run of the program: the calls it made with their answers, and
what it ended with. -/
def Runs : Prog S ε α → List (Event S ε) → Except ε α → Prop
  | .ret a, tr, r => tr = [] ∧ r = .ok a
  | .raise e, tr, r => tr = [] ∧ r = .error e
  | .call op k, tr, r => ∃ x tr', tr = ⟨op, x⟩ :: tr' ∧ (k x).Runs tr' r

@[simp] theorem runs_ret {a : α} {tr : List (Event S ε)} {r : Except ε α} :
    (ret a).Runs tr r ↔ tr = [] ∧ r = .ok a := Iff.rfl
@[simp] theorem runs_raise {e : ε} {tr : List (Event S ε)} {r : Except ε α} :
    (raise e : Prog S ε α).Runs tr r ↔ tr = [] ∧ r = .error e := Iff.rfl
theorem runs_call {op : S.Op} {k : S.Ans ε op → Prog S ε α} {tr : List (Event S ε)}
    {r : Except ε α} :
    (call op k).Runs tr r ↔ ∃ x tr', tr = ⟨op, x⟩ :: tr' ∧ (k x).Runs tr' r := Iff.rfl

@[simp] theorem runs_ofExcept {x r : Except ε α} {tr : List (Event S ε)} :
    (ofExcept x : Prog S ε α).Runs tr r ↔ tr = [] ∧ r = x := by
  cases x <;> simp

@[simp] theorem runs_perform {op : S.Op} {tr : List (Event S ε)} {r : S.Ans ε op} :
    (perform op).Runs tr r ↔ tr = [⟨op, r⟩] := by
  simp only [perform, runs_call, runs_ofExcept]
  constructor
  · rintro ⟨x, tr', rfl, rfl, rfl⟩; rfl
  · rintro rfl; exact ⟨r, [], rfl, rfl, rfl⟩

/-- A run of `p >>= f` is a run of `p` that raises, or one that returns and a
run of `f` on its value. -/
theorem runs_bind {f : α → Prog S ε β} {r : Except ε β} : ∀ {p : Prog S ε α} {tr : List (Event S ε)},
    (p.bind f).Runs tr r ↔
      (∃ e, r = .error e ∧ p.Runs tr (.error e)) ∨
      ∃ a tr₁ tr₂, tr = tr₁ ++ tr₂ ∧ p.Runs tr₁ (.ok a) ∧ (f a).Runs tr₂ r
  | .ret a, tr => by simp
  | .raise e, tr => by
    simp only [raise_bind, runs_raise, Except.error.injEq]
    constructor
    · rintro ⟨rfl, rfl⟩; exact Or.inl ⟨e, rfl, rfl, rfl⟩
    · rintro (⟨_, rfl, rfl, rfl⟩ | ⟨_, _, _, _, ⟨_, h⟩, _⟩)
      · exact ⟨rfl, rfl⟩
      · cases h
  | .call op k, tr => by
    simp only [call_bind, runs_call, runs_bind (p := k _)]
    constructor
    · rintro ⟨x, tr', rfl, ⟨e, rfl, h⟩ | ⟨a, t₁, t₂, rfl, h₁, h₂⟩⟩
      · exact Or.inl ⟨e, rfl, x, tr', rfl, h⟩
      · exact Or.inr ⟨a, _, t₂, rfl, ⟨x, t₁, rfl, h₁⟩, h₂⟩
    · rintro (⟨e, rfl, x, tr', rfl, h⟩ | ⟨a, _, t₂, rfl, ⟨x, t₁, rfl, h₁⟩, h₂⟩)
      · exact ⟨x, tr', rfl, Or.inl ⟨e, rfl, h⟩⟩
      · exact ⟨x, t₁ ++ t₂, rfl, Or.inr ⟨a, t₁, t₂, rfl, h₁, h₂⟩⟩

theorem runs_perform_bind {op : S.Op} {f : S.Res op → Prog S ε β} {tr : List (Event S ε)}
    {r : Except ε β} :
    ((perform op).bind f).Runs tr r ↔
      (∃ e, r = .error e ∧ tr = [⟨op, .error e⟩]) ∨
      ∃ a tr', tr = ⟨op, .ok a⟩ :: tr' ∧ (f a).Runs tr' r := by
  simp only [runs_bind, runs_perform]
  refine or_congr Iff.rfl ⟨?_, ?_⟩
  · rintro ⟨a, _, tr', rfl, rfl, h⟩; exact ⟨a, tr', rfl, h⟩
  · rintro ⟨a, tr', rfl, h⟩; exact ⟨a, _, tr', rfl, rfl, h⟩

/-- A run under `except` is one of the body that returns, or one that raises
and a run of the handler. -/
theorem runs_tryCatch {h : ε → Prog S ε α} {r : Except ε α} :
    ∀ {p : Prog S ε α} {tr : List (Event S ε)},
    (p.tryCatch h).Runs tr r ↔
      (∃ a, r = .ok a ∧ p.Runs tr (.ok a)) ∨
      ∃ e tr₁ tr₂, tr = tr₁ ++ tr₂ ∧ p.Runs tr₁ (.error e) ∧ (h e).Runs tr₂ r
  | .ret a, tr => by
    simp only [tryCatch, runs_ret, Except.ok.injEq]
    constructor
    · rintro ⟨rfl, rfl⟩; exact Or.inl ⟨a, rfl, rfl, rfl⟩
    · rintro (⟨_, rfl, rfl, rfl⟩ | ⟨_, _, _, _, ⟨_, h⟩, _⟩)
      · exact ⟨rfl, rfl⟩
      · cases h
  | .raise e, tr => by simp [tryCatch]
  | .call op k, tr => by
    simp only [tryCatch, runs_call, runs_tryCatch (p := k _)]
    constructor
    · rintro ⟨x, tr', rfl, ⟨a, rfl, h⟩ | ⟨e, t₁, t₂, rfl, h₁, h₂⟩⟩
      · exact Or.inl ⟨a, rfl, x, tr', rfl, h⟩
      · exact Or.inr ⟨e, _, t₂, rfl, ⟨x, t₁, rfl, h₁⟩, h₂⟩
    · rintro (⟨a, rfl, x, tr', rfl, h⟩ | ⟨e, _, t₂, rfl, ⟨x, t₁, rfl, h₁⟩, h₂⟩)
      · exact ⟨x, tr', rfl, Or.inl ⟨a, rfl, h⟩⟩
      · exact ⟨x, t₁ ++ t₂, rfl, Or.inr ⟨e, t₁, t₂, rfl, h₁, h₂⟩⟩

/-- `finally` runs once the body has ended, whatever it ended with. -/
theorem runs_tryFinally {f : Prog S ε Unit} {r : Except ε α} :
    ∀ {p : Prog S ε α} {tr : List (Event S ε)},
    (p.tryFinally f).Runs tr r ↔
      ∃ s tr₁ tr₂, tr = tr₁ ++ tr₂ ∧ p.Runs tr₁ s ∧ (f.bind fun _ => ofExcept s).Runs tr₂ r
  | .ret a, tr => by
    simp only [tryFinally, runs_ret]
    constructor
    · intro h; exact ⟨.ok a, [], tr, rfl, ⟨rfl, rfl⟩, h⟩
    · rintro ⟨_, _, t₂, rfl, ⟨rfl, rfl⟩, h⟩; exact h
  | .raise e, tr => by
    simp only [tryFinally, runs_raise]
    constructor
    · intro h; exact ⟨.error e, [], tr, rfl, ⟨rfl, rfl⟩, h⟩
    · rintro ⟨_, _, t₂, rfl, ⟨rfl, rfl⟩, h⟩; exact h
  | .call op k, tr => by
    simp only [tryFinally, runs_call, runs_tryFinally (p := k _)]
    constructor
    · rintro ⟨x, _, rfl, s, t₁, t₂, rfl, h₁, h₂⟩
      exact ⟨s, _, t₂, rfl, ⟨x, t₁, rfl, h₁⟩, h₂⟩
    · rintro ⟨s, _, t₂, rfl, ⟨x, t₁, rfl, h₁⟩, h₂⟩
      exact ⟨x, t₁ ++ t₂, rfl, s, t₁, t₂, rfl, h₁, h₂⟩

/-- The loop over `xs` runs to its end with the trace `tr`, each turn
returning its value of `ys`. -/
inductive AllRun (f : α → Prog S ε β) : List α → List (Event S ε) → List β → Prop
  | nil : AllRun f [] [] []
  | cons {x xs y ys tr₁ tr₂} (h : (f x).Runs tr₁ (.ok y)) (t : AllRun f xs tr₂ ys) :
      AllRun f (x :: xs) (tr₁ ++ tr₂) (y :: ys)

/-- A run of a loop ends with every turn, or in the first turn that raises. -/
theorem runs_forEach {f : α → Prog S ε β} {r : Except ε (List β)} :
    ∀ {xs : List α} {tr : List (Event S ε)}, (forEach f xs).Runs tr r →
      (∃ ys, r = .ok ys ∧ AllRun f xs tr ys) ∨
      ∃ pre x post ys tr₁ tr₂ e, xs = pre ++ x :: post ∧ tr = tr₁ ++ tr₂ ∧ AllRun f pre tr₁ ys ∧
        (f x).Runs tr₂ (.error e) ∧ r = .error e
  | [], tr, h => by
    obtain ⟨rfl, rfl⟩ := h
    exact Or.inl ⟨[], rfl, .nil⟩
  | x :: xs, tr, h => by
    rcases runs_bind.mp h with ⟨e, rfl, he⟩ | ⟨y, t₁, t₂, rfl, h₁, h₂⟩
    · exact Or.inr ⟨[], x, xs, [], [], tr, e, rfl, rfl, .nil, he, rfl⟩
    rcases runs_bind.mp h₂ with ⟨e, rfl, he⟩ | ⟨ys, t₃, t₄, rfl, h₃, h₄⟩
    · rcases runs_forEach he with ⟨_, hr, _⟩ | ⟨pre, z, post, zs, u₁, u₂, e', rfl, rfl, h₄, h₅, hr⟩
      · cases hr
      · cases hr
        exact Or.inr ⟨x :: pre, z, post, y :: zs, t₁ ++ u₁, u₂, e, rfl, by simp, .cons h₁ h₄, h₅, rfl⟩
    · obtain ⟨rfl, rfl⟩ := h₄
      rcases runs_forEach h₃ with ⟨_, hr, h₅⟩ | ⟨_, _, _, _, _, _, _, _, _, _, _, hr⟩
      · cases hr
        rw [List.append_nil]
        exact Or.inl ⟨_, rfl, .cons h₁ h₅⟩
      · cases hr

/-- A loop that returns made every turn. -/
theorem all_of_returns {f : α → Prog S ε β} {xs : List α} {tr : List (Event S ε)} {ys : List β}
    (h : (forEach f xs).Runs tr (.ok ys)) : AllRun f xs tr ys := by
  rcases runs_forEach h with ⟨_, hr, hall⟩ | ⟨_, _, _, _, _, _, _, _, _, _, _, hr⟩
  · cases hr
    exact hall
  · cases hr

namespace AllRun

variable {f : α → Prog S ε β}

/-- When a turn is one call, described by a `z` that has the turn's input and
value, a loop is described by the list of the `z`. -/
theorem collect {ζ : Type} (input : ζ → α) (output : ζ → β) (Q : ζ → Prop) (ev : ζ → Event S ε)
    (hf : ∀ x y t, (f x).Runs t (.ok y) → ∃ z, input z = x ∧ output z = y ∧ Q z ∧ t = [ev z])
    {xs : List α} {tr : List (Event S ε)} {ys : List β} (h : AllRun f xs tr ys) :
    ∃ zs : List ζ, zs.map input = xs ∧ zs.map output = ys ∧ (∀ z ∈ zs, Q z) ∧ tr = zs.map ev := by
  induction h with
  | nil => exact ⟨[], rfl, rfl, by simp, rfl⟩
  | cons h _ ih =>
    obtain ⟨z, rfl, rfl, hz, rfl⟩ := hf _ _ _ h
    obtain ⟨zs, rfl, rfl, hzs, rfl⟩ := ih
    exact ⟨z :: zs, rfl, rfl, by simpa using ⟨hz, hzs⟩, rfl⟩

/-- Every turn of a loop that ran to its end returned. -/
theorem turn {xs : List α} {tr : List (Event S ε)} {ys : List β} (h : AllRun f xs tr ys) :
    ∀ x ∈ xs, ∃ t y, (f x).Runs t (.ok y) := by
  induction h with
  | nil => exact List.forall_mem_nil _
  | cons h _ ih => exact List.forall_mem_cons.mpr ⟨⟨_, _, h⟩, ih⟩

end AllRun

theorem forEach_map {ζ : Type} (f : α → Prog S ε β) (g : ζ → α) :
    ∀ zs : List ζ, forEach f (zs.map g) = forEach (fun z => f (g z)) zs
  | [] => rfl
  | z :: zs => by rw [List.map_cons, forEach, forEach, forEach_map f g zs]

theorem forEach_congr {f g : α → Prog S ε β} : ∀ {xs : List α}, (∀ x ∈ xs, f x = g x) →
    forEach f xs = forEach g xs
  | [], _ => rfl
  | x :: xs, h => by
    rw [forEach, forEach, h x List.mem_cons_self,
      forEach_congr fun y hy => h y (List.mem_cons_of_mem x hy)]

/-- A loop without calls. -/
theorem forEach_ofExcept (f : α → Except ε β) : ∀ xs : List α,
    forEach (fun x => (ofExcept (f x) : Prog S ε β)) xs = ofExcept (xs.mapM f)
  | [] => rfl
  | x :: xs => by
    rw [forEach, forEach_ofExcept f xs, List.mapM_cons]
    rcases f x with e | y
    · rfl
    · rcases xs.mapM f with e | ys <;> rfl

theorem runs_ofExcept_bind {x : Except ε α} {f : α → Prog S ε β} {tr : List (Event S ε)} {r : Except ε β} :
    ((ofExcept x).bind f).Runs tr r ↔
      (∃ e, x = .error e ∧ r = .error e ∧ tr = []) ∨ ∃ a, x = .ok a ∧ (f a).Runs tr r := by
  cases x with
  | error e => simp [and_comm]
  | ok a => simp

/-! ### Initial parts of runs -/

/-- The program makes the calls `tr` and is then at `q`. -/
inductive Steps : Prog S ε α → List (Event S ε) → Prog S ε α → Prop
  | nil {p} : Steps p [] p
  | cons {op k x tr q} : Steps (k x) tr q → Steps (.call op k) (⟨op, x⟩ :: tr) q

theorem Steps.snoc {p : Prog S ε α} {tr : List (Event S ε)} {op : S.Op} {k : S.Ans ε op → Prog S ε α}
    (h : Steps p tr (.call op k)) (x : S.Ans ε op) : Steps p (tr ++ [⟨op, x⟩]) (k x) := by
  generalize hq : call op k = q at h
  induction h with
  | nil => subst hq; exact .cons .nil
  | cons _ ih => exact .cons (ih hq)

/-- The rest of a run is a run of what is left of the program. -/
theorem Steps.runs {p q : Prog S ε α} {tr tr' : List (Event S ε)} {r : Except ε α}
    (h : Steps p tr q) (hq : q.Runs tr' r) : p.Runs (tr ++ tr') r := by
  induction h with
  | nil => exact hq
  | cons _ ih => exact ⟨_, _, rfl, ih hq⟩

/-- A run that returns is at its value in the end. -/
theorem steps_of_runs {a : α} : ∀ {p : Prog S ε α} {tr : List (Event S ε)}, p.Runs tr (.ok a) → Steps p tr (.ret a)
  | .ret _, _, h => by
    obtain ⟨rfl, hr⟩ := h
    cases hr
    exact .nil
  | .raise _, _, h => by
    obtain ⟨-, hr⟩ := h
    cases hr
  | .call _ _, _, h => by
    obtain ⟨x, tr, rfl, h⟩ := h
    exact .cons (steps_of_runs h)

/-- Every program can go on to its end, if every call can be answered. -/
theorem exists_runs (ans : ∀ op : S.Op, S.Ans ε op) :
    ∀ p : Prog S ε α, ∃ tr r, p.Runs tr r ∧ ∀ e ∈ tr, e.ans = ans e.op
  | .ret a => ⟨[], .ok a, ⟨rfl, rfl⟩, by simp⟩
  | .raise e => ⟨[], .error e, ⟨rfl, rfl⟩, by simp⟩
  | .call op k => by
    obtain ⟨tr, r, h, ha⟩ := exists_runs ans (k (ans op))
    exact ⟨⟨op, ans op⟩ :: tr, r, ⟨_, _, rfl, h⟩, by simpa using ha⟩

/-- So an initial part of a run is one of a complete run. -/
theorem Steps.extend {p q : Prog S ε α} {tr : List (Event S ε)} (h : Steps p tr q)
    (ans : ∀ op : S.Op, S.Ans ε op) :
    ∃ tr' r, p.Runs (tr ++ tr') r ∧ ∀ e ∈ tr', e.ans = ans e.op := by
  obtain ⟨tr', r, hr, ha⟩ := exists_runs ans q
  exact ⟨tr', r, h.runs hr, ha⟩

/-- Two runs that begin one list of calls are the same. -/
theorem runs_unique {r r' : Except ε α} : ∀ {p : Prog S ε α} {t t' l l' : List (Event S ε)}, p.Runs t r →
    p.Runs t' r' → t ++ l = t' ++ l' → t = t' ∧ r = r'
  | .ret _, _, _, _, _, ⟨ht, hr⟩, ⟨ht', hr'⟩, _ => ⟨ht.trans ht'.symm, hr.trans hr'.symm⟩
  | .raise _, _, _, _, _, ⟨ht, hr⟩, ⟨ht', hr'⟩, _ => ⟨ht.trans ht'.symm, hr.trans hr'.symm⟩
  | .call op k, _, _, l, l', ⟨x, t, ht, h⟩, ⟨x', t', ht', h'⟩, heq => by
    subst ht ht'
    obtain ⟨he, htl⟩ := List.cons.inj heq
    cases he
    obtain ⟨rfl, rfl⟩ := runs_unique h h' htl
    exact ⟨rfl, rfl⟩

/-! ### Runs on a state -/

end Prog

/-- What a call does to a state: the answers it may give there and the state
each leaves. -/
abbrev Sem (S : Sig) (ε σ : Type) : Type := ∀ op : S.Op, σ → S.Ans ε op → σ → Prop

/-- The state, with the calls made and their answers. -/
def Sem.logged {S : Sig} {ε σ : Type} (sem : Sem S ε σ) : Sem S ε (σ × List (Event S ε)) :=
  fun op s x t => sem op s.1 x t.1 ∧ t.2 = s.2 ++ [⟨op, x⟩]

namespace Prog

variable {S : Sig} {ε σ α β : Type}

/-- A complete run of the program from one state to another. -/
def Exec (sem : Sem S ε σ) : Prog S ε α → σ → Except ε α → σ → Prop
  | .ret a, s, r, t => r = .ok a ∧ t = s
  | .raise e, s, r, t => r = .error e ∧ t = s
  | .call op k, s, r, t => ∃ x u, sem op s x u ∧ (k x).Exec sem u r t

variable {sem : Sem S ε σ}

@[simp] theorem exec_ret {a : α} {s t : σ} {r : Except ε α} :
    (ret a : Prog S ε α).Exec sem s r t ↔ r = .ok a ∧ t = s := Iff.rfl
@[simp] theorem exec_raise {e : ε} {s t : σ} {r : Except ε α} :
    (raise e : Prog S ε α).Exec sem s r t ↔ r = .error e ∧ t = s := Iff.rfl
theorem exec_call {op : S.Op} {k : S.Ans ε op → Prog S ε α} {s t : σ} {r : Except ε α} :
    (call op k).Exec sem s r t ↔ ∃ x u, sem op s x u ∧ (k x).Exec sem u r t := Iff.rfl

/-- A run goes on after an answer. -/
theorem exec_goes_on (op : S.Op) (x : S.Ans ε op) {k : S.Ans ε op → Prog S ε α} {s u : σ}
    {r : Except ε α} {P : σ → Prop} (hx : sem op s x u) (h : ∃ t, (k x).Exec sem u r t ∧ P t) :
    ∃ t, (call op k).Exec sem s r t ∧ P t := by
  obtain ⟨t, ht, hP⟩ := h
  exact ⟨t, ⟨x, u, hx, ht⟩, hP⟩
@[simp] theorem exec_ofExcept {x r : Except ε α} {s t : σ} :
    (ofExcept x : Prog S ε α).Exec sem s r t ↔ r = x ∧ t = s := by
  cases x <;> simp

@[simp] theorem exec_perform {op : S.Op} {s t : σ} {r : S.Ans ε op} :
    (perform op).Exec sem s r t ↔ sem op s r t := by
  simp only [perform, exec_call, exec_ofExcept]
  constructor
  · rintro ⟨x, u, h, rfl, rfl⟩; exact h
  · intro h; exact ⟨r, t, h, rfl, rfl⟩

/-- Every program runs to an end, if every call has an answer. -/
theorem exec_total (h : ∀ op s, ∃ x t, sem op s x t) :
    ∀ (p : Prog S ε α) (s : σ), ∃ r t, p.Exec sem s r t
  | .ret a, s => ⟨.ok a, s, rfl, rfl⟩
  | .raise e, s => ⟨.error e, s, rfl, rfl⟩
  | .call op k, s => by
    obtain ⟨x, u, hx⟩ := h op s
    obtain ⟨r, t, ht⟩ := exec_total h (k x) u
    exact ⟨r, t, x, u, hx, ht⟩

/-- With more answers there are more runs. -/
theorem exec_mono {sem' : Sem S ε σ} (h : ∀ op s x t, sem op s x t → sem' op s x t) {r : Except ε α}
    {t : σ} : ∀ {p : Prog S ε α} {s : σ}, p.Exec sem s r t → p.Exec sem' s r t
  | .ret _, _, hp => hp
  | .raise _, _, hp => hp
  | .call _ _, _, ⟨x, u, hx, hp⟩ => ⟨x, u, h _ _ _ _ hx, exec_mono h hp⟩

theorem exec_bind {f : α → Prog S ε β} {r : Except ε β} {t : σ} : ∀ {p : Prog S ε α} {s : σ},
    (p.bind f).Exec sem s r t ↔
      (∃ e, r = .error e ∧ p.Exec sem s (.error e) t) ∨
      ∃ a u, p.Exec sem s (.ok a) u ∧ (f a).Exec sem u r t
  | .ret a, s => by simp
  | .raise e, s => by simp
  | .call op k, s => by
    simp only [call_bind, exec_call, exec_bind (p := k _)]
    constructor
    · rintro ⟨x, u, h, ⟨e, rfl, h'⟩ | ⟨a, v, h₁, h₂⟩⟩
      · exact Or.inl ⟨e, rfl, x, u, h, h'⟩
      · exact Or.inr ⟨a, v, ⟨x, u, h, h₁⟩, h₂⟩
    · rintro (⟨e, rfl, x, u, h, h'⟩ | ⟨a, v, ⟨x, u, h, h₁⟩, h₂⟩)
      · exact ⟨x, u, h, Or.inl ⟨e, rfl, h'⟩⟩
      · exact ⟨x, u, h, Or.inr ⟨a, v, h₁, h₂⟩⟩

theorem exec_tryCatch {h : ε → Prog S ε α} {r : Except ε α} {t : σ} :
    ∀ {p : Prog S ε α} {s : σ},
    (p.tryCatch h).Exec sem s r t ↔
      (∃ a, r = .ok a ∧ p.Exec sem s (.ok a) t) ∨
      ∃ e u, p.Exec sem s (.error e) u ∧ (h e).Exec sem u r t
  | .ret a, s => by simp [tryCatch]
  | .raise e, s => by simp [tryCatch]
  | .call op k, s => by
    simp only [tryCatch, exec_call, exec_tryCatch (p := k _)]
    constructor
    · rintro ⟨x, u, h, ⟨a, rfl, h'⟩ | ⟨e, v, h₁, h₂⟩⟩
      · exact Or.inl ⟨a, rfl, x, u, h, h'⟩
      · exact Or.inr ⟨e, v, ⟨x, u, h, h₁⟩, h₂⟩
    · rintro (⟨a, rfl, x, u, h, h'⟩ | ⟨e, v, ⟨x, u, h, h₁⟩, h₂⟩)
      · exact ⟨x, u, h, Or.inl ⟨a, rfl, h'⟩⟩
      · exact ⟨x, u, h, Or.inr ⟨e, v, h₁, h₂⟩⟩

theorem exec_tryFinally {f : Prog S ε Unit} {r : Except ε α} {t : σ} :
    ∀ {p : Prog S ε α} {s : σ},
    (p.tryFinally f).Exec sem s r t ↔
      ∃ y u, p.Exec sem s y u ∧ (f.bind fun _ => ofExcept y).Exec sem u r t
  | .ret a, s => by simp [tryFinally]
  | .raise e, s => by simp [tryFinally]
  | .call op k, s => by
    simp only [tryFinally, exec_call, exec_tryFinally (p := k _)]
    constructor
    · rintro ⟨x, u, h, y, v, h₁, h₂⟩; exact ⟨y, v, ⟨x, u, h, h₁⟩, h₂⟩
    · rintro ⟨y, v, ⟨x, u, h, h₁⟩, h₂⟩; exact ⟨x, u, h, y, v, h₁, h₂⟩

/-- A loop runs to its end, if each turn does from where the turns before it
have ended. -/
theorem exec_forEach {f : α → Prog S ε β} (J : List α → σ → Prop) : ∀ {xs pre : List α} {s : σ},
    (∀ l x r, pre ++ xs = l ++ x :: r → ∀ s, J l s →
      ∃ b u, (f x).Exec sem s (.ok b) u ∧ J (l ++ [x]) u) →
    J pre s → ∃ bs t, (forEach f xs).Exec sem s (.ok bs) t ∧ J (pre ++ xs) t
  | [], pre, s, _, hJ => ⟨[], s, ⟨rfl, rfl⟩, by rwa [List.append_nil]⟩
  | x :: xs, pre, s, hf, hJ => by
    obtain ⟨b, u, hx, hu⟩ := hf pre x xs rfl s hJ
    have hassoc : pre ++ x :: xs = (pre ++ [x]) ++ xs := by rw [List.append_assoc, List.singleton_append]
    rw [hassoc] at hf ⊢
    obtain ⟨bs, t, hxs, ht⟩ := exec_forEach J hf hu
    exact ⟨b :: bs, t, exec_bind.mpr (Or.inr ⟨b, u, hx, exec_bind.mpr (Or.inr ⟨bs, t, hxs, rfl, rfl⟩)⟩), ht⟩

end Prog

/-! ### Programs over the calls of two signatures -/

/-- The calls of `S` and those of `T`. -/
abbrev Sig.sum (S T : Sig) : Sig := ⟨S.Op ⊕ T.Op, Sum.elim S.Res T.Res⟩

variable {S T : Sig} {ε α : Type}

/-- A program that calls `S` only, among the calls of both. -/
def Prog.inl : Prog S ε α → Prog (S.sum T) ε α
  | .ret a => .ret a
  | .raise e => .raise e
  | .call op k => .call (.inl op) fun x => (k x).inl

/-- A program that calls `T` only, among the calls of both. -/
def Prog.inr : Prog T ε α → Prog (S.sum T) ε α
  | .ret a => .ret a
  | .raise e => .raise e
  | .call op k => .call (.inr op) fun x => (k x).inr

namespace Event

def inl (e : Event S ε) : Event (S.sum T) ε := ⟨.inl e.op, e.ans⟩

def inr (e : Event T ε) : Event (S.sum T) ε := ⟨.inr e.op, e.ans⟩

/-- The event, if it is one of the first signature. -/
def left? : Event (S.sum T) ε → Option (Event S ε)
  | ⟨.inl op, x⟩ => some ⟨op, x⟩
  | ⟨.inr _, _⟩ => none

/-- The event, if it is one of the second signature. -/
def right? : Event (S.sum T) ε → Option (Event T ε)
  | ⟨.inl _, _⟩ => none
  | ⟨.inr op, x⟩ => some ⟨op, x⟩

theorem inl_injective {e e' : Event S ε} (h : e.inl (T := T) = e'.inl) : e = e' := by
  cases e
  cases e'
  cases h
  rfl

theorem inr_injective {e e' : Event T ε} (h : e.inr (S := S) = e'.inr) : e = e' := by
  cases e
  cases e'
  cases h
  rfl

theorem filterMap_left_inl (tr : List (Event S ε)) :
    (tr.map (inl (T := T))).filterMap left? = tr := by
  simp [List.filterMap_map, Function.comp_def, inl, left?]

theorem filterMap_left_inr (tr : List (Event T ε)) :
    (tr.map (inr (S := S))).filterMap left? = [] := by
  simp [List.filterMap_map, Function.comp_def, inr, left?]

theorem filterMap_right_inr (tr : List (Event T ε)) :
    (tr.map (inr (S := S))).filterMap right? = tr := by
  simp [List.filterMap_map, Function.comp_def, inr, right?]

/-- A run that makes the calls of the second signature first. -/
theorem filterMap_left_append (t : List (Event T ε)) (u : List (Event S ε)) :
    (t.map inr ++ u.map inl).filterMap left? = u := by
  rw [List.filterMap_append, filterMap_left_inr, filterMap_left_inl, List.nil_append]

end Event

namespace Prog

theorem inl_bind {β : Type} (f : α → Prog S ε β) : ∀ p : Prog S ε α,
    ((p.bind f).inl : Prog (S.sum T) ε β) = p.inl.bind fun a => (f a).inl
  | .ret _ => rfl
  | .raise _ => rfl
  | .call op k => congrArg (call (S := S.sum T) (Sum.inl op)) (funext fun x => inl_bind f (k x))

theorem runs_inl {r : Except ε α} : ∀ {p : Prog S ε α} {tr : List (Event (S.sum T) ε)},
    (p.inl (T := T)).Runs tr r ↔ ∃ t, tr = t.map Event.inl ∧ p.Runs t r
  | .ret a, tr => by simp [inl]
  | .raise e, tr => by simp [inl]
  | .call op k, tr => by
    simp only [inl, runs_call]
    constructor
    · rintro ⟨x, tr', rfl, h⟩
      obtain ⟨t, rfl, ht⟩ := runs_inl.mp h
      exact ⟨⟨op, x⟩ :: t, rfl, x, t, rfl, ht⟩
    · rintro ⟨_, rfl, x, t, rfl, hr⟩
      exact ⟨x, t.map Event.inl, rfl, runs_inl.mpr ⟨t, rfl, hr⟩⟩

theorem runs_inr {r : Except ε α} : ∀ {p : Prog T ε α} {tr : List (Event (S.sum T) ε)},
    (p.inr (S := S)).Runs tr r ↔ ∃ t, tr = t.map Event.inr ∧ p.Runs t r
  | .ret a, tr => by simp [inr]
  | .raise e, tr => by simp [inr]
  | .call op k, tr => by
    simp only [inr, runs_call]
    constructor
    · rintro ⟨x, tr', rfl, h⟩
      obtain ⟨t, rfl, ht⟩ := runs_inr.mp h
      exact ⟨⟨op, x⟩ :: t, rfl, x, t, rfl, ht⟩
    · rintro ⟨_, rfl, x, t, rfl, hr⟩
      exact ⟨x, t.map Event.inr, rfl, runs_inr.mpr ⟨t, rfl, hr⟩⟩

end Prog
end DocGen
