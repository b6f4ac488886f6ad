/-
# Programs that keep a protocol

A protocol is an automaton over calls: which calls a state allows, which
answers they can have, and the state after. `Follows A Q p t` says that `p`,
begun in the state `t`, makes only calls that are allowed, whatever they
answer, and that `Q` holds of what it ends with and of the state then. There is
one rule for each way programs are put together, as for `Calls`, and a run is
never stuck outside the protocol (`follows_call`).

A program is a well-founded tree, so every run of it comes to an end: each call
leads to a program below it (`Next`).
-/
import DocGen.Lib.Calls
import DocGen.Lib.Interp

namespace DocGen

/-- Which calls a state allows, which answers a call can have, and the state
after the call and its answer. -/
structure Protocol (S : Sig) (ε τ : Type) where
  allows : τ → S.Op → Prop
  answers : (op : S.Op) → S.Ans ε op → Prop
  next : τ → (op : S.Op) → S.Ans ε op → τ

namespace Protocol

variable {S T : Sig} {ε τ : Type}

/-- The protocol for the calls of the first signature. -/
def left (A : Protocol (S.sum T) ε τ) : Protocol S ε τ where
  allows t op := A.allows t (.inl op)
  answers op x := A.answers (.inl op) x
  next t op x := A.next t (.inl op) x

/-- The protocol for the calls of the second signature. -/
def right (A : Protocol (S.sum T) ε τ) : Protocol T ε τ where
  allows t op := A.allows t (.inr op)
  answers op x := A.answers (.inr op) x
  next t op x := A.next t (.inr op) x

/-- The state after the calls of a trace. -/
def after (A : Protocol S ε τ) (t : τ) (tr : List (Event S ε)) : τ :=
  tr.foldl (fun t e => A.next t e.op e.ans) t

@[simp] theorem after_nil (A : Protocol S ε τ) (t : τ) : A.after t [] = t := rfl

@[simp] theorem after_snoc (A : Protocol S ε τ) (t : τ) (tr : List (Event S ε)) (e : Event S ε) :
    A.after t (tr ++ [e]) = A.next (A.after t tr) e.op e.ans := by
  simp [after, List.foldl_append]

end Protocol

namespace Prog

variable {S T : Sig} {ε τ α β : Type} {A : Protocol S ε τ}

/-- The program keeps the protocol from the state `t`, and ends as `Q` says. -/
def Follows (A : Protocol S ε τ) (Q : Except ε α → τ → Prop) : Prog S ε α → τ → Prop
  | .ret a, t => Q (.ok a) t
  | .raise e, t => Q (.error e) t
  | .call op k, t => A.allows t op ∧ ∀ x, A.answers op x → (k x).Follows A Q (A.next t op x)

variable {Q Q' : Except ε α → τ → Prop} {t : τ}

theorem follows_call {op : S.Op} {k : S.Ans ε op → Prog S ε α}
    (h : (call op k).Follows A Q t) {x : S.Ans ε op} (hx : A.answers op x) :
    (k x).Follows A Q (A.next t op x) := h.2 x hx

theorem follows_ofExcept : ∀ {x : Except ε α}, Q x t → (ofExcept x : Prog S ε α).Follows A Q t
  | .ok _, h => h
  | .error _, h => h

theorem follows_perform {op : S.Op} {Q : S.Ans ε op → τ → Prop} (hop : A.allows t op)
    (h : ∀ x, A.answers op x → Q x (A.next t op x)) :
    (perform op : Prog S ε (S.Res op)).Follows A Q t :=
  ⟨hop, fun x hx => follows_ofExcept (h x hx)⟩

theorem Follows.mono (hQ : ∀ x t, Q x t → Q' x t) : ∀ {p : Prog S ε α} {t : τ},
    p.Follows A Q t → p.Follows A Q' t
  | .ret _, _, h => hQ _ _ h
  | .raise _, _, h => hQ _ _ h
  | .call _ _, _, h => ⟨h.1, fun x hx => (h.2 x hx).mono hQ⟩

theorem follows_bind {f : α → Prog S ε β} {Q : Except ε β → τ → Prop} : ∀ {p : Prog S ε α} {t : τ},
    p.Follows A (fun x t => match x with | .ok a => (f a).Follows A Q t | .error e => Q (.error e) t) t →
      (p.bind f).Follows A Q t
  | .ret _, _, h => h
  | .raise _, _, h => h
  | .call _ _, _, h => ⟨h.1, fun x hx => follows_bind (h.2 x hx)⟩

theorem follows_tryCatch {h : ε → Prog S ε α} : ∀ {p : Prog S ε α} {t : τ},
    p.Follows A (fun x t => match x with | .ok a => Q (.ok a) t | .error e => (h e).Follows A Q t) t →
      (p.tryCatch h).Follows A Q t
  | .ret _, _, hp => hp
  | .raise _, _, hp => hp
  | .call _ _, _, hp => ⟨hp.1, fun x hx => follows_tryCatch (hp.2 x hx)⟩

theorem follows_tryFinally {f : Prog S ε Unit} : ∀ {p : Prog S ε α} {t : τ},
    p.Follows A (fun x t => (f.bind fun _ => ofExcept x).Follows A Q t) t →
      (p.tryFinally f).Follows A Q t
  | .ret _, _, hp => hp
  | .raise _, _, hp => hp
  | .call _ _, _, hp => ⟨hp.1, fun x hx => follows_tryFinally (hp.2 x hx)⟩

theorem follows_andThen {k : Except ε α → Prog S ε β} {Q : Except ε β → τ → Prop} :
    ∀ {p : Prog S ε α} {t : τ}, p.Follows A (fun x t => (k x).Follows A Q t) t → (p.andThen k).Follows A Q t
  | .ret _, _, h => h
  | .raise _, _, h => h
  | .call _ _, _, h => ⟨h.1, fun x hx => follows_andThen (h.2 x hx)⟩

/-! ### Programs that end where they began -/

/-- The program keeps the protocol, and ends in the state it began in. -/
def Restores (A : Protocol S ε τ) (p : Prog S ε α) (t : τ) : Prop := p.Follows A (fun _ t' => t' = t) t

theorem restores_ret {a : α} : (ret a : Prog S ε α).Restores A t := rfl

theorem restores_bind {p : Prog S ε α} {f : α → Prog S ε β} (hp : p.Restores A t)
    (hf : ∀ a, (f a).Restores A t) : (p.bind f).Restores A t := by
  refine follows_bind (hp.mono fun x t' ht => ?_)
  subst ht
  cases x with
  | ok a => exact hf a
  | error e => rfl

theorem restores_tryCatch {p : Prog S ε α} {h : ε → Prog S ε α} (hp : p.Restores A t)
    (hh : ∀ e, (h e).Restores A t) : (p.tryCatch h).Restores A t := by
  refine follows_tryCatch (hp.mono fun x t' ht => ?_)
  subst ht
  cases x with
  | ok a => rfl
  | error e => exact hh e

/-- A program whose calls are implemented by programs that end where they
began. -/
theorem restores_interp {h : ∀ op : T.Op, Prog S ε (T.Res op)} (hh : ∀ op, (h op).Restores A t) :
    ∀ p : Prog T ε α, (p.interp h).Restores A t
  | .ret _ => rfl
  | .raise _ => rfl
  | .call op k => follows_andThen ((hh op).mono fun x t' ht => by
      rw [ht]
      exact restores_interp hh (k x))

/-- A program whose calls are all allowed and change no state. -/
theorem restores_of_calls : ∀ {p : Prog S ε α},
    p.Calls (fun op => A.allows t op ∧ ∀ x, A.answers op x → A.next t op x = t) → p.Restores A t
  | .ret _, _ => rfl
  | .raise _, _ => rfl
  | .call op _, h => ⟨h.1.1, fun x hx => by
      rw [h.1.2 x hx]
      exact restores_of_calls (h.2 x)⟩

section

variable {A : Protocol (S.sum T) ε τ}

theorem follows_inl : ∀ {p : Prog S ε α} {t : τ}, p.Follows A.left Q t →
    (p.inl : Prog (S.sum T) ε α).Follows A Q t
  | .ret _, _, h => h
  | .raise _, _, h => h
  | .call _ _, _, h => ⟨h.1, fun x hx => follows_inl (h.2 x hx)⟩

theorem follows_inr : ∀ {p : Prog T ε α} {t : τ}, p.Follows A.right Q t →
    (p.inr : Prog (S.sum T) ε α).Follows A Q t
  | .ret _, _, h => h
  | .raise _, _, h => h
  | .call _ _, _, h => ⟨h.1, fun x hx => follows_inr (h.2 x hx)⟩

end

/-! ### Every run comes to an end -/

/-- The program goes on as the other after its next call. -/
inductive Next : Prog S ε α → Prog S ε α → Prop
  | call {op : S.Op} (k : S.Ans ε op → Prog S ε α) (x : S.Ans ε op) : Next (k x) (.call op k)

theorem acc_next : ∀ p : Prog S ε α, Acc Next p
  | .ret _ => ⟨_, fun _ h => nomatch h⟩
  | .raise _ => ⟨_, fun _ h => nomatch h⟩
  | .call op k => ⟨_, fun q h => by
      cases h with
      | call _ x => exact acc_next (k x)⟩

theorem next_wellFounded : WellFounded (Next : Prog S ε α → Prog S ε α → Prop) := ⟨acc_next⟩

end Prog
end DocGen
