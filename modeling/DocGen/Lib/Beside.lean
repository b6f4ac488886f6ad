/-
# A program beside its environment

One program makes its calls on a state that an environment changes at any
moment between them (`Beside`). So at each call the program may rely only on
an assertion that the environment keeps (`Stable`). `Safe` asks for one at each
call, and for the invariant to follow from it; its rules are those of a
weakest precondition, and `safe_reach` gives the invariant in every state that
any interleaving of the two reaches.
-/
import DocGen.Lib.Interp
import Mathlib.Logic.Relation

namespace DocGen

/-- The meaning of the calls, the steps of the environment, and the invariant. -/
structure Beside (S : Sig) (ε σ : Type) where
  sem : Sem S ε σ
  env : σ → σ → Prop
  Inv : σ → Prop

namespace Beside

variable {S : Sig} {ε σ α β : Type}

/-- The environment keeps the assertion. -/
def Stable (B : Beside S ε σ) (R : σ → Prop) : Prop := ∀ s t, R s → B.env s t → R t

/-- A step of the environment, or the next call of the program. -/
inductive Step (B : Beside S ε σ) : Prog S ε α × σ → Prog S ε α × σ → Prop
  | env {p s t} (h : B.env s t) : Step B (p, s) (p, t)
  | call {op k s x t} (h : B.sem op s x t) : Step B (.call op k, s) (k x, t)

/-- The program, begun as `p` in the state `s`, is at `q` in the state `t`. -/
def Reach (B : Beside S ε σ) (p : Prog S ε α) (s : σ) (q : Prog S ε α) (t : σ) : Prop :=
  Relation.ReflTransGen (Step B) (p, s) (q, t)

variable {B : Beside S ε σ} {p q : Prog S ε α} {s t u : σ}

theorem Reach.env (h : B.Reach p s q t) (hs : B.env t u) : B.Reach p s q u := h.tail (.env hs)

theorem Reach.call {op : S.Op} {k : S.Ans ε op → Prog S ε α} (h : B.Reach p s (.call op k) t) (x : S.Ans ε op)
    (hx : B.sem op t x u) : B.Reach p s (k x) u := h.tail (.call hx)

end Beside

namespace Prog

variable {S : Sig} {ε σ α β : Type} {B : Beside S ε σ}

/-- At each call the program relies on a stable assertion that gives the
invariant, and it ends as `Q` says. -/
def Safe (B : Beside S ε σ) (Q : Except ε α → σ → Prop) : Prog S ε α → σ → Prop
  | .ret a, s => Q (.ok a) s
  | .raise e, s => Q (.error e) s
  | .call op k, s => ∃ R : σ → Prop, R s ∧ B.Stable R ∧ (∀ s, R s → B.Inv s) ∧
    ∀ s x t, R s → B.sem op s x t → (k x).Safe B Q t

/-! ### Rules -/

variable {Q Q' : Except ε α → σ → Prop} {s : σ}

theorem safe_ofExcept : ∀ {x : Except ε α}, Q x s → (ofExcept x : Prog S ε α).Safe B Q s
  | .ok _, h => h
  | .error _, h => h

/-- One call, with the assertion relied on. -/
theorem safe_perform {op : S.Op} {Q : S.Ans ε op → σ → Prop} (R : σ → Prop) (hR : R s) (hstable : B.Stable R)
    (hI : ∀ s, R s → B.Inv s) (h : ∀ s x t, R s → B.sem op s x t → Q x t) :
    (perform op : Prog S ε (S.Res op)).Safe B Q s :=
  ⟨R, hR, hstable, hI, fun s x t hR hx => safe_ofExcept (h s x t hR hx)⟩

theorem Safe.mono (hQ : ∀ x s, Q x s → Q' x s) : ∀ {p : Prog S ε α} {s : σ}, p.Safe B Q s → p.Safe B Q' s
  | .ret _, _, h => hQ _ _ h
  | .raise _, _, h => hQ _ _ h
  | .call _ _, _, ⟨R, hR, hstable, hI, h⟩ =>
    ⟨R, hR, hstable, hI, fun s x t hs hx => (h s x t hs hx).mono hQ⟩

theorem safe_bind {f : α → Prog S ε β} {Q : Except ε β → σ → Prop} : ∀ {p : Prog S ε α} {s : σ},
    p.Safe B (fun x s => match x with | .ok a => (f a).Safe B Q s | .error e => Q (.error e) s) s →
      (p.bind f).Safe B Q s
  | .ret _, _, h => h
  | .raise _, _, h => h
  | .call _ _, _, ⟨R, hR, hstable, hI, h⟩ =>
    ⟨R, hR, hstable, hI, fun s x t hs hx => safe_bind (h s x t hs hx)⟩

theorem safe_tryCatch {h : ε → Prog S ε α} : ∀ {p : Prog S ε α} {s : σ},
    p.Safe B (fun x s => match x with | .ok a => Q (.ok a) s | .error e => (h e).Safe B Q s) s →
      (p.tryCatch h).Safe B Q s
  | .ret _, _, hp => hp
  | .raise _, _, hp => hp
  | .call _ _, _, ⟨R, hR, hstable, hI, hp⟩ =>
    ⟨R, hR, hstable, hI, fun s x t hs hx => safe_tryCatch (hp s x t hs hx)⟩

theorem safe_tryFinally {f : Prog S ε Unit} : ∀ {p : Prog S ε α} {s : σ},
    p.Safe B (fun x s => (f.bind fun _ => ofExcept x).Safe B Q s) s → (p.tryFinally f).Safe B Q s
  | .ret _, _, hp => hp
  | .raise _, _, hp => hp
  | .call _ _, _, ⟨R, hR, hstable, hI, hp⟩ =>
    ⟨R, hR, hstable, hI, fun s x t hs hx => safe_tryFinally (hp s x t hs hx)⟩

theorem safe_andThen {k : Except ε α → Prog S ε β} {Q : Except ε β → σ → Prop} : ∀ {p : Prog S ε α} {s : σ},
    p.Safe B (fun x s => (k x).Safe B Q s) s → (p.andThen k).Safe B Q s
  | .ret _, _, h => h
  | .raise _, _, h => h
  | .call _ _, _, ⟨R, hR, hstable, hI, h⟩ =>
    ⟨R, hR, hstable, hI, fun s x t hs hx => safe_andThen (h s x t hs hx)⟩

/-- It returns, and `J` holds then. -/
def returns (J : σ → Prop) : Except ε α → σ → Prop
  | .ok _, s => J s
  | .error _, _ => False

theorem safe_then {p : Prog S ε α} {f : α → Prog S ε β} {Q : Except ε β → σ → Prop} {J : σ → Prop}
    (hp : p.Safe B (returns J) s) (hf : ∀ a t, J t → (f a).Safe B Q t) : (p.bind f).Safe B Q s := by
  refine safe_bind (hp.mono fun x t ht => ?_)
  cases x with
  | ok a => exact hf a t ht
  | error e => exact ht.elim

/-- `try: p except Exception: pass`. -/
theorem safe_suppress {p : Prog S ε Unit} {J : σ → Prop} (hp : p.Safe B (fun _ => J) s) :
    (p.tryCatch fun _ => .ret ()).Safe B (returns J) s := by
  refine safe_tryCatch (hp.mono fun x t ht => ?_)
  cases x <;> exact ht

/-- A loop, with what holds when the elements `xs` are left. -/
theorem safe_forEach {f : α → Prog S ε β} (J : List α → σ → Prop)
    (hf : ∀ x xs s, J (x :: xs) s → (f x).Safe B (returns (J xs)) s) :
    ∀ {xs : List α} {s : σ}, J xs s → (forEach f xs).Safe B (returns (J [])) s
  | [], _, hJ => hJ
  | x :: xs, s, hJ => safe_then (hf x xs s hJ) fun _ _ hJ' => safe_then (safe_forEach J hf hJ') fun _ _ h => h

/-! ### Soundness -/

theorem Safe.inv (hI : ∀ r s, Q r s → B.Inv s) : ∀ {p : Prog S ε α} {s : σ}, p.Safe B Q s → B.Inv s
  | .ret _, _, h => hI _ _ h
  | .raise _, _, h => hI _ _ h
  | .call _ _, _, ⟨_, hR, _, hR', _⟩ => hR' _ hR

theorem Safe.env (hQ : ∀ r, B.Stable (Q r)) {t : σ} (hs : B.env s t) : ∀ {p : Prog S ε α},
    p.Safe B Q s → p.Safe B Q t
  | .ret _, h => hQ _ s t h hs
  | .raise _, h => hQ _ s t h hs
  | .call _ _, ⟨R, hR, hstable, hI, h⟩ => ⟨R, hstable s t hR hs, hstable, hI, h⟩

/-- **Soundness.** What is safe to go on stays so. -/
theorem safe_reach (hQ : ∀ r, B.Stable (Q r)) {p q : Prog S ε α} {t : σ} (h : p.Safe B Q s)
    (hr : B.Reach p s q t) : q.Safe B Q t := by
  have hall : ∀ c, Relation.ReflTransGen (Beside.Step B) (p, s) c → c.1.Safe B Q c.2 := by
    intro c hc
    induction hc with
    | refl => exact h
    | tail _ hs ih =>
      cases hs with
      | env hs => exact ih.env hQ hs
      | call hx =>
        obtain ⟨R, hR, -, -, hk⟩ := ih
        exact hk _ _ _ hR hx
  exact hall (q, t) hr

end Prog
end DocGen
