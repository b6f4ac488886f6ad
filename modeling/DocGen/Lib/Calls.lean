/-
# What a program may call

`Calls P p` says that every call that `p` can come to make is one of `P`,
whatever the calls before it answer. It has one rule for each way programs are
put together, and holds of every event of every run (`Calls.runs`).
-/
import DocGen.Lib.Prog

namespace DocGen
namespace Prog

variable {S T : Sig} {ε α β : Type}

def Calls (P : S.Op → Prop) : Prog S ε α → Prop
  | .ret _ => True
  | .raise _ => True
  | .call op k => P op ∧ ∀ x, (k x).Calls P

variable {P Q : S.Op → Prop}

theorem calls_ret {a : α} : (ret a : Prog S ε α).Calls P := trivial

theorem calls_raise {e : ε} : (raise e : Prog S ε α).Calls P := trivial

theorem calls_ofExcept : ∀ x : Except ε α, (ofExcept x : Prog S ε α).Calls P
  | .ok _ => trivial
  | .error _ => trivial

theorem calls_perform {op : S.Op} (h : P op) : (perform op : Prog S ε (S.Res op)).Calls P :=
  ⟨h, calls_ofExcept⟩

theorem Calls.mono (hPQ : ∀ op, P op → Q op) : ∀ {p : Prog S ε α}, p.Calls P → p.Calls Q
  | .ret _, _ => trivial
  | .raise _, _ => trivial
  | .call op _, h => ⟨hPQ op h.1, fun x => (h.2 x).mono hPQ⟩

theorem calls_bind {f : α → Prog S ε β} (hf : ∀ a, (f a).Calls P) :
    ∀ {p : Prog S ε α}, p.Calls P → (p.bind f).Calls P
  | .ret a, _ => hf a
  | .raise _, _ => trivial
  | .call _ _, h => ⟨h.1, fun x => calls_bind hf (h.2 x)⟩

theorem calls_tryCatch {h : ε → Prog S ε α} (hh : ∀ e, (h e).Calls P) :
    ∀ {p : Prog S ε α}, p.Calls P → (p.tryCatch h).Calls P
  | .ret _, _ => trivial
  | .raise e, _ => hh e
  | .call _ _, hp => ⟨hp.1, fun x => calls_tryCatch hh (hp.2 x)⟩

theorem calls_tryFinally {f : Prog S ε Unit} (hf : f.Calls P) :
    ∀ {p : Prog S ε α}, p.Calls P → (p.tryFinally f).Calls P
  | .ret _, _ => calls_bind (fun _ => calls_ret) hf
  | .raise _, _ => calls_bind (fun _ => calls_raise) hf
  | .call _ _, hp => ⟨hp.1, fun x => calls_tryFinally hf (hp.2 x)⟩

theorem calls_forEach {f : α → Prog S ε β} : ∀ {xs : List α}, (∀ x ∈ xs, (f x).Calls P) →
    (forEach f xs).Calls P
  | [], _ => trivial
  | x :: _, h => calls_bind (fun _ => calls_bind (fun _ => calls_ret)
      (calls_forEach fun y hy => h y (List.mem_cons_of_mem x hy))) (h x List.mem_cons_self)

theorem calls_inl {P : (S.sum T).Op → Prop} : ∀ {p : Prog S ε α},
    p.Calls (fun op => P (.inl op)) → (p.inl : Prog (S.sum T) ε α).Calls P
  | .ret _, _ => trivial
  | .raise _, _ => trivial
  | .call _ _, h => ⟨h.1, fun x => calls_inl (h.2 x)⟩

theorem calls_inr {P : (S.sum T).Op → Prop} : ∀ {p : Prog T ε α},
    p.Calls (fun op => P (.inr op)) → (p.inr : Prog (S.sum T) ε α).Calls P
  | .ret _, _ => trivial
  | .raise _, _ => trivial
  | .call _ _, h => ⟨h.1, fun x => calls_inr (h.2 x)⟩

/-- The calls of a run are among those. -/
theorem Calls.runs {r : Except ε α} : ∀ {p : Prog S ε α} {tr : List (Event S ε)}, p.Calls P →
    p.Runs tr r → ∀ e ∈ tr, P e.op
  | .ret _, _, _, h => by
    rw [h.1]
    exact List.forall_mem_nil _
  | .raise _, _, _, h => by
    rw [h.1]
    exact List.forall_mem_nil _
  | .call _ _, _, hp, h => by
    obtain ⟨x, tr, rfl, h⟩ := h
    exact List.forall_mem_cons.mpr ⟨hp.1, (hp.2 x).runs h⟩

/-- What is left of the program after some calls. -/
theorem Steps.calls {p q : Prog S ε α} {tr : List (Event S ε)} (h : Steps p tr q) (hp : p.Calls P) :
    q.Calls P := by
  induction h with
  | nil => exact hp
  | cons _ ih => exact ih (hp.2 _)

end Prog
end DocGen
