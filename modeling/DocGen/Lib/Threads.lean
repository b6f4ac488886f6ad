/-
# Threads over a shared state, interleaved at their calls

Any number of programs share one state. A step picks a thread and answers the
call it waits in; the thread then runs on to the next call at which another
thread may run. Which calls those are is a parameter: a call of a set `sync`
is made without giving way, as the body of a coroutine between two `await`s
is, so that a step is a call and the `Block` of `sync` calls after it. With
`sync` empty every call is a point of interleaving.

A thread that is aborted takes no more steps, so what holds in every reachable
state holds whatever is aborted and when. `Threads.invariant` is the rule for
that: an invariant of the shared state, an assertion for each program point,
and a ghost value for each thread that says what it owns.
-/
import DocGen.Lib.Prog
import Mathlib.Logic.Function.Basic
import Mathlib.Logic.Relation

namespace DocGen
namespace Prog

variable {S : Sig} {ε σ α β : Type}

/-- The program runs from `s` to the next call outside `sync`, or to its end. -/
def Block (sem : Sem S ε σ) (sync : S.Op → Bool) : Prog S ε α → σ → Prog S ε α → σ → Prop
  | .ret a, s, q, t => q = .ret a ∧ t = s
  | .raise e, s, q, t => q = .raise e ∧ t = s
  | .call op k, s, q, t =>
    (sync op = false ∧ q = .call op k ∧ t = s) ∨
      (sync op = true ∧ ∃ x u, sem op s x u ∧ (k x).Block sem sync u q t)

variable {sem : Sem S ε σ} {sync : S.Op → Bool}

@[simp] theorem block_ret {a : α} {s t : σ} {q : Prog S ε α} :
    (ret a).Block sem sync s q t ↔ q = .ret a ∧ t = s := Iff.rfl
@[simp] theorem block_raise {e : ε} {s t : σ} {q : Prog S ε α} :
    (raise e).Block sem sync s q t ↔ q = .raise e ∧ t = s := Iff.rfl

theorem block_wait {op : S.Op} {k : S.Ans ε op → Prog S ε α} {s t : σ} {q : Prog S ε α}
    (h : sync op = false) :
    (call op k).Block sem sync s q t ↔ q = .call op k ∧ t = s := by
  simp [Block, h]

theorem block_sync {op : S.Op} {k : S.Ans ε op → Prog S ε α} {s t : σ} {q : Prog S ε α}
    (h : sync op = true) :
    (call op k).Block sem sync s q t ↔ ∃ x u, sem op s x u ∧ (k x).Block sem sync u q t := by
  simp [Block, h]

/-- With every call a point of interleaving, a block is empty. -/
theorem block_none : ∀ {p q : Prog S ε α} {s t : σ},
    p.Block sem (fun _ => false) s q t ↔ q = p ∧ t = s
  | .ret _, _, _, _ => Iff.rfl
  | .raise _, _, _, _ => Iff.rfl
  | .call _ _, _, _, _ => block_wait rfl

/-- A block of `p >>= f` stops inside `p`, or `p` ends in it. -/
theorem block_bind {f : α → Prog S ε β} {q : Prog S ε β} {t : σ} : ∀ {p : Prog S ε α} {s : σ},
    (p.bind f).Block sem sync s q t ↔
      (∃ op k, p.Block sem sync s (.call op k) t ∧ q = (call op k).bind f) ∨
      (∃ e, p.Block sem sync s (.raise e) t ∧ q = .raise e) ∨
      ∃ a u, p.Block sem sync s (.ret a) u ∧ (f a).Block sem sync u q t
  | .ret a, s => by simp
  | .raise e, s => by
    simp only [raise_bind, block_raise, reduceCtorEq, false_and, exists_false, false_or, or_false,
      raise.injEq]
    constructor
    · rintro ⟨rfl, rfl⟩; exact ⟨e, ⟨rfl, rfl⟩, rfl⟩
    · rintro ⟨_, ⟨rfl, rfl⟩, rfl⟩; exact ⟨rfl, rfl⟩
  | .call op k, s => by
    rcases hs : sync op with _ | _
    · rw [call_bind, block_wait hs]
      simp only [block_wait hs, reduceCtorEq, false_and, exists_false, or_false]
      constructor
      · rintro ⟨rfl, rfl⟩; exact ⟨op, k, ⟨rfl, rfl⟩, rfl⟩
      · rintro ⟨_, _, ⟨h, rfl⟩, rfl⟩
        cases h
        exact ⟨rfl, rfl⟩
    · rw [call_bind, block_sync hs]
      simp only [block_sync hs, block_bind (p := k _)]
      constructor
      · rintro ⟨x, u, h, ⟨o, k', h', rfl⟩ | ⟨e, h', rfl⟩ | ⟨a, v, h₁, h₂⟩⟩
        · exact Or.inl ⟨o, k', ⟨x, u, h, h'⟩, rfl⟩
        · exact Or.inr (Or.inl ⟨e, ⟨x, u, h, h'⟩, rfl⟩)
        · exact Or.inr (Or.inr ⟨a, v, ⟨x, u, h, h₁⟩, h₂⟩)
      · rintro (⟨o, k', ⟨x, u, h, h'⟩, rfl⟩ | ⟨e, ⟨x, u, h, h'⟩, rfl⟩ | ⟨a, v, ⟨x, u, h, h₁⟩, h₂⟩)
        · exact ⟨x, u, h, Or.inl ⟨o, k', h', rfl⟩⟩
        · exact ⟨x, u, h, Or.inr (Or.inl ⟨e, h', rfl⟩)⟩
        · exact ⟨x, u, h, Or.inr (Or.inr ⟨a, v, h₁, h₂⟩)⟩

theorem block_tryCatch {h : ε → Prog S ε α} {q : Prog S ε α} {t : σ} : ∀ {p : Prog S ε α} {s : σ},
    (p.tryCatch h).Block sem sync s q t ↔
      (∃ op k, p.Block sem sync s (.call op k) t ∧ q = (call op k).tryCatch h) ∨
      (∃ a, p.Block sem sync s (.ret a) t ∧ q = .ret a) ∨
      ∃ e u, p.Block sem sync s (.raise e) u ∧ (h e).Block sem sync u q t
  | .ret a, s => by
    simp only [tryCatch, block_ret, reduceCtorEq, false_and, exists_false, false_or, or_false,
      ret.injEq]
    constructor
    · rintro ⟨rfl, rfl⟩; exact ⟨a, ⟨rfl, rfl⟩, rfl⟩
    · rintro ⟨_, ⟨rfl, rfl⟩, rfl⟩; exact ⟨rfl, rfl⟩
  | .raise e, s => by simp [tryCatch]
  | .call op k, s => by
    rcases hs : sync op with _ | _
    · rw [tryCatch, block_wait hs]
      simp only [block_wait hs, reduceCtorEq, false_and, exists_false, or_false]
      constructor
      · rintro ⟨rfl, rfl⟩; exact ⟨op, k, ⟨rfl, rfl⟩, rfl⟩
      · rintro ⟨_, _, ⟨h', rfl⟩, rfl⟩
        cases h'
        exact ⟨rfl, rfl⟩
    · rw [tryCatch, block_sync hs]
      simp only [block_sync hs, block_tryCatch (p := k _)]
      constructor
      · rintro ⟨x, u, h', ⟨o, k', h'', rfl⟩ | ⟨a, h'', rfl⟩ | ⟨e, v, h₁, h₂⟩⟩
        · exact Or.inl ⟨o, k', ⟨x, u, h', h''⟩, rfl⟩
        · exact Or.inr (Or.inl ⟨a, ⟨x, u, h', h''⟩, rfl⟩)
        · exact Or.inr (Or.inr ⟨e, v, ⟨x, u, h', h₁⟩, h₂⟩)
      · rintro (⟨o, k', ⟨x, u, h', h''⟩, rfl⟩ | ⟨a, ⟨x, u, h', h''⟩, rfl⟩ |
          ⟨e, v, ⟨x, u, h', h₁⟩, h₂⟩)
        · exact ⟨x, u, h', Or.inl ⟨o, k', h'', rfl⟩⟩
        · exact ⟨x, u, h', Or.inr (Or.inl ⟨a, h'', rfl⟩)⟩
        · exact ⟨x, u, h', Or.inr (Or.inr ⟨e, v, h₁, h₂⟩)⟩

theorem block_tryFinally {f : Prog S ε Unit} {q : Prog S ε α} {t : σ} : ∀ {p : Prog S ε α} {s : σ},
    (p.tryFinally f).Block sem sync s q t ↔
      (∃ op k, p.Block sem sync s (.call op k) t ∧ q = (call op k).tryFinally f) ∨
      ∃ y u, p.Block sem sync s (ofExcept y) u ∧
        (f.bind fun _ => ofExcept y).Block sem sync u q t
  | .ret a, s => by
    simp only [tryFinally, block_ret, reduceCtorEq, false_and, exists_false, false_or]
    constructor
    · intro h; exact ⟨.ok a, s, ⟨rfl, rfl⟩, h⟩
    · rintro ⟨y, u, ⟨hy, rfl⟩, h⟩
      cases y <;> cases hy
      exact h
  | .raise e, s => by
    simp only [tryFinally, block_raise, reduceCtorEq, false_and, exists_false, false_or]
    constructor
    · intro h; exact ⟨.error e, s, ⟨rfl, rfl⟩, h⟩
    · rintro ⟨y, u, ⟨hy, rfl⟩, h⟩
      cases y <;> cases hy
      exact h
  | .call op k, s => by
    rcases hs : sync op with _ | _
    · rw [tryFinally, block_wait hs]
      simp only [block_wait hs]
      constructor
      · rintro ⟨rfl, rfl⟩; exact Or.inl ⟨op, k, ⟨rfl, rfl⟩, rfl⟩
      · rintro (⟨_, _, ⟨h', rfl⟩, rfl⟩ | ⟨y, _, ⟨hy, -⟩, -⟩)
        · cases h'
          exact ⟨rfl, rfl⟩
        · cases y <;> cases hy
    · rw [tryFinally, block_sync hs]
      simp only [block_sync hs, block_tryFinally (p := k _)]
      constructor
      · rintro ⟨x, u, h', ⟨o, k', h'', rfl⟩ | ⟨y, v, h₁, h₂⟩⟩
        · exact Or.inl ⟨o, k', ⟨x, u, h', h''⟩, rfl⟩
        · exact Or.inr ⟨y, v, ⟨x, u, h', h₁⟩, h₂⟩
      · rintro (⟨o, k', ⟨x, u, h', h''⟩, rfl⟩ | ⟨y, v, ⟨x, u, h', h₁⟩, h₂⟩)
        · exact ⟨x, u, h', Or.inl ⟨o, k', h'', rfl⟩⟩
        · exact ⟨x, u, h', Or.inr ⟨y, v, h₁, h₂⟩⟩

end Prog

open Prog

/-- Threads, one program for each index, over a shared state. -/
structure Threads (S : Sig) (ε ι σ α : Type) where
  shared : σ
  thread : ι → Prog S ε α

namespace Threads

variable {S : Sig} {ε ι σ α γ : Type} [DecidableEq ι]

/-- Thread `i` gets an answer to the call it waits in and runs a block. -/
inductive Step (sem : Sem S ε σ) (sync : S.Op → Bool) : Threads S ε ι σ α → Threads S ε ι σ α → Prop
  | run {c : Threads S ε ι σ α} (i : ι) {op : S.Op} {k : S.Ans ε op → Prog S ε α} {x : S.Ans ε op} {u : σ}
      {q : Prog S ε α} {v : σ} (hi : c.thread i = .call op k) (hx : sem op c.shared x u)
      (hq : (k x).Block sem sync u q v) :
      Step sem sync c { shared := v, thread := Function.update c.thread i q }

/-- The states some interleaving reaches from `c`. -/
def Reach (sem : Sem S ε σ) (sync : S.Op → Bool) : Threads S ε ι σ α → Threads S ε ι σ α → Prop :=
  Relation.ReflTransGen (Step sem sync)

/-- A run of a program begins with a block, after which its thread may run to
its end while the others wait. -/
theorem block_reach {sem : Sem S ε σ} (sync : S.Op → Bool) (i : ι) {r : Except ε α} {t : σ}
    (threads : ι → Prog S ε α) : ∀ {p : Prog S ε α} {s : σ}, p.Exec sem s r t →
    ∃ q v, p.Block sem sync s q v ∧
      Reach sem sync ⟨v, Function.update threads i q⟩ ⟨t, Function.update threads i (ofExcept r)⟩
  | .ret a, s, ⟨hr, ht⟩ => ⟨.ret a, s, ⟨rfl, rfl⟩, by rw [hr, ht]; exact .refl⟩
  | .raise e, s, ⟨hr, ht⟩ => ⟨.raise e, s, ⟨rfl, rfl⟩, by rw [hr, ht]; exact .refl⟩
  | .call op k, s, ⟨x, u, hx, h⟩ => by
    obtain ⟨q, v, hb, hreach⟩ := block_reach sync i threads h
    rcases hs : sync op with _ | _
    · refine ⟨.call op k, s, (block_wait hs).mpr ⟨rfl, rfl⟩, .head (.run i (by simp) hx hb) ?_⟩
      rw [Function.update_idem]
      exact hreach
    · exact ⟨q, v, (block_sync hs).mpr ⟨x, u, hx, hb⟩, hreach⟩

/-- One thread may run to its end while the others wait. -/
theorem reach_exec {sem : Sem S ε σ} (sync : S.Op → Bool) {i : ι} {p : Prog S ε α} {s t : σ}
    {r : Except ε α} {threads : ι → Prog S ε α} (h : p.Exec sem s r t) (hi : threads i = p) :
    Reach sem sync ⟨s, threads⟩ ⟨t, Function.update threads i (ofExcept r)⟩ := by
  cases p with
  | ret a =>
    obtain ⟨rfl, rfl⟩ := h
    rw [ofExcept_ok, ← hi, Function.update_eq_self]
    exact .refl
  | raise e =>
    obtain ⟨rfl, rfl⟩ := h
    rw [ofExcept_error, ← hi, Function.update_eq_self]
    exact .refl
  | call op k =>
    obtain ⟨x, u, hx, h⟩ := h
    obtain ⟨q, v, hb, hreach⟩ := block_reach sync i threads h
    exact .head (.run i hi hx hb) hreach

/-- The shared state keeps `I`; every thread, with its ghost value, is at a
program point whose assertion `T` holds; the ghost values are pairwise
compatible. -/
def Good (I : σ → Prop) (T : ι → γ → Prog S ε α → σ → Prop) (D : γ → γ → Prop)
    (c : Threads S ε ι σ α) : Prop :=
  I c.shared ∧ ∃ g : ι → γ, (∀ i, T i (g i) (c.thread i) c.shared) ∧
    ∀ i j, i ≠ j → D (g i) (g j)

/-- A thread that has returned takes no more steps. -/
theorem ret_of_reach {sem : Sem S ε σ} {sync : S.Op → Bool} {c c' : Threads S ε ι σ α} {i : ι} {a : α}
    (h : Reach sem sync c c') (hc : c.thread i = .ret a) : c'.thread i = .ret a := by
  induction h with
  | refl => exact hc
  | tail _ hs ih =>
    cases hs with
    | run j hj _ _ =>
      have hij : i ≠ j := by
        intro hij
        rw [← hij, ih] at hj
        cases hj
      exact (Function.update_of_ne hij _ _).trans ih

/-- **The invariant rule.** If a thread's step from its program point keeps the
invariant, leads to a program point of its own, and disturbs the assertion of
no other thread, then every reachable state is good. -/
theorem invariant {sem : Sem S ε σ} {sync : S.Op → Bool} {I : σ → Prop}
    {T : ι → γ → Prog S ε α → σ → Prop} {D : γ → γ → Prop} (hD : ∀ g h, D g h → D h g)
    (hstep : ∀ {i g op} {k : S.Ans ε op → Prog S ε α} {s x u q v}, I s → T i g (.call op k) s →
      sem op s x u → (k x).Block sem sync u q v →
      I v ∧ ∃ g', T i g' q v ∧ ∀ j h r, i ≠ j → D g h → T j h r s → T j h r v ∧ D g' h)
    {c c' : Threads S ε ι σ α} (hc : Good I T D c) (h : Reach sem sync c c') : Good I T D c' := by
  induction h with
  | refl => exact hc
  | tail _ hs ih =>
    obtain ⟨hI, g, hT, hg⟩ := ih
    cases hs with
    | run i hi hx hq =>
      have hTi := hT i
      rw [hi] at hTi
      obtain ⟨hI', g', hT', hother⟩ := hstep hI hTi hx hq
      refine ⟨hI', Function.update g i g', fun j => ?_, fun j l hjl => ?_⟩
      · by_cases hj : j = i
        · subst hj; simpa using hT'
        · simp only [Function.update_of_ne hj]
          exact (hother j _ _ (Ne.symm hj) (hg i j (Ne.symm hj)) (hT j)).1
      · by_cases hj : j = i
        · subst hj
          rw [Function.update_self, Function.update_of_ne hjl.symm]
          exact (hother l _ _ hjl (hg j l hjl) (hT l)).2
        · rw [Function.update_of_ne hj]
          by_cases hl : l = i
          · subst hl
            rw [Function.update_self]
            exact hD _ _ (hother j _ _ (Ne.symm hj) (hg l j (Ne.symm hj)) (hT j)).2
          · rw [Function.update_of_ne hl]; exact hg j l hjl

end Threads
end DocGen
