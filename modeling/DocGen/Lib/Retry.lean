/-
# Attempts, with pauses between them

A program is tried up to a number of times, with a pause after each attempt
that raised; the last attempt's exception is the loop's (`retry`). What holds
before every attempt, if each failure and its pause lead from one to the next,
holds before the attempt that decides (`exec_retry`).

Programs over two signatures run on a pair of states, one for each
(`Sem.pair`); a program whose calls are implemented by others keeps what each
of those keeps (`exec_interp_keeps`).
-/
import DocGen.Lib.Interp

namespace DocGen

variable {S T : Sig} {ε σ τ α β : Type}

/-- The calls of each signature act on their own state. -/
def Sem.pair (sem : Sem S ε σ) (sem' : Sem T ε τ) : Sem (S.sum T) ε (σ × τ)
  | .inl op, s, x, t => sem op s.1 x t.1 ∧ t.2 = s.2
  | .inr op, s, x, t => sem' op s.2 x t.2 ∧ t.1 = s.1

namespace Prog

/-- `for attempt in range(first, first + left + 1)`: `p`, and where it raises
the pause and the next attempt, but for the last. -/
def retry (p : Prog S ε α) (pause : ℕ → Prog S ε Unit) : ℕ → ℕ → Prog S ε α
  | 0, _ => p
  | left + 1, attempt => p.tryCatch fun _ => (pause attempt).bind fun _ => retry p pause left (attempt + 1)

/-- **The attempt that decides.** -/
theorem exec_retry {sem : Sem S ε σ} {p : Prog S ε α} {pause : ℕ → Prog S ε Unit} {J : ℕ → σ → Prop}
    (hfail : ∀ {a s e u x t}, J a s → p.Exec sem s (.error e) u → (pause a).Exec sem u x t →
      x = .ok () ∧ J (a + 1) t) {r : Except ε α} {t : σ} :
    ∀ {left a : ℕ} {s : σ}, J a s → (retry p pause left a).Exec sem s r t →
      ∃ b u, a ≤ b ∧ b ≤ a + left ∧ J b u ∧ p.Exec sem u r t ∧ ((∃ e, r = .error e) → b = a + left)
  | 0, a, s, hJ, h => ⟨a, s, Nat.le_refl _, Nat.le_refl _, hJ, h, fun _ => rfl⟩
  | left + 1, a, s, hJ, h => by
    rcases exec_tryCatch.mp h with ⟨b, rfl, hp⟩ | ⟨e, u, hp, hrest⟩
    · exact ⟨a, s, Nat.le_refl _, Nat.le_add_right _ _, hJ, hp, fun ⟨_, he⟩ => nomatch he⟩
    · rcases exec_bind.mp hrest with ⟨e', -, hpause⟩ | ⟨_, v, hpause, hnext⟩
      · cases (hfail hJ hp hpause).1
      · obtain ⟨b, w, hab, hbl, hb⟩ := exec_retry hfail (hfail hJ hp hpause).2 hnext
        have hle : a + 1 + left = a + (left + 1) := by omega
        rw [hle] at hbl hb
        exact ⟨b, w, by omega, hbl, hb⟩

section

variable {sem : Sem S ε σ} {sem' : Sem T ε τ} {r : Except ε α} {s t : σ × τ}

theorem exec_inl : ∀ {p : Prog S ε α} {s : σ × τ},
    (p.inl (T := T)).Exec (sem.pair sem') s r t ↔ p.Exec sem s.1 r t.1 ∧ t.2 = s.2
  | .ret a, s => by
    rw [inl, exec_ret, exec_ret, Prod.ext_iff, and_assoc]
  | .raise e, s => by
    rw [inl, exec_raise, exec_raise, Prod.ext_iff, and_assoc]
  | .call op k, s => by
    constructor
    · rintro ⟨x, u, ⟨hx, hu⟩, h⟩
      obtain ⟨h, ht⟩ := exec_inl.mp h
      exact ⟨⟨x, u.1, hx, h⟩, ht.trans hu⟩
    · rintro ⟨⟨x, u, hx, h⟩, ht⟩
      exact ⟨x, (u, s.2), ⟨hx, rfl⟩, exec_inl.mpr ⟨h, ht⟩⟩

theorem exec_inr : ∀ {p : Prog T ε α} {s : σ × τ},
    (p.inr (S := S)).Exec (sem.pair sem') s r t ↔ p.Exec sem' s.2 r t.2 ∧ t.1 = s.1
  | .ret a, s => by
    rw [inr, exec_ret, exec_ret, Prod.ext_iff, and_comm (a := t.1 = s.1), and_assoc]
  | .raise e, s => by
    rw [inr, exec_raise, exec_raise, Prod.ext_iff, and_comm (a := t.1 = s.1), and_assoc]
  | .call op k, s => by
    constructor
    · rintro ⟨x, u, ⟨hx, hu⟩, h⟩
      obtain ⟨h, ht⟩ := exec_inr.mp h
      exact ⟨⟨x, u.2, hx, h⟩, ht.trans hu⟩
    · rintro ⟨⟨x, u, hx, h⟩, ht⟩
      exact ⟨x, (s.1, u), ⟨hx, rfl⟩, exec_inr.mpr ⟨h, ht⟩⟩

theorem exec_andThen {k : Except ε α → Prog S ε β} {r : Except ε β} {t : σ} : ∀ {p : Prog S ε α} {s : σ},
    (p.andThen k).Exec sem s r t ↔ ∃ x u, p.Exec sem s x u ∧ (k x).Exec sem u r t
  | .ret a, s => by simp [andThen]
  | .raise e, s => by simp [andThen]
  | .call op f, s => by
    simp only [andThen, exec_call, exec_andThen (p := f _)]
    constructor
    · rintro ⟨x, u, hx, y, v, hy, h⟩
      exact ⟨y, v, ⟨x, u, hx, hy⟩, h⟩
    · rintro ⟨y, v, ⟨x, u, hx, hy⟩, h⟩
      exact ⟨x, u, hx, y, v, hy, h⟩

/-- What every implementation keeps, the program keeps. -/
theorem exec_interp_keeps {J : σ → Prop} {h : ∀ op : T.Op, Prog S ε (T.Res op)}
    (hkeep : ∀ op s x t, J s → (h op).Exec sem s x t → J t) {r : Except ε α} {t : σ} :
    ∀ {p : Prog T ε α} {s : σ}, J s → (p.interp h).Exec sem s r t → J t
  | .ret _, _, hJ, hp => hp.2 ▸ hJ
  | .raise _, _, hJ, hp => hp.2 ▸ hJ
  | .call op k, s, hJ, hp => by
    obtain ⟨x, u, hx, hk⟩ := exec_andThen.mp hp
    exact exec_interp_keeps hkeep (hkeep op s x u hJ hx) hk

end

end Prog
end DocGen
