/-
# Pre- and postconditions of cooperative threads

Threads give way only at the calls outside `sync`. Between two of them a thread
may break what the others rely on and mend it, so a proof looks at a thread
only where it gives way: there the invariant holds, the thread owns something
(its ghost value, `Own`), and what it has done since it last gave way disturbs
no other thread (`Frame`). The weakest precondition `Wp` asks for this at each
such call, and carries the state in which the thread last went on.

`coop_sound` turns the threads' weakest preconditions into facts about every
reachable state.
-/
import DocGen.Lib.Threads

namespace DocGen

/-- What proofs about cooperative threads share: the meaning of the calls,
those that do not give way, the invariant, what a ghost value owns, and which
ghost values two threads may have at once. -/
structure Coop (S : Sig) (ε σ γ : Type) where
  sem : Sem S ε σ
  sync : S.Op → Bool
  Inv : σ → Prop
  Own : γ → σ → Prop
  Apart : γ → γ → Prop
  apart_symm : ∀ g h, Apart g h → Apart h g

namespace Coop

variable {S : Sig} {ε σ γ α β : Type} (C : Coop S ε σ γ)

/-- From `s₀`, with the ghost value `g₀`, to `s` and `g`: the other threads
keep what they own. -/
def Frame (g₀ : γ) (s₀ : σ) (g : γ) (s : σ) : Prop :=
  ∀ h, C.Apart g₀ h → C.Own h s₀ → C.Own h s ∧ C.Apart g h

theorem frame_refl (g : γ) (s : σ) : C.Frame g s g s := fun _ ha ho => ⟨ho, ha⟩

theorem frame_trans {g₀ g₁ g₂ : γ} {s₀ s₁ s₂ : σ} (h₁ : C.Frame g₀ s₀ g₁ s₁)
    (h₂ : C.Frame g₁ s₁ g₂ s₂) : C.Frame g₀ s₀ g₂ s₂ := by
  intro h ha ho
  obtain ⟨ho₁, ha₁⟩ := h₁ h ha ho
  exact h₂ h ha₁ ho₁

/-- The thread could give way here, with the ghost value `g`. -/
structure Ready (g : γ) (g₀ : γ) (s₀ s : σ) : Prop where
  frame : C.Frame g₀ s₀ g s
  inv : C.Inv s
  own : C.Own g s

variable {C}

theorem ready_refl {g : γ} {s : σ} (hI : C.Inv s) (ho : C.Own g s) : C.Ready g g s s :=
  ⟨C.frame_refl g s, hI, ho⟩

/-- A thread that no other comes between: it never gives way. -/
def alone (sem : Sem S ε σ) : Coop S ε σ Unit where
  sem := sem
  sync _ := true
  Inv _ := True
  Own _ _ := True
  Apart _ _ := True
  apart_symm _ _ := id

/-- A step that the thread could give way after. -/
theorem Ready.step {g g' g₀ : γ} {s₀ s u : σ} (h : C.Ready g g₀ s₀ s)
    (hs : C.Inv s → C.Own g s → C.Ready g' g s u) : C.Ready g' g₀ s₀ u := by
  obtain ⟨hf, hI, ho⟩ := hs h.inv h.own
  exact ⟨C.frame_trans h.frame hf, hI, ho⟩

end Coop

namespace Prog

variable {S : Sig} {ε σ γ α β : Type} {C : Coop S ε σ γ}

/-- A postcondition: of the answer, the ghost value and the state at which the
thread last went on, and the state now. -/
abbrev Post (ε σ γ α : Type) : Type := Except ε α → γ → σ → σ → Prop

/-- The weakest precondition of a program in a thread. -/
def Wp (C : Coop S ε σ γ) : Prog S ε α → Post ε σ γ α → γ → σ → σ → Prop
  | .ret a, Q, g₀, s₀, s => Q (.ok a) g₀ s₀ s
  | .raise e, Q, g₀, s₀, s => Q (.error e) g₀ s₀ s
  | .call op k, Q, g₀, s₀, s =>
    (C.sync op = true → ∀ x u, C.sem op s x u → (k x).Wp C Q g₀ s₀ u) ∧
    (C.sync op = false → ∃ g, C.Ready g g₀ s₀ s ∧
      ∀ s', C.Inv s' → C.Own g s' → ∀ x u, C.sem op s' x u → (k x).Wp C Q g s' u)

/-! ### Rules -/

section

variable {Q Q' : Post ε σ γ α} {g₀ : γ} {s₀ s : σ}

theorem wp_ret {a : α} (h : Q (.ok a) g₀ s₀ s) : (ret a : Prog S ε α).Wp C Q g₀ s₀ s := h

theorem wp_raise {e : ε} (h : Q (.error e) g₀ s₀ s) : (raise e : Prog S ε α).Wp C Q g₀ s₀ s := h

theorem wp_ofExcept {x : Except ε α} (h : Q x g₀ s₀ s) :
    (ofExcept x : Prog S ε α).Wp C Q g₀ s₀ s := by
  cases x <;> exact h

/-- A call that does not give way. -/
theorem wp_sync {op : S.Op} {k : S.Ans ε op → Prog S ε α} (hs : C.sync op = true)
    (h : ∀ x u, C.sem op s x u → (k x).Wp C Q g₀ s₀ u) : (call op k).Wp C Q g₀ s₀ s :=
  ⟨fun _ => h, fun hs' => Bool.noConfusion (hs.symm.trans hs')⟩

/-- A call that gives way. -/
theorem wp_await {op : S.Op} {k : S.Ans ε op → Prog S ε α} {g : γ} (hs : C.sync op = false)
    (hr : C.Ready g g₀ s₀ s)
    (h : ∀ s', C.Inv s' → C.Own g s' → ∀ x u, C.sem op s' x u → (k x).Wp C Q g s' u) :
    (call op k).Wp C Q g₀ s₀ s :=
  ⟨fun hs' => Bool.noConfusion (hs.symm.trans hs'), fun _ => ⟨g, hr, h⟩⟩

theorem wp_mono (hQ : ∀ r g s₀ s, Q r g s₀ s → Q' r g s₀ s) : ∀ {p : Prog S ε α} {g₀ s₀ s},
    p.Wp C Q g₀ s₀ s → p.Wp C Q' g₀ s₀ s
  | .ret _, _, _, _, h => hQ _ _ _ _ h
  | .raise _, _, _, _, h => hQ _ _ _ _ h
  | .call _ _, _, _, _, ⟨h₁, h₂⟩ => by
    refine ⟨fun hs x u hx => wp_mono hQ (h₁ hs x u hx), fun hs => ?_⟩
    obtain ⟨g, hr, h⟩ := h₂ hs
    exact ⟨g, hr, fun s' hI' ho' x u hx => wp_mono hQ (h s' hI' ho' x u hx)⟩

/-- What holds of `p >>= f`, after `p`. -/
def Post.seq (C : Coop S ε σ γ) (f : α → Prog S ε β) (Q : Post ε σ γ β) : Post ε σ γ α
  | .ok a, g, s₀, s => (f a).Wp C Q g s₀ s
  | .error e, g, s₀, s => Q (.error e) g s₀ s

theorem wp_bind {f : α → Prog S ε β} {Q : Post ε σ γ β} : ∀ {p : Prog S ε α} {g₀ s₀ s},
    p.Wp C (Post.seq C f Q) g₀ s₀ s → (p.bind f).Wp C Q g₀ s₀ s
  | .ret _, _, _, _, h => h
  | .raise _, _, _, _, h => h
  | .call _ _, _, _, _, ⟨h₁, h₂⟩ => by
    refine ⟨fun hs x u hx => wp_bind (h₁ hs x u hx), fun hs => ?_⟩
    obtain ⟨g, hr, h⟩ := h₂ hs
    exact ⟨g, hr, fun s' hI' ho' x u hx => wp_bind (h s' hI' ho' x u hx)⟩

/-- What holds of a body under `except`, after the body. -/
def Post.catch (C : Coop S ε σ γ) (f : ε → Prog S ε α) (Q : Post ε σ γ α) : Post ε σ γ α
  | .ok a, g, s₀, s => Q (.ok a) g s₀ s
  | .error e, g, s₀, s => (f e).Wp C Q g s₀ s

theorem wp_tryCatch {f : ε → Prog S ε α} : ∀ {p : Prog S ε α} {g₀ s₀ s},
    p.Wp C (Post.catch C f Q) g₀ s₀ s → (p.tryCatch f).Wp C Q g₀ s₀ s
  | .ret _, _, _, _, h => h
  | .raise _, _, _, _, h => h
  | .call _ _, _, _, _, ⟨h₁, h₂⟩ => by
    refine ⟨fun hs x u hx => wp_tryCatch (h₁ hs x u hx), fun hs => ?_⟩
    obtain ⟨g, hr, h⟩ := h₂ hs
    exact ⟨g, hr, fun s' hI' ho' x u hx => wp_tryCatch (h s' hI' ho' x u hx)⟩

theorem wp_tryFinally {f : Prog S ε Unit} : ∀ {p : Prog S ε α} {g₀ s₀ s},
    p.Wp C (fun r g s₀ s => (f.bind fun _ => ofExcept r).Wp C Q g s₀ s) g₀ s₀ s →
      (p.tryFinally f).Wp C Q g₀ s₀ s
  | .ret _, _, _, _, h => h
  | .raise _, _, _, _, h => h
  | .call _ _, _, _, _, ⟨h₁, h₂⟩ => by
    refine ⟨fun hs x u hx => wp_tryFinally (h₁ hs x u hx), fun hs => ?_⟩
    obtain ⟨g, hr, h⟩ := h₂ hs
    exact ⟨g, hr, fun s' hI' ho' x u hx => wp_tryFinally (h s' hI' ho' x u hx)⟩

/-- `J` after a value, `E` after an exception. -/
def Post.either (J : γ → σ → σ → Prop) (E : ε → γ → σ → σ → Prop) : Post ε σ γ α
  | .ok _ => J
  | .error e => E e

/-- The rest of a loop, with the elements `pre` done. -/
theorem wp_forEach_from {f : α → Prog S ε β} (J : List α → γ → σ → σ → Prop)
    (E : ε → γ → σ → σ → Prop) : ∀ {xs pre : List α} {g₀ s₀ s},
    (∀ l x r, pre ++ xs = l ++ x :: r → ∀ g s₀ s, J l g s₀ s →
      (f x).Wp C (Post.either (J (l ++ [x])) E) g s₀ s) →
    J pre g₀ s₀ s → (forEach f xs).Wp C (Post.either (J (pre ++ xs)) E) g₀ s₀ s
  | [], pre, _, _, _, _, hJ => by
    rw [List.append_nil]
    exact hJ
  | x :: xs, pre, _, _, _, hf, hJ => by
    refine wp_bind (wp_mono ?_ (hf pre x xs rfl _ _ _ hJ))
    intro res g s₀ s hres
    cases res with
    | error e => exact hres
    | ok y =>
      have hassoc : pre ++ x :: xs = (pre ++ [x]) ++ xs := by rw [List.append_assoc, List.singleton_append]
      rw [hassoc] at hf ⊢
      refine wp_bind (wp_mono ?_ (wp_forEach_from J E hf hres))
      intro res g s₀ s hres
      cases res with
      | error e => exact hres
      | ok ys => exact hres

/-- A loop keeps its invariant, of the elements done, or ends with `E`. -/
theorem wp_forEach {f : α → Prog S ε β} (J : List α → γ → σ → σ → Prop)
    (E : ε → γ → σ → σ → Prop) {xs : List α}
    (hf : ∀ l x r, xs = l ++ x :: r → ∀ g s₀ s, J l g s₀ s →
      (f x).Wp C (Post.either (J (l ++ [x])) E) g s₀ s) {g₀ : γ} {s₀ s : σ} (hJ : J [] g₀ s₀ s) :
    (forEach f xs).Wp C (Post.either (J xs) E) g₀ s₀ s := by
  rw [← List.nil_append xs] at hf
  exact wp_forEach_from J E hf hJ

end

/-- A thread that runs alone ends as its weakest precondition says. -/
theorem exec_of_wp {Q : Post ε σ γ α} : ∀ {p : Prog S ε α} {g₀ s₀ s r t}, p.Wp C Q g₀ s₀ s →
    p.Exec C.sem s r t → ∃ g u, Q r g u t
  | .ret _, g₀, s₀, _, _, _, h, ⟨hr, ht⟩ => by
    rw [hr, ht]
    exact ⟨g₀, s₀, h⟩
  | .raise _, g₀, s₀, _, _, _, h, ⟨hr, ht⟩ => by
    rw [hr, ht]
    exact ⟨g₀, s₀, h⟩
  | .call op k, _, _, _, _, _, ⟨h₁, h₂⟩, ⟨x, u, hx, he⟩ => by
    rcases hs : C.sync op with _ | _
    · obtain ⟨g, hr, h⟩ := h₂ hs
      exact exec_of_wp (h _ hr.inv hr.own x u hx) he
    · exact exec_of_wp (h₁ hs x u hx) he

theorem exec_of_wp_alone {sem : Sem S ε σ} {p : Prog S ε α} {Q : Post ε σ Unit α} {s t : σ}
    {r : Except ε α} (h : p.Wp (Coop.alone sem) Q () s s) (hp : p.Exec sem s r t) : ∃ u, Q r () u t := by
  obtain ⟨_, u, hQ⟩ := exec_of_wp h hp
  exact ⟨u, hQ⟩

/-- A block ends where the thread gives way, or at its end. -/
theorem wp_block {Q : Post ε σ γ α} {g₀ : γ} {s₀ : σ} : ∀ {p q : Prog S ε α} {s t},
    p.Wp C Q g₀ s₀ s → p.Block C.sem C.sync s q t →
      q.Wp C Q g₀ s₀ t ∧ ∀ op k, q = call op k → C.sync op = false
  | .ret _, _, _, _, h, ⟨hq, ht⟩ => by
    rw [hq, ht]
    exact ⟨h, fun _ _ hc => by cases hc⟩
  | .raise _, _, _, _, h, ⟨hq, ht⟩ => by
    rw [hq, ht]
    exact ⟨h, fun _ _ hc => by cases hc⟩
  | .call op k, _, _, _, h, hb => by
    rcases hb with ⟨hs, rfl, rfl⟩ | ⟨hs, x, u, hx, hb⟩
    · refine ⟨h, fun op' k' hc => ?_⟩
      cases hc
      exact hs
    · exact wp_block (h.1 hs x u hx) hb

end Prog

open Prog

namespace Coop

variable {S : Sig} {ε σ γ ι α : Type} (C : Coop S ε σ γ) (Fin : Except ε α → σ → Prop)

/-- A thread may end here: the invariant holds, and whatever the others do
after, `Fin` does. -/
def Ends : Post ε σ γ α := fun r g₀ s₀ s =>
  ∃ g, C.Ready g g₀ s₀ s ∧ ∀ s', C.Inv s' → C.Own g s' → Fin r s'

/-- A thread that waits at this point of its program may go on, or has ended. -/
def Rest : Prog S ε α → γ → Prop
  | .ret a, g => ∀ s, C.Inv s → C.Own g s → Fin (.ok a) s
  | .raise e, g => ∀ s, C.Inv s → C.Own g s → Fin (.error e) s
  | .call op k, g => ∀ s, C.Inv s → C.Own g s → ∀ x u, C.sem op s x u →
    (k x).Wp C (C.Ends Fin) g s u

variable {C} {Fin}

theorem rest_of_wp {p : Prog S ε α} {g₀ : γ} {s₀ s : σ} (h : p.Wp C (C.Ends Fin) g₀ s₀ s)
    (hsync : ∀ op k, p = .call op k → C.sync op = false) :
    ∃ g, C.Ready g g₀ s₀ s ∧ C.Rest Fin p g := by
  cases p with
  | ret a => exact h
  | raise e => exact h
  | call op k =>
    exact h.2 (hsync op k rfl)

/-- A program that begins with a call that does not give way may be a thread
that has not begun, if its weakest precondition holds wherever the invariant
does. -/
theorem rest_of_wp_call {op : S.Op} {k : S.Ans ε op → Prog S ε α} {g : γ} (hs : C.sync op = true)
    (h : ∀ s, C.Inv s → C.Own g s → (call op k).Wp C (C.Ends Fin) g s s) :
    C.Rest Fin (call op k) g :=
  fun s hI ho => (h s hI ho).1 hs

/-- **Soundness.** Threads that rest at the start keep the invariant in every
reachable state, and what one has ended with holds there. -/
theorem coop_sound [DecidableEq ι] (Fin : ι → Except ε α → σ → Prop) {c c' : Threads S ε ι σ α}
    (g : ι → γ) (hI : C.Inv c.shared) (hown : ∀ i, C.Own (g i) c.shared)
    (hapart : ∀ i j, i ≠ j → C.Apart (g i) (g j)) (hrest : ∀ i, C.Rest (Fin i) (c.thread i) (g i))
    (h : Threads.Reach C.sem C.sync c c') :
    C.Inv c'.shared ∧ ∀ i r, c'.thread i = ofExcept r → Fin i r c'.shared := by
  have hgood : Threads.Good C.Inv (fun i g p s => C.Own g s ∧ C.Rest (Fin i) p g) C.Apart c' := by
    refine Threads.invariant C.apart_symm ?_ ⟨hI, g, fun i => ⟨hown i, hrest i⟩, hapart⟩ h
    intro i g op k s x u q v hI hT hx hq
    obtain ⟨ho, hR⟩ := hT
    obtain ⟨hw, hsync⟩ := wp_block (hR s hI ho x u hx) hq
    obtain ⟨g', hr, hR'⟩ := rest_of_wp hw hsync
    refine ⟨hr.inv, g', ⟨hr.own, hR'⟩, fun j h r _ ha hj => ?_⟩
    obtain ⟨hoj, haj⟩ := hr.frame h ha hj.1
    exact ⟨⟨hoj, hj.2⟩, haj⟩
  obtain ⟨hI', g', hT, -⟩ := hgood
  refine ⟨hI', fun i r hi => ?_⟩
  obtain ⟨ho, hR⟩ := hT i
  rw [hi] at hR
  cases r with
  | ok a => exact hR _ hI' ho
  | error e => exact hR _ hI' ho

end Coop
end DocGen
