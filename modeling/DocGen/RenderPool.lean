/-
# The render pool

`worker/main.py`'s `_RenderPool` and `adapters/render_executor.py`: renders run
in the processes of a pool that all requests share. A process that dies breaks
the pool: every render in it that has no answer fails, and so does the next
submit, which is then made on a new pool.

What `concurrent.futures` does is documented, and is `PoolState.sem` and
`PoolState.die` here; a pool is not broken before one of its processes dies.
-/
import DocGen.Orchestrator

namespace DocGen

open Prog

/-- What `_invoke` is called with. -/
structure Job (ρ : Type) where
  renderer : ρ
  bundle : TemplateBundle
  data : JsonDict
  fmt : OutputFormat
  locale : Option String

/-! ### The source -/

/-- The calls of `_RenderPool`: a submit on `self._pool`, which answers a
future, and `self._pool = self._new_pool()`. -/
inductive PoolOp (ρ : Type)
  | submit (job : Job ρ)
  | newPool

abbrev PoolOp.Res {ρ : Type} : PoolOp ρ → Type
  | .submit _ => ℕ
  | .newPool => Unit

abbrev poolSig (ρ : Type) : Sig := ⟨PoolOp ρ, PoolOp.Res⟩

/-- `_RenderPool.submit`. -/
def renderPoolSubmit {ρ : Type} (job : Job ρ) : Coroutine (poolSig ρ) ℕ :=
  (Prog.perform (S := poolSig ρ) (.submit job)).tryCatch fun exc =>
    match exc with
    | .brokenProcessPool _ => do
      Prog.perform (S := poolSig ρ) .newPool
      Prog.perform (S := poolSig ρ) (.submit job)
    | exc => .raise exc

/-- The calls of `ProcessPoolRenderExecutor`: those of its semaphore, and
`loop.run_in_executor`, which submits and then waits for the future. -/
inductive ExecutorOp (ρ : Type)
  | acquire
  | release
  | runInExecutor (job : Job ρ)

abbrev ExecutorOp.Res {ρ : Type} : ExecutorOp ρ → Type
  | .acquire | .release => Unit
  | .runInExecutor _ => RenderedArtifact

abbrev executorSig (ρ : Type) : Sig := ⟨ExecutorOp ρ, ExecutorOp.Res⟩

def executorCall {ρ : Type} (op : ExecutorOp ρ) : Coroutine (executorSig ρ) (ExecutorOp.Res op) :=
  Prog.perform (S := executorSig ρ) op

/-- What the `except` clauses of `run` raise. -/
def renderFailure : Exc → Exc
  | .docGen e => .docGen e
  | .brokenProcessPool message => .docGen ⟨.renderError, "render pool broken: " ++ message⟩
  | exc => .docGen ⟨.renderError, "render failed: " ++ exc.str⟩

/-- `ProcessPoolRenderExecutor.run`, with a semaphore or without. -/
def processPoolRun {ρ : Type} (semaphore : Bool) (job : Job ρ) : Coroutine (executorSig ρ) RenderedArtifact :=
  (if semaphore then do
    executorCall .acquire
    (executorCall (.runInExecutor job)).tryFinally (executorCall .release)
  else executorCall (.runInExecutor job)).tryCatch fun exc => .raise (renderFailure exc)

/-! ### The pools -/

/-- What a render fails with when a process of its pool dies. -/
def processDied : Exc :=
  .brokenProcessPool
    "A process in the process pool was terminated abruptly while the future was running or pending."

/-- What a submit on a broken pool raises. -/
def poolUnusable : Exc :=
  .brokenProcessPool
    "A child process terminated abnormally, the process pool is not usable anymore"

/-- How a render ended: it returned or raised, or a process of its pool died
under it, killed by a render for the message `killer`. -/
inductive RenderEnd
  | returned (x : Except Exc RenderedArtifact)
  | died (killer : ℕ)

/-- The answer of its future. -/
def RenderEnd.answer : RenderEnd → Except Exc RenderedArtifact
  | .returned x => x
  | .died _ => .error processDied

/-- A render that was submitted: its pool, the handling and the message it is
for, and how it ended. -/
structure Render where
  pool : ℕ
  handling : ℕ
  message : ℕ
  ended : Option RenderEnd

/-- A process of the pool dies: a render that has not ended fails. -/
def Render.fail (killer : ℕ) (r : Render) : Render :=
  match r.ended with
  | none => { r with ended := some (.died killer) }
  | some _ => r

theorem Render.fail_cases (killer : ℕ) (r : Render) :
    (r.ended = none ∧ r.fail killer = { r with ended := some (.died killer) }) ∨ r.fail killer = r := by
  unfold Render.fail
  split
  next h => exact Or.inl ⟨h, rfl⟩
  · exact Or.inr rfl

/-- The pools made so far, by their numbers, the renders by their futures, and
the permits of the semaphore. -/
structure PoolState where
  current : ℕ
  broken : List ℕ
  renders : List Render
  permits : ℕ
  broken_le : ∀ p ∈ broken, p ≤ current

namespace PoolState

def start (permits : ℕ) : PoolState where
  current := 0
  broken := []
  renders := []
  permits := permits
  broken_le := by simp

/-- A render of the handling `i` in the current pool. -/
def add (s : PoolState) (i m : ℕ) : PoolState :=
  { s with renders := s.renders ++ [⟨s.current, i, m, none⟩] }

/-- A new pool. -/
def renew (s : PoolState) : PoolState :=
  { s with
    current := s.current + 1
    broken_le := fun p hp => (s.broken_le p hp).trans (Nat.le_succ _) }

/-- The render `f` returns or raises. -/
def settle (s : PoolState) (f : ℕ) (x : Except Exc RenderedArtifact) : PoolState :=
  { s with renders := s.renders.modify f fun r => { r with ended := some (.returned x) } }

/-- A render for the message `killer` kills a process of the current pool. -/
def die (s : PoolState) (killer : ℕ) : PoolState :=
  { s with
    broken := s.current :: s.broken
    renders := s.renders.map fun r => if r.pool = s.current then r.fail killer else r
    broken_le := by
      intro p hp
      rcases List.mem_cons.mp hp with rfl | hp
      · exact Nat.le_refl _
      · exact s.broken_le p hp }

@[simp] theorem renders_add (s : PoolState) (i m : ℕ) :
    (s.add i m).renders = s.renders ++ [⟨s.current, i, m, none⟩] := rfl
@[simp] theorem renders_settle (s : PoolState) (f : ℕ) (x : Except Exc RenderedArtifact) :
    (s.settle f x).renders = s.renders.modify f fun r => { r with ended := some (.returned x) } := rfl
@[simp] theorem permits_die (s : PoolState) (killer : ℕ) : (s.die killer).permits = s.permits := rfl
@[simp] theorem renders_die (s : PoolState) (killer : ℕ) : (s.die killer).renders =
    s.renders.map fun r => if r.pool = s.current then r.fail killer else r := rfl

/-- The calls of `_RenderPool`, for a handling `i` of the message `m`. -/
def sem {ρ : Type} (i m : ℕ) : Sem (poolSig ρ) Exc PoolState
  | .submit _, s, x, t =>
    (s.current ∈ s.broken ∧ x = .error poolUnusable ∧ t = s) ∨
      (s.current ∉ s.broken ∧ x = .ok s.renders.length ∧ t = s.add i m)
  | .newPool, s, x, t => x = .ok () ∧ t = s.renew

/-- The pools after a submit has found one that is not broken. -/
def usable (s : PoolState) : PoolState := if s.current ∈ s.broken then s.renew else s

@[simp] theorem renders_usable (s : PoolState) : s.usable.renders = s.renders := by
  unfold usable
  split <;> rfl

@[simp] theorem permits_usable (s : PoolState) : s.usable.permits = s.permits := by
  unfold usable
  split <;> rfl

theorem usable_not_broken (s : PoolState) : s.usable.current ∉ s.usable.broken := by
  unfold usable
  split
  · intro h
    exact absurd (s.broken_le _ h) (Nat.not_succ_le_self _)
  · assumption

/-- **A submit never raises.** It is made on a pool that is not broken. -/
theorem exec_renderPoolSubmit {ρ : Type} {job : Job ρ} {i m : ℕ} {s t : PoolState} {x : Except Exc ℕ} :
    (renderPoolSubmit job).Exec (sem i m) s x t ↔ x = .ok s.renders.length ∧ t = s.usable.add i m := by
  have hsubmit : ∀ {s t : PoolState} {x : Except Exc ℕ}, s.current ∉ s.broken →
      ((Prog.perform (S := poolSig ρ) (.submit job)).Exec (sem i m) s x t ↔
        x = .ok s.renders.length ∧ t = s.add i m) := by
    intro s t x h
    rw [exec_perform]
    simp [sem, h]
  unfold renderPoolSubmit
  rw [exec_tryCatch]
  by_cases h : s.current ∈ s.broken
  · have hu : s.usable = s.renew := if_pos h
    have hnot : s.renew.current ∉ s.renew.broken := hu ▸ s.usable_not_broken
    have hraise : ∀ {u x}, (Prog.perform (S := poolSig ρ) (.submit job)).Exec (sem i m) s x u ↔
        x = .error poolUnusable ∧ u = s := by
      intro u x
      rw [exec_perform]
      simp [sem, h]
    constructor
    · rintro (⟨f, -, hf⟩ | ⟨exc, u, hx, hrest⟩)
      · cases (hraise.mp hf).1
      · obtain ⟨hexc, rfl⟩ := hraise.mp hx
        cases hexc
        rcases exec_bind.mp hrest with ⟨e, -, he⟩ | ⟨_, v, hnew, hrest⟩
        · cases (exec_perform.mp he).1
        · obtain ⟨-, rfl⟩ := exec_perform.mp hnew
          rw [hu]
          exact (hsubmit hnot).mp hrest
    · rintro ⟨rfl, rfl⟩
      refine Or.inr ⟨poolUnusable, s, hraise.mpr ⟨rfl, rfl⟩, exec_bind.mpr (Or.inr
        ⟨(), s.renew, exec_perform.mpr ⟨rfl, rfl⟩, ?_⟩)⟩
      rw [hu]
      exact (hsubmit hnot).mpr ⟨rfl, rfl⟩
  · have hu : s.usable = s := if_neg h
    rw [hu]
    constructor
    · rintro (⟨f, rfl, hf⟩ | ⟨exc, u, hx, -⟩)
      · exact (hsubmit h).mp hf
      · cases ((hsubmit h).mp hx).1
    · rintro ⟨rfl, rfl⟩
      exact Or.inl ⟨_, rfl, (hsubmit h).mpr ⟨rfl, rfl⟩⟩

/-! ### What has ended stays -/

/-- The renders of `s` are in `t`, and have ended there as they have in `s`. -/
def Le (s t : PoolState) : Prop :=
  ∀ (f : ℕ) (r : Render), s.renders[f]? = some r → ∃ r' : Render, t.renders[f]? = some r' ∧ r'.handling = r.handling ∧
    r'.message = r.message ∧ ∀ a, r.ended = some a → r'.ended = some a

theorem Le.of_renders {s t : PoolState} (h : t.renders = s.renders) : s.Le t :=
  fun _ r hr => ⟨r, h ▸ hr, rfl, rfl, fun _ => id⟩

theorem le_add (s : PoolState) (i m : ℕ) : s.Le (s.add i m) :=
  fun _ r hr => ⟨r, List.getElem?_append_left (List.getElem?_eq_some_iff.mp hr).1 ▸ hr, rfl, rfl, fun _ => id⟩

theorem le_settle {s : PoolState} {f : ℕ} {r : Render} (hr : s.renders[f]? = some r) (hn : r.ended = none)
    (x : Except Exc RenderedArtifact) : s.Le (s.settle f x) := by
  intro g r' hg
  by_cases h : f = g
  · subst h
    rw [hr, Option.some_inj] at hg
    subst hg
    refine ⟨{ r with ended := some (.returned x) }, ?_, rfl, rfl, fun a ha => ?_⟩
    · simp [hr]
    · rw [hn] at ha
      cases ha
  · exact ⟨r', by simpa [h] using hg, rfl, rfl, fun _ => id⟩

theorem le_die (s : PoolState) (killer : ℕ) : s.Le (s.die killer) := by
  intro f r hr
  refine ⟨if r.pool = s.current then r.fail killer else r, by simp [hr], ?_⟩
  split
  · rcases r.fail_cases killer with ⟨hn, h⟩ | h
    · rw [h, hn]
      exact ⟨rfl, rfl, nofun⟩
    · rw [h]
      exact ⟨rfl, rfl, fun _ => id⟩
  · exact ⟨rfl, rfl, fun _ => id⟩

end PoolState

/-! ### Runs of a render -/

/-- A render ends with what its call of the pool does, an error as a
`DocGenError`. -/
theorem processPoolRun_answer {ρ : Type} {semaphore : Bool} {job : Job ρ}
    {tr : List (Event (executorSig ρ) Exc)} {r : Except Exc RenderedArtifact}
    (h : (processPoolRun semaphore job).Runs tr r)
    (hsem : ∀ e ∈ tr, (∃ job, e.op = .runInExecutor job) ∨ e.Ok) :
    ∃ x : Except Exc RenderedArtifact, r = x.mapError renderFailure ∧
      (⟨.runInExecutor job, x⟩ : Event (executorSig ρ) Exc) ∈ tr := by
  have hbody : ∀ {t y}, (if semaphore then do
        executorCall .acquire
        (executorCall (.runInExecutor job)).tryFinally (executorCall .release)
      else executorCall (.runInExecutor job)).Runs t y → (∀ e ∈ t, e ∈ tr) →
      (⟨.runInExecutor job, y⟩ : Event (executorSig ρ) Exc) ∈ t := by
    intro t y ht hsub
    -- the semaphore's calls return
    have hcall : ∀ (op : ExecutorOp ρ) (exc : Exc), (∀ job, op ≠ .runInExecutor job) →
        (⟨op, .error exc⟩ : Event (executorSig ρ) Exc) ∉ t := by
      intro op exc hop hmem
      rcases hsem _ (hsub _ hmem) with ⟨job, hjob⟩ | hok
      · exact hop job hjob
      · exact Event.not_ok_mk hok
    split at ht
    · rcases runs_perform_bind.mp ht with ⟨exc, -, rfl⟩ | ⟨_, t', rfl, hrest⟩
      · exact absurd List.mem_cons_self (hcall _ _ fun _ => nofun)
      obtain ⟨z, t₁, t₂, rfl, h₁, h₂⟩ := runs_tryFinally.mp hrest
      obtain rfl := runs_perform.mp h₁
      rcases runs_perform_bind.mp h₂ with ⟨exc, -, rfl⟩ | ⟨_, t₃, rfl, hend⟩
      · refine absurd ?_ (hcall .release exc fun _ => nofun)
        simp
      obtain ⟨rfl, rfl⟩ := runs_ofExcept.mp hend
      simp
    · rw [runs_perform.mp ht]
      exact List.mem_cons_self
  rcases runs_tryCatch.mp h with ⟨art, rfl, hrun⟩ | ⟨exc, t₁, t₂, rfl, hrun, -, rfl⟩
  · exact ⟨.ok art, rfl, hbody hrun fun e he => he⟩
  · exact ⟨.error exc, rfl, List.mem_append_left _ (hbody hrun fun e he => List.mem_append_left _ he)⟩

/-- A render raises what its call of the pool does, as a `DocGenError`. -/
theorem processPoolRun_runs {ρ : Type} {semaphore : Bool} {job : Job ρ}
    {tr : List (Event (executorSig ρ) Exc)} {r : Except Exc RenderedArtifact}
    (h : (processPoolRun semaphore job).Runs tr r)
    (hsem : ∀ e ∈ tr, (∃ job, e.op = .runInExecutor job) ∨ e.Ok) :
    (∃ art, r = .ok art) ∨ ∃ exc, r = .error (renderFailure exc) ∧
      (⟨.runInExecutor job, .error exc⟩ : Event (executorSig ρ) Exc) ∈ tr := by
  obtain ⟨exc | art, rfl, hmem⟩ := processPoolRun_answer h hsem
  · exact Or.inr ⟨exc, rfl, hmem⟩
  · exact Or.inl ⟨art, rfl⟩

end DocGen
