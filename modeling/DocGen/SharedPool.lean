/-
# Requests that share a render pool

One worker handles any number of messages side by side, each delivered again
while it is not acked, and all of them render in one pool. A render that kills
a process fails the renders of other requests, and each of these uses up a
delivery: there is nothing that tells the render that killed from those beside
it. So a request may be dead-lettered for the crashes of others
(`crashes_exhaust_deliveries`), but only by a delivery that such a crash has
hit, and from the bound on (`steady_request_hit`).
-/
import DocGen.Handling
import DocGen.Lib.Lists
import DocGen.Pipeline
import DocGen.RenderPool
import Mathlib.Logic.Relation

namespace DocGen

open Prog

/-- The calls of a handling's ports: those of the render executor, and bare
calls. -/
abbrev workerSig (ρ : Type) : Sig := (executorSig ρ).sum (portSig ρ)

/-- The ports of a worker with a render pool. -/
def poolPorts (ρ : Type) (semaphore : Bool) : Ports (workerSig ρ) ρ where
  fetch uri := ((Ports.calls ρ).fetch uri).inr
  get engine fmt := ((Ports.calls ρ).get engine fmt).inr
  validate data schema := ((Ports.calls ρ).validate data schema).inr
  run renderer bundle data fmt locale := (processPoolRun semaphore ⟨renderer, bundle, data, fmt, locale⟩).inl
  put key content contentType presignTtl := ((Ports.calls ρ).put key content contentType presignTtl).inr

/-- The calls of a handling. -/
abbrev handlingSig (ρ : Type) : Sig := msgSig.sum (workerSig ρ)

/-- The answers to the calls of a steady request: all but the pool's are
successes, of a template that has the formats it asks for. -/
def SteadyAnswer {ρ : Type} (request : GenerationRequest) : Event (handlingSig ρ) Exc → Prop
  | ⟨.inr (.inl (.runInExecutor _)), x⟩ => (∃ art, x = .ok art) ∨ x = .error processDied
  | ⟨.inr (.inr (.fetch _)), x⟩ => ∃ bundle, x = .ok bundle ∧
    ∀ fmt ∈ request.requestedFormats, fmt ∈ bundle.manifest.supportedFormats
  | ⟨.inr (.inr (.get _ _)), x⟩ => ∃ renderer, x = .ok (some renderer)
  | e => e.Ok

/-! ### The worker -/

/-- One delivery of a message: its count, the calls its handling has made, what
is left of it, and the render it waits for. -/
structure Handling (ρ : Type) where
  message : ℕ
  count : ℕ
  history : List (Event (handlingSig ρ) Exc)
  rest : Coroutine (handlingSig ρ) Outcome
  future : Option ℕ

/-- The broker calls a handling has made. -/
def Handling.broker {ρ : Type} (h : Handling ρ) : MsgTrace := h.history.filterMap Event.left?

/-- The pools and the deliveries of a worker. -/
structure Worker (ρ : Type) where
  pool : PoolState
  handlings : List (Handling ρ)

namespace Worker

variable {ρ : Type}

def start (permits : ℕ) : Worker ρ := ⟨.start permits, []⟩

/-- How often the message was delivered. -/
def deliveries (s : Worker ρ) (m : ℕ) : ℕ := (s.handlings.map Handling.message).count m

/-- Some delivery of the message was acked. -/
def Acked (s : Worker ρ) (m : ℕ) : Prop :=
  ∃ h ∈ s.handlings, h.message = m ∧ ⟨.ack, .ok ()⟩ ∈ h.broker

/-- What a call does to the pools: the semaphore counts its permits, and only
`run_in_executor` renders. -/
def CallPool : (op : (handlingSig ρ).Op) → (handlingSig ρ).Ans Exc op → PoolState → PoolState → Prop
  | .inr (.inl .acquire), x, p, p' => 0 < p.permits ∧ x = .ok () ∧ p' = { p with permits := p.permits - 1 }
  | .inr (.inl .release), x, p, p' => x = .ok () ∧ p' = { p with permits := p.permits + 1 }
  | .inr (.inl (.runInExecutor _)), _, _, _ => False
  | _, _, p, p' => p' = p

variable (deps : HandlerDeps (workerSig ρ) ρ) (body : ℕ → Bytes) (steady : ℕ → Prop)

/-- The steps of the broker, of the handlings and of the pool's processes. Of
the messages, `body` is the body. A render of a steady message kills no
process, and is answered by an artifact unless its pool breaks. -/
inductive Step : Worker ρ → Worker ρ → Prop
  | deliver {s : Worker ρ} (m : ℕ) (hacked : ¬ s.Acked m) (hn : s.deliveries m < serverMaxDeliver deps.maxDeliver) :
      Step s { s with handlings := s.handlings ++
        [⟨m, s.deliveries m + 1, [], handleMessage deps ⟨body m, some (s.deliveries m + 1)⟩, none⟩] }
  | call {s : Worker ρ} (i : ℕ) {m n hist op k} (hi : s.handlings[i]? = some ⟨m, n, hist, .call op k, none⟩) (x)
      {p} (hp : CallPool op x s.pool p)
      (hsteady : steady m → ∀ request, deps.decode (body m) = some request → SteadyAnswer request ⟨op, x⟩) :
      Step s ⟨p, s.handlings.set i ⟨m, n, hist ++ [⟨op, x⟩], k x, none⟩⟩
  | submit {s : Worker ρ} (i : ℕ) {m n hist job k}
      (hi : s.handlings[i]? = some ⟨m, n, hist, .call (.inr (.inl (.runInExecutor job))) k, none⟩) {f p}
      (hp : (renderPoolSubmit job).Exec (PoolState.sem i m) s.pool (.ok f) p) :
      Step s ⟨p, s.handlings.set i ⟨m, n, hist, .call (.inr (.inl (.runInExecutor job))) k, some f⟩⟩
  | finish {s : Worker ρ} (f : ℕ) {r : Render} (hr : s.pool.renders[f]? = some r) (ha : r.ended = none)
      (hb : r.pool ∉ s.pool.broken) (x) (hsteady : steady r.message → ∃ art, x = .ok art) :
      Step s { s with pool := s.pool.settle f x }
  | die {s : Worker ρ} {r : Render} (hr : r ∈ s.pool.renders) (ha : r.ended = none)
      (hb : r.pool = s.pool.current) (hcurrent : s.pool.current ∉ s.pool.broken) (hsteady : ¬ steady r.message) :
      Step s { s with pool := s.pool.die r.message }
  | resume {s : Worker ρ} (i : ℕ) {m n hist job k f} {r : Render} {a : RenderEnd}
      (hi : s.handlings[i]? = some ⟨m, n, hist, .call (.inr (.inl (.runInExecutor job))) k, some f⟩)
      (hr : s.pool.renders[f]? = some r) (ha : r.ended = some a) :
      Step s ⟨s.pool, s.handlings.set i ⟨m, n, hist ++ [⟨.inr (.inl (.runInExecutor job)), a.answer⟩], k a.answer, none⟩⟩

/-- The states some order of steps reaches. -/
def Reach (permits : ℕ) : Worker ρ → Prop := Relation.ReflTransGen (Step deps body steady) (start permits)

/-- A render of the handling had not ended when a render for another message
killed a process of its pool. -/
def Hit (s : Worker ρ) (i m : ℕ) : Prop :=
  ∃ r ∈ s.pool.renders, r.handling = i ∧ ∃ killer, r.ended = some (.died killer) ∧ killer ≠ m

end Worker

/-! ### A handling of a steady request -/

section

variable {ρ : Type} {semaphore : Bool} {request : GenerationRequest} {generatedAt : String}

/-- A port of a steady request succeeds, or a process died under its render. -/
theorem steady_port {e : Event (portSig ρ) Exc} {t : List (Event (workerSig ρ) Exc)}
    (h : ((poolPorts ρ semaphore).impl e.op).Runs t e.ans) (hs : ∀ x ∈ t, SteadyAnswer request x.inr) :
    SteadyAnswer request e.inr.inr ∨
      e.ans = .error (renderFailure processDied) ∧ ∃ x ∈ t, x.Raised := by
  have hcall : ∀ {op : PortOp ρ} {x}, ((Prog.perform (S := portSig ρ) op).inr (S := executorSig ρ)).Runs t x →
      SteadyAnswer request (⟨.inr (.inr op), x⟩ : Event (handlingSig ρ) Exc) := by
    intro op x h
    obtain ⟨t', rfl, ht⟩ := runs_inr.mp h
    rw [runs_perform.mp ht] at hs
    exact hs _ List.mem_cons_self
  obtain ⟨op, x⟩ := e
  cases op with
  | run renderer bundle data fmt locale =>
    obtain ⟨u, rfl, hu⟩ := runs_inl.mp h
    have hsem : ∀ e ∈ u, (∃ job, e.op = .runInExecutor job) ∨ e.Ok := by
      rintro ⟨op, x⟩ he
      have hx := hs _ (List.mem_map_of_mem he)
      cases op with
      | runInExecutor job => exact Or.inl ⟨job, rfl⟩
      | _ => exact Or.inr hx
    rcases processPoolRun_runs hu hsem with ⟨art, hart⟩ | ⟨exc, hexc, hmem⟩
    · exact Or.inl ⟨art, hart⟩
    · rcases hs _ (List.mem_map_of_mem hmem) with ⟨_, hok⟩ | hdied
      · cases hok
      · cases hdied
        exact Or.inr ⟨hexc, _, List.mem_map_of_mem hmem, ⟨_, rfl⟩⟩
  | _ => exact Or.inl (hcall h)

theorem SteadyAnswer.ok {e : Event (portSig ρ) Exc}
    (h : SteadyAnswer request (e.inr.inr : Event (handlingSig ρ) Exc)) : e.Ok := by
  obtain ⟨op, x⟩ := e
  cases op with
  | fetch =>
    obtain ⟨bundle, hx, -⟩ := h
    exact ⟨bundle, hx⟩
  | get =>
    obtain ⟨renderer, hx⟩ := h
    exact ⟨_, hx⟩
  | _ => exact h

/-- The pipeline of a steady request succeeds, or a process died under a render
of it. -/
theorem process_request_steady {tr : List (Event (workerSig ρ) Exc)} {r : Except Exc GenerationResult}
    (h : (processRequest (poolPorts ρ semaphore) request generatedAt).Runs tr r)
    (hs : ∀ x ∈ tr, SteadyAnswer request x.inr) :
    Succeeds r ∨ (∃ version, r = caught request generatedAt version (renderFailure processDied)) ∧
      ∃ x ∈ tr, x.Raised := by
  rw [← processRequest_interp, runs_interp] at h
  obtain ⟨es, hi, hr⟩ := h
  have hport : ∀ e ∈ es, SteadyAnswer request e.inr.inr ∨
      e.ans = .error (renderFailure processDied) ∧ ∃ x ∈ tr, x.Raised := by
    intro e he
    obtain ⟨t, hsub, ht⟩ := hi.run he
    rcases steady_port ht fun x hx => hs x (hsub x hx) with hok | ⟨hans, x, hx, hraised⟩
    · exact Or.inl hok
    · exact Or.inr ⟨hans, x, hsub x hx, hraised⟩
  have hall := process_request_all_or_nothing hr
  by_cases hsteady : ∀ e ∈ es, SteadyAnswer request e.inr.inr
  · -- no call raised, and the support check passes
    refine Or.inl (by_contra fun hns => ?_)
    obtain ⟨⟨bundle, fmt, hf, hfmt, hun⟩, -⟩ := hall.refused (fun e he => (hsteady e he).ok) hns
    rcases hun with hun | hun
    · obtain ⟨bundle', hb, hsup⟩ := hsteady _ hf
      cases hb
      exact hun (hsup fmt hfmt)
    · obtain ⟨renderer, hx⟩ := hsteady _ hun
      cases hx
  · obtain ⟨e, he, hnot⟩ := not_forall₂.mp hsteady
    obtain ⟨hans, hraised⟩ := (hport e he).resolve_left hnot
    obtain ⟨op, x⟩ := e
    obtain rfl : x = .error (renderFailure processDied) := hans
    exact Or.inr ⟨process_request_raised hr he, hraised⟩

/-- The result of a steady request is a success, or a failure for now after a
process died. -/
theorem build_result_steady {deps : HandlerDeps (workerSig ρ) ρ} {result : GenerationResult}
    {tr : List (Event (workerSig ρ) Exc)} (hports : deps.ports = poolPorts ρ semaphore)
    (h : (buildResult deps request).Runs tr (.ok result)) (hs : ∀ x ∈ tr, SteadyAnswer request x.inr) :
    result.status = .success ∨ FailsWith result False ∧ ∃ x ∈ tr, x.Raised := by
  have hrun : ∀ {r}, (processRequest deps.ports request deps.startedAt).Runs tr r →
      Succeeds r ∨ (∃ version, r = caught request deps.startedAt version (renderFailure processDied)) ∧
        ∃ x ∈ tr, x.Raised := fun hr => process_request_steady (hports ▸ hr) hs
  rcases runs_tryCatch.mp h with ⟨_, hr, hp⟩ | ⟨exc, t₁, t₂, rfl, hp, rfl, -⟩
  · cases hr
    rcases hrun hp with ⟨_, hr, hs⟩ | ⟨⟨version, hr⟩, hraised⟩
    · cases hr
      exact Or.inl hs
    · cases hr
      exact Or.inr ⟨⟨rfl, _, rfl, iff_of_false Bool.false_ne_true id⟩, hraised⟩
  · rw [List.append_nil] at hrun
    rcases hrun hp with ⟨_, hr, -⟩ | ⟨⟨version, hr⟩, -⟩ <;> cases hr

end

/-- A result that says the request failed, or a copy of it to the dead-letter
subject. -/
def MsgOp.GivesUp : MsgOp → Prop
  | .publishResult _ result => result.status = .failed
  | .publishDlq _ _ => True
  | _ => False

section

variable {ρ : Type} {semaphore : Bool} {request : GenerationRequest} {deps : HandlerDeps (workerSig ρ) ρ}
  {msg : Msg} {tr : List (Event (handlingSig ρ) Exc)} {q : Coroutine (handlingSig ρ) Outcome}

/-- A steady request is given back or given up only after a process died under
a render of it, and is given up only from the bound on. -/
theorem steady_broker (hports : deps.ports = poolPorts ρ semaphore) (hd : deps.decode msg.data = some request)
    (h : Steps (handleMessage deps msg) tr q) (hs : ∀ x ∈ tr, SteadyAnswer request x)
    {e : Event msgSig Exc} (he : e ∈ tr.filterMap Event.left?) :
    (e.op.isNak ∨ e.op.GivesUp → ∃ x ∈ tr, x.Raised) ∧
      (e.op.GivesUp → deps.maxDeliver ≤ msg.numDelivered) := by
  obtain ⟨pipe, result, emits, hsub, hbuild, hE, hmem, hrest⟩ := steps_broker hd h he
  have hemits : ∀ y ∈ emits, y.Ok := fun y hy => (hrest y hy).elim (hs _) id
  rcases build_result_steady hports hbuild (fun y hy => hs _ (hsub y hy)) with hsucc | ⟨hfail, hdied⟩
  · -- a success is published and acked
    have hterminal : isTerminal result = true := terminal_of_success hsucc
    obtain ⟨-, rfl⟩ | ⟨ht, -⟩ := hE.all_ok hemits
    swap
    · rw [hterminal] at ht
      cases ht
    have hno : ¬ (e.op.isNak ∨ e.op.GivesUp) := by
      simp only [List.mem_cons, List.not_mem_nil, or_false] at hmem
      rcases hmem with rfl | rfl
      · rintro (hn | hg)
        · cases hn
        · cases hsucc.symm.trans hg
      · rintro (hn | hg)
        · cases hn
        · exact hg
    exact ⟨fun h => absurd h hno, fun h => absurd (Or.inr h) hno⟩
  · obtain ⟨y, hy, hraised⟩ := hdied
    refine ⟨fun _ => ⟨y.inr, hsub y hy, hraised⟩, fun hg => ?_⟩
    have hterminal : ¬ isTerminal result = true := (terminal_of_failsWith hfail).not.mpr id
    obtain ⟨ht, -⟩ | ⟨-, ⟨-, rfl⟩ | ⟨hn, -⟩⟩ := hE.all_ok hemits
    · exact absurd ht hterminal
    · cases List.mem_singleton.mp hmem
      exact hg.elim
    · exact hn

end

namespace Worker

section

variable {ρ : Type} (deps : HandlerDeps (workerSig ρ) ρ) (body : ℕ → Bytes) (steady : ℕ → Prop)

/-- What holds of the handling `i`: its calls so far are a part of a run, the
render it waits for is its own, and a steady one that met an exception was
hit. -/
structure Traced (pool : PoolState) (i : ℕ) (h : Handling ρ) : Prop where
  steps : Steps (handleMessage deps ⟨body h.message, some h.count⟩) h.history h.rest
  future : ∀ f, h.future = some f → ∃ r, pool.renders[f]? = some r ∧ r.handling = i ∧ r.message = h.message
  answers : ∀ request, steady h.message → deps.decode (body h.message) = some request →
    ∀ x ∈ h.history, SteadyAnswer request x
  hit : ∀ request, steady h.message → deps.decode (body h.message) = some request →
    (∃ x ∈ h.history, x.Raised) → ∃ r ∈ pool.renders, r.handling = i ∧
      ∃ killer, r.ended = some (.died killer) ∧ ¬ steady killer

/-- A render of a steady message returns an artifact, or dies of another. -/
def CleanPool (pool : PoolState) : Prop :=
  ∀ r ∈ pool.renders, steady r.message → ∀ a, r.ended = some a →
    (∃ art, a = .returned (.ok art)) ∨ ∃ killer, a = .died killer ∧ ¬ steady killer

/-- The invariant. -/
structure Inv (s : Worker ρ) : Prop where
  clean : CleanPool steady s.pool
  counts : ∀ i h, s.handlings[i]? = some h →
    h.count = ((s.handlings.map Handling.message).take (i + 1)).count h.message
  traced : ∀ i h, s.handlings[i]? = some h → Traced deps body steady s.pool i h

variable {deps} {body} {steady}

theorem Traced.mono {p p' : PoolState} {i : ℕ} {h : Handling ρ} (ht : Traced deps body steady p i h)
    (hp : p.Le p') : Traced deps body steady p' i h where
  steps := ht.steps
  future f hf := by
    obtain ⟨r, hr, hi, hm⟩ := ht.future f hf
    obtain ⟨r', hr', hi', hm', -⟩ := hp f r hr
    exact ⟨r', hr', hi'.trans hi, hm'.trans hm⟩
  answers := ht.answers
  hit request hs hd hraised := by
    obtain ⟨r, hr, hi, killer, hk, hns⟩ := ht.hit request hs hd hraised
    obtain ⟨f, hf⟩ := List.mem_iff_getElem?.mp hr
    obtain ⟨r', hr', hi', -, hended⟩ := hp f r hf
    exact ⟨r', List.mem_of_getElem? hr', hi'.trans hi, killer, hended _ hk, hns⟩

theorem CleanPool.add {p : PoolState} (hc : CleanPool steady p) (i m : ℕ) : CleanPool steady (p.add i m) := by
  intro r hr hs a ha
  rcases List.mem_append.mp hr with hr | hr
  · exact hc r hr hs a ha
  · rw [List.mem_singleton.mp hr] at ha
    cases ha

theorem CleanPool.of_renders {p p' : PoolState} (hc : CleanPool steady p) (h : p'.renders = p.renders) :
    CleanPool steady p' := by
  intro r hr
  exact hc r (h ▸ hr)

theorem CleanPool.settle {p : PoolState} (hc : CleanPool steady p) {f : ℕ} {r : Render}
    (hr : p.renders[f]? = some r) {x : Except Exc RenderedArtifact}
    (hx : steady r.message → ∃ art, x = .ok art) : CleanPool steady (p.settle f x) := by
  intro r' hr' hs a ha
  obtain ⟨g, hg⟩ := List.mem_iff_getElem?.mp hr'
  by_cases h : f = g
  · subst h
    rw [PoolState.renders_settle, List.getElem?_modify_eq, hr] at hg
    cases hg
    cases ha
    obtain ⟨art, rfl⟩ := hx hs
    exact Or.inl ⟨art, rfl⟩
  · rw [PoolState.renders_settle, List.getElem?_modify_ne _ _ h] at hg
    exact hc r' (List.mem_of_getElem? hg) hs a ha

theorem CleanPool.die {p : PoolState} (hc : CleanPool steady p) {killer : ℕ} (hk : ¬ steady killer) :
    CleanPool steady (p.die killer) := by
  intro r' hr' hs a ha
  obtain ⟨r, hr, rfl⟩ := List.mem_map.mp hr'
  by_cases hp : r.pool = p.current
  · rw [if_pos hp] at ha hs
    rcases r.fail_cases killer with ⟨-, h⟩ | h
    · rw [h] at ha
      cases ha
      exact Or.inr ⟨killer, rfl, hk⟩
    · rw [h] at ha hs
      exact hc r hr hs a ha
  · rw [if_neg hp] at ha hs
    exact hc r hr hs a ha

theorem inv_start (permits : ℕ) : Inv deps body steady (start permits : Worker ρ) where
  clean r hr := by cases hr
  counts i h hi := by simp [start] at hi
  traced i h hi := by simp [start] at hi

/-- The other handlings are left as they are. -/
theorem Inv.set {s : Worker ρ} (hI : Inv deps body steady s) {p : PoolState} (hp : s.pool.Le p)
    (hc : CleanPool steady p) {i : ℕ} {h h' : Handling ρ} (hi : s.handlings[i]? = some h)
    (hm : h'.message = h.message) (hn : h'.count = h.count) (ht : Traced deps body steady p i h') :
    Inv deps body steady ⟨p, s.handlings.set i h'⟩ := by
  have hget : ∀ j k, (s.handlings.set i h')[j]? = some k → (j = i ∧ k = h') ∨ s.handlings[j]? = some k := by
    intro j k hj
    by_cases hij : i = j
    · subst hij
      rw [List.getElem?_set_self (List.getElem?_eq_some_iff.mp hi).1, Option.some_inj] at hj
      exact Or.inl ⟨rfl, hj.symm⟩
    · rw [List.getElem?_set_ne hij] at hj
      exact Or.inr hj
  have hmessages : (s.handlings.set i h').map Handling.message = s.handlings.map Handling.message := by
    refine List.ext_getElem? fun j => ?_
    by_cases hij : i = j
    · subst hij
      rw [List.getElem?_map, List.getElem?_set_self (List.getElem?_eq_some_iff.mp hi).1, List.getElem?_map, hi]
      exact congrArg some hm
    · simp [List.getElem?_set_ne hij]
  refine ⟨hc, fun j k hj => ?_, fun j k hj => ?_⟩
  · rw [hmessages]
    rcases hget j k hj with ⟨rfl, rfl⟩ | hj
    · rw [hn, hm]
      exact hI.counts j h hi
    · exact hI.counts j k hj
  · rcases hget j k hj with ⟨rfl, rfl⟩ | hj
    · exact ht
    · exact (hI.traced j k hj).mono hp

theorem Inv.pool {s : Worker ρ} (hI : Inv deps body steady s) {p : PoolState} (hp : s.pool.Le p)
    (hc : CleanPool steady p) : Inv deps body steady { s with pool := p } :=
  ⟨hc, hI.counts, fun i h hi => (hI.traced i h hi).mono hp⟩

/-- Only the pool's answer to a steady request is an exception. -/
theorem steadyAnswer_ok {request : GenerationRequest} {e : Event (handlingSig ρ) Exc}
    (h : SteadyAnswer request e) (hop : ∀ job, e.op ≠ .inr (.inl (.runInExecutor job))) : e.Ok := by
  obtain ⟨op, x⟩ := e
  rcases op with op | op | op
  · exact h
  · cases op with
    | runInExecutor job => exact absurd rfl (hop job)
    | _ => exact h
  · exact SteadyAnswer.ok (e := ⟨op, x⟩) h

/-- A call but `run_in_executor` touches no render. -/
theorem renders_of_call {op : (handlingSig ρ).Op} {x : (handlingSig ρ).Ans Exc op} {p p' : PoolState}
    (h : CallPool op x p p') : p'.renders = p.renders ∧ ∀ job, op ≠ .inr (.inl (.runInExecutor job)) := by
  rcases op with op | op | op
  · cases h
    exact ⟨rfl, fun _ h => by cases h⟩
  · cases op with
    | acquire =>
      obtain ⟨-, -, rfl⟩ := h
      exact ⟨rfl, fun _ h => by cases h⟩
    | release =>
      obtain ⟨-, rfl⟩ := h
      exact ⟨rfl, fun _ h => by cases h⟩
    | runInExecutor job => exact h.elim
  · cases h
    exact ⟨rfl, fun _ h => by cases h⟩

/-- The answer of the render that a steady handling waits for. -/
theorem CleanPool.answer {p : PoolState} (hc : CleanPool steady p) {r : Render} (hr : r ∈ p.renders)
    (hs : steady r.message) {a : RenderEnd} (ha : r.ended = some a) :
    ((∃ art, a.answer = .ok art) ∨ a.answer = .error processDied) ∧
      (¬ (∃ art, a.answer = .ok art) → ∃ killer, r.ended = some (.died killer) ∧ ¬ steady killer) := by
  rcases hc r hr hs a ha with ⟨art, rfl⟩ | ⟨killer, rfl, hk⟩
  · exact ⟨Or.inl ⟨art, rfl⟩, fun h => absurd ⟨art, rfl⟩ h⟩
  · exact ⟨Or.inr rfl, fun _ => ⟨killer, ha, hk⟩⟩

theorem inv_step {s t : Worker ρ} (hI : Inv deps body steady s) (hs : Step deps body steady s t) :
    Inv deps body steady t := by
  cases hs with
  | deliver m hacked hn =>
    refine ⟨hI.clean, fun i h hi => ?_, fun i h hi => ?_⟩ <;>
      rcases getElem?_concat_some hi with hi | ⟨rfl, rfl⟩
    · have hlt : i < s.handlings.length := (List.getElem?_eq_some_iff.mp hi).1
      rw [List.map_append, List.take_append_of_le_length (by simpa using Nat.succ_le_of_lt hlt)]
      exact hI.counts i h hi
    · rw [List.take_of_length_le (by simp), List.map_append, List.count_append]
      simp [deliveries]
    · exact hI.traced i h hi
    · exact ⟨.nil, nofun, fun _ _ _ => List.forall_mem_nil _, fun _ _ _ ⟨_, hx, _⟩ => nomatch hx⟩
  | @call i m n hist op k hi x p hp hsteady =>
    obtain ⟨hrenders, hop⟩ := renders_of_call hp
    have ht := (hI.traced i _ hi).mono (PoolState.Le.of_renders hrenders)
    have hanswer : ∀ request, steady m → deps.decode (body m) = some request →
        ∀ y ∈ hist ++ [⟨op, x⟩], SteadyAnswer request y := by
      intro request hs hd y hy
      rcases List.mem_append.mp hy with hy | hy
      · exact ht.answers request hs hd y hy
      · rw [List.mem_singleton.mp hy]
        exact hsteady hs request hd
    refine hI.set (PoolState.Le.of_renders hrenders) (hI.clean.of_renders hrenders) hi rfl rfl
      ⟨ht.steps.snoc x, nofun, hanswer, ?_⟩
    rintro request hs hd ⟨y, hy, hraised⟩
    rcases List.mem_append.mp hy with hy | hy
    · exact ht.hit request hs hd ⟨y, hy, hraised⟩
    · rw [List.mem_singleton.mp hy] at hraised
      obtain ⟨a, hok⟩ := steadyAnswer_ok (hsteady hs request hd) hop
      obtain ⟨exc, herror⟩ := hraised
      cases hok.symm.trans herror
  | @submit i m n hist job k hi f p hp =>
    obtain ⟨hf, rfl⟩ := PoolState.exec_renderPoolSubmit.mp hp
    obtain rfl := Except.ok.inj hf
    have hle : s.pool.Le (s.pool.usable.add i m) := by
      have h := s.pool.usable.le_add i m
      unfold PoolState.Le at h
      rwa [PoolState.renders_usable] at h
    have ht := (hI.traced i _ hi).mono hle
    refine hI.set hle ((hI.clean.of_renders s.pool.renders_usable).add i m) hi rfl rfl
      ⟨ht.steps, fun f hf => ?_, ht.answers, ht.hit⟩
    obtain rfl := Option.some.inj hf
    exact ⟨⟨s.pool.usable.current, i, m, none⟩, by simp, rfl, rfl⟩
  | @finish f r hr ha hb x hsteady =>
    exact hI.pool (PoolState.le_settle hr ha x) (hI.clean.settle hr hsteady)
  | die hr ha hb hcurrent hsteady => exact hI.pool (s.pool.le_die _) (hI.clean.die hsteady)
  | @resume i m n hist job k f r a hi hr ha =>
    have ht := hI.traced i _ hi
    obtain ⟨r', hr', hri, hrm⟩ := ht.future f rfl
    obtain rfl := Option.some.inj (hr.symm.trans hr')
    have hanswer : steady m → _ := fun hs => hI.clean.answer (List.mem_of_getElem? hr) (hrm ▸ hs) ha
    refine hI.set (PoolState.Le.of_renders rfl) hI.clean hi rfl rfl
      ⟨ht.steps.snoc a.answer, nofun, fun request hs hd y hy => ?_, ?_⟩
    · rcases List.mem_append.mp hy with hy | hy
      · exact ht.answers request hs hd y hy
      · rw [List.mem_singleton.mp hy]
        exact (hanswer hs).1
    · rintro request hs hd ⟨y, hy, hraised⟩
      rcases List.mem_append.mp hy with hy | hy
      · exact ht.hit request hs hd ⟨y, hy, hraised⟩
      · rw [List.mem_singleton.mp hy] at hraised
        obtain ⟨exc, herror⟩ := hraised
        obtain ⟨killer, hk⟩ := (hanswer hs).2 fun ⟨art, hok⟩ => by cases hok.symm.trans herror
        exact ⟨r, List.mem_of_getElem? hr, hri, killer, hk⟩

theorem inv_reach {permits : ℕ} {s : Worker ρ} (h : Reach deps body steady permits s) :
    Inv deps body steady s := by
  induction h with
  | refl => exact inv_start permits
  | tail _ hs ih => exact inv_step ih hs

end

/-! ### A request dead-lettered for the crashes of others -/

section

variable {ρ : Type} {deps : HandlerDeps (workerSig ρ) ρ} {body : ℕ → Bytes} {steady : ℕ → Prop}
  {p : PoolState} {l r : List (Handling ρ)} {m n : ℕ}

/-- One call of one handling among others. -/
theorem step_call {p' : PoolState} {hist : List (Event (handlingSig ρ) Exc)} {op : (handlingSig ρ).Op}
    {k : (handlingSig ρ).Ans Exc op → Coroutine (handlingSig ρ) Outcome} (x : (handlingSig ρ).Ans Exc op)
    (hp : CallPool op x p p')
    (hs : steady m → ∀ request, deps.decode (body m) = some request → SteadyAnswer request ⟨op, x⟩) :
    Step deps body steady ⟨p, l ++ ⟨m, n, hist, .call op k, none⟩ :: r⟩
      ⟨p', l ++ ⟨m, n, hist ++ [⟨op, x⟩], k x, none⟩ :: r⟩ := by
  have h := @Step.call ρ deps body steady ⟨p, l ++ ⟨m, n, hist, .call op k, none⟩ :: r⟩ l.length m n hist op k
    (by simp) x p' hp hs
  simpa using h

theorem step_submit {hist : List (Event (handlingSig ρ) Exc)} {job : Job ρ}
    {k : (handlingSig ρ).Ans Exc (.inr (.inl (.runInExecutor job))) → Coroutine (handlingSig ρ) Outcome} :
    Step deps body steady ⟨p, l ++ ⟨m, n, hist, .call (.inr (.inl (.runInExecutor job))) k, none⟩ :: r⟩
      ⟨p.usable.add l.length m,
        l ++ ⟨m, n, hist, .call (.inr (.inl (.runInExecutor job))) k, some p.renders.length⟩ :: r⟩ := by
  have h := @Step.submit ρ deps body steady
    ⟨p, l ++ ⟨m, n, hist, .call (.inr (.inl (.runInExecutor job))) k, none⟩ :: r⟩ l.length m n hist job k
    (by simp) p.renders.length (p.usable.add l.length m) (PoolState.exec_renderPoolSubmit.mpr ⟨rfl, rfl⟩)
  simpa using h

theorem step_resume {hist : List (Event (handlingSig ρ) Exc)} {job : Job ρ}
    {k : (handlingSig ρ).Ans Exc (.inr (.inl (.runInExecutor job))) → Coroutine (handlingSig ρ) Outcome}
    {f : ℕ} {rend : Render} {a : RenderEnd} (hr : p.renders[f]? = some rend) (ha : rend.ended = some a) :
    Step deps body steady ⟨p, l ++ ⟨m, n, hist, .call (.inr (.inl (.runInExecutor job))) k, some f⟩ :: r⟩
      ⟨p, l ++ ⟨m, n, hist ++ [⟨.inr (.inl (.runInExecutor job)), a.answer⟩], k a.answer, none⟩ :: r⟩ := by
  have h := @Step.resume ρ deps body steady
    ⟨p, l ++ ⟨m, n, hist, .call (.inr (.inl (.runInExecutor job))) k, some f⟩ :: r⟩ l.length m n hist job k
    f rend a (by simp) hr ha
  simpa using h

/-- Calls of one handling that touch no pool, one after the other. -/
theorem reach_calls {q q' : Coroutine (handlingSig ρ) Outcome} {t : List (Event (handlingSig ρ) Exc)}
    (h : Steps q t q') : ∀ {hist : List (Event (handlingSig ρ) Exc)}, (∀ e ∈ t, CallPool e.op e.ans p p ∧
      (steady m → ∀ request, deps.decode (body m) = some request → SteadyAnswer request e)) →
    Relation.ReflTransGen (Step deps body steady) ⟨p, l ++ ⟨m, n, hist, q, none⟩ :: r⟩
      ⟨p, l ++ ⟨m, n, hist ++ t, q', none⟩ :: r⟩ := by
  induction h with
  | nil =>
    intro hist _
    rw [List.append_nil]
  | @cons op k x t q' _ ih =>
    intro hist ht
    obtain ⟨⟨hp, hs⟩, ht⟩ := List.forall_mem_cons.mp ht
    have hsplit : hist ++ ⟨op, x⟩ :: t = hist ++ [⟨op, x⟩] ++ t := List.append_cons ..
    rw [hsplit]
    exact .head (step_call x hp hs) (ih ht)

end

/-- A request whose data takes a renderer too much memory. -/
def heavyRequest : GenerationRequest :=
  { makeRequest with
    requestId := "req-2"
    data := [("rows", .int 100000000)]
    requestId_ne := by decide }

def numbered (m : ℕ) : Bytes := [UInt8.ofNat m]

/-- A worker with a render pool that all its requests share. -/
def crowded (maxDeliver : ℕ) : HandlerDeps (workerSig Unit) Unit where
  ports := poolPorts Unit true
  maxDeliver := maxDeliver
  nakDelay := 30
  startedAt := "2026-06-18T00:00:00+00:00"
  failedAt := "2026-06-18T00:00:01+00:00"
  decode data := some (if data = numbered 0 then makeRequest else heavyRequest)

/-- The calls of a request for one PDF before its render. -/
def beforeRender (request : GenerationRequest) : List (Event (handlingSig Unit) Exc) :=
  [⟨.inr (.inr (.fetch request.templateUri)), .ok invoiceBundle⟩,
    ⟨.inr (.inr (.get .jinjaHtml .pdf)), .ok (some ())⟩,
    ⟨.inr (.inr (.validate request.data [])), .ok ()⟩]

def crashedResult (request : GenerationRequest) : GenerationResult :=
  failureFromError request ⟨.renderError, "render pool broken: " ++ processDied.str⟩
    "2026-06-18T00:00:00+00:00" (some invoiceBundle.manifest.version)

/-- What a handling does when its render has died. -/
def afterCrash (maxDeliver : ℕ) (msg : Msg) (request : GenerationRequest) : Coroutine (handlingSig Unit) Outcome :=
  ((emit (crowded maxDeliver) msg request (crashedResult request)).inl).tryCatch fun _ =>
    (handleEmitFailure (crowded maxDeliver) msg request).inl

theorem steps_crash (M : ℕ) (msg : Msg) {request : GenerationRequest}
    (hr : request = makeRequest ∨ request = heavyRequest) : ∃ job k₁ k₂ k₃,
    Steps (handleRequest (crowded M) msg request) (beforeRender request) (.call (.inr (.inl .acquire)) k₁) ∧
      k₁ (.ok ()) = .call (.inr (.inl (.runInExecutor job))) k₂ ∧
      k₂ (.error processDied) = .call (.inr (.inl .release)) k₃ ∧ k₃ (.ok ()) = afterCrash M msg request := by
  rcases hr with rfl | rfl <;>
    exact ⟨_, _, _, _, .cons (.cons (.cons .nil)), rfl, rfl, rfl⟩

/-- The calls of a handling that waits for its render. -/
def waitTrace (request : GenerationRequest) : List (Event (handlingSig Unit) Exc) :=
  beforeRender request ++ [⟨.inr (.inl .acquire), .ok ()⟩]

/-- The calls of a handling whose render has died. -/
def crashTrace (request : GenerationRequest) (job : Job Unit) : List (Event (handlingSig Unit) Exc) :=
  waitTrace request ++ [⟨.inr (.inl (.runInExecutor job)), .error processDied⟩] ++
    [⟨.inr (.inl .release), .ok ()⟩]

/-- A handling whose render has died. -/
def crashed (M m n : ℕ) (request : GenerationRequest) (job : Job Unit) : Handling Unit :=
  ⟨m, n, crashTrace request job, afterCrash M ⟨numbered m, some n⟩ request, none⟩

/-- A handling waits for the render `f`, and goes on with `afterCrash` if it
dies. -/
def Waits (M m n : ℕ) (request : GenerationRequest) (f : ℕ) (h : Handling Unit) : Prop := ∃ job k k',
  h = ⟨m, n, waitTrace request, .call (.inr (.inl (.runInExecutor job))) k, some f⟩ ∧
  k (.error processDied) = .call (.inr (.inl .release)) k' ∧ k' (.ok ()) = afterCrash M ⟨numbered m, some n⟩ request

section

variable {M m n : ℕ} {request : GenerationRequest} {p : PoolState} {l r : List (Handling Unit)}

/-- The steps of a crowded worker on which message 0 is steady. -/
abbrev CrowdedStep (M : ℕ) : Worker Unit → Worker Unit → Prop := Step (crowded M) numbered (· = 0)

/-- The next delivery of a message, up to its render. -/
theorem reach_submit (hr : request = makeRequest ∨ request = heavyRequest)
    (hd : (crowded M).decode (numbered m) = some request) (hacked : ¬ (⟨p, l⟩ : Worker Unit).Acked m)
    (hn : (⟨p, l⟩ : Worker Unit).deliveries m = n) (hM : n ≤ M) (hp : 0 < p.permits) :
    ∃ p' h, Relation.ReflTransGen (CrowdedStep M) ⟨p, l⟩ ⟨p', l ++ [h]⟩ ∧
      Waits M m (n + 1) request p.renders.length h ∧ p'.permits = p.permits - 1 ∧
      p'.renders = p.renders ++ [⟨p'.current, l.length, m, none⟩] ∧ p'.current ∉ p'.broken ∧
      (p.current ∉ p.broken → p'.current = p.current) := by
  obtain ⟨job, k₁, k₂, k₃, hsteps, h₁, h₂, h₃⟩ := steps_crash M ⟨numbered m, some (n + 1)⟩ hr
  have hdeliver : CrowdedStep M ⟨p, l⟩
      ⟨p, l ++ [⟨m, n + 1, [], handleRequest (crowded M) ⟨numbered m, some (n + 1)⟩ request, none⟩]⟩ := by
    have h := @Step.deliver Unit (crowded M) numbered (· = 0) ⟨p, l⟩ m hacked (hn ▸ Nat.lt_succ_of_le hM)
    unfold handleMessage at h
    rwa [hn, hd] at h
  have hanswers : ∀ e ∈ beforeRender request, CallPool e.op e.ans p p ∧
      (m = 0 → ∀ request, (crowded M).decode (numbered m) = some request → SteadyAnswer request e) := by
    have hsupported : ∀ fmt ∈ request.requestedFormats, fmt ∈ invoiceBundle.manifest.supportedFormats := by
      rcases hr with rfl | rfl <;> decide
    intro e he
    simp only [beforeRender, List.mem_cons, List.not_mem_nil, or_false] at he
    rcases he with rfl | rfl | rfl <;> refine ⟨rfl, fun _ request' hd' => ?_⟩
    · obtain rfl := Option.some.inj (hd.symm.trans hd')
      exact ⟨invoiceBundle, rfl, hsupported⟩
    · exact ⟨(), rfl⟩
    · exact ⟨(), rfl⟩
  have hacquire : CrowdedStep M
      ⟨p, l ++ [⟨m, n + 1, [] ++ beforeRender request, .call (.inr (.inl .acquire)) k₁, none⟩]⟩
      ⟨{ p with permits := p.permits - 1 }, l ++ [⟨m, n + 1, waitTrace request, k₁ (.ok ()), none⟩]⟩ :=
    step_call _ ⟨hp, rfl, rfl⟩ fun _ _ _ => ⟨(), rfl⟩
  rw [h₁] at hacquire
  refine ⟨_, _, .head hdeliver (.trans (reach_calls hsteps hanswers) (.head hacquire (.single step_submit))),
    ⟨job, k₂, k₃, rfl, h₂, h₃⟩, by simp [PoolState.add], by simp [PoolState.add], PoolState.usable_not_broken _, fun h => ?_⟩
  unfold PoolState.usable
  rw [if_neg h]
  rfl

/-- A render that died fails its handling. -/
theorem reach_resume {f : ℕ} {h : Handling Unit} (hw : Waits M m n request f h) {rend : Render} {killer : ℕ}
    (hr : p.renders[f]? = some rend) (ha : rend.ended = some (.died killer)) :
    ∃ job, Relation.ReflTransGen (CrowdedStep M) ⟨p, l ++ h :: r⟩ ⟨{ p with permits := p.permits + 1 },
      l ++ crashed M m n request job :: r⟩ := by
  obtain ⟨job, k, k', rfl, hk, hk'⟩ := hw
  have hresume : CrowdedStep M
      ⟨p, l ++ ⟨m, n, waitTrace request, .call (.inr (.inl (.runInExecutor job))) k, some f⟩ :: r⟩
      ⟨p, l ++ ⟨m, n, waitTrace request ++ [⟨.inr (.inl (.runInExecutor job)), .error processDied⟩],
        k (.error processDied), none⟩ :: r⟩ := step_resume hr ha
  have hrelease : CrowdedStep M
      ⟨p, l ++ ⟨m, n, waitTrace request ++ [⟨.inr (.inl (.runInExecutor job)), .error processDied⟩],
        .call (.inr (.inl .release)) k', none⟩ :: r⟩
      ⟨{ p with permits := p.permits + 1 }, l ++ ⟨m, n, crashTrace request job, k' (.ok ()), none⟩ :: r⟩ :=
    step_call _ ⟨rfl, rfl⟩ fun _ _ _ => ⟨(), rfl⟩
  rw [hk] at hresume
  rw [hk'] at hrelease
  exact ⟨job, .head hresume (.single hrelease)⟩

end

theorem acked_append {ρ : Type} {p p' : PoolState} {l r : List (Handling ρ)} {m : ℕ} :
    (⟨p', l ++ r⟩ : Worker ρ).Acked m ↔ (⟨p, l⟩ : Worker ρ).Acked m ∨
      ∃ h ∈ r, h.message = m ∧ ⟨.ack, .ok ()⟩ ∈ h.broker := by
  simp [Acked, or_and_right, exists_or]

/-- Messages 0 and 1 have each been delivered `d` times, and neither is
acked. -/
structure Lockstep (d : ℕ) (s : Worker Unit) : Prop where
  permits : s.pool.permits = 2
  pending : ∀ m ∈ [0, 1], ¬ s.Acked m
  delivered : ∀ m ∈ [0, 1], s.deliveries m = d

/-- The next deliveries of both: the render of the heavy request kills a process
under the other. -/
theorem Lockstep.crash {M d : ℕ} {s : Worker Unit} (h : Lockstep d s) (hd : d ≤ M) :
    ∃ p job₀ job₁, p.permits = 2 ∧ Relation.ReflTransGen (CrowdedStep M) s ⟨p, s.handlings ++
      [crashed M 0 (d + 1) makeRequest job₀, crashed M 1 (d + 1) heavyRequest job₁]⟩ := by
  obtain ⟨p, l⟩ := s
  obtain ⟨hpermits, hpending, hdelivered⟩ := h
  obtain ⟨p₁, h₀, hs₁, hw₀, hpermits₁, hr₁, hb₁, -⟩ := reach_submit (p := p) (l := l) (M := M) (m := 0)
    (Or.inl rfl) rfl (hpending 0 (by simp)) (hdelivered 0 (by simp)) hd (by rw [hpermits]; decide)
  have hacked : ¬ (⟨p₁, l ++ [h₀]⟩ : Worker Unit).Acked 1 := by
    rw [acked_append (p := p)]
    rintro (hacked | ⟨h, hmem, hm, -⟩)
    · exact hpending 1 (by simp) hacked
    · obtain ⟨_, _, _, rfl, -, -⟩ := hw₀
      cases List.mem_singleton.mp hmem
      cases hm
  have hn : (⟨p₁, l ++ [h₀]⟩ : Worker Unit).deliveries 1 = d := by
    obtain ⟨_, _, _, rfl, -, -⟩ := hw₀
    simpa [deliveries] using hdelivered 1 (by simp)
  rw [hpermits] at hpermits₁
  obtain ⟨p₂, h₁, hs₂, hw₁, hpermits₂, hr₂, hb₂, hcurrent⟩ := reach_submit (M := M) (m := 1)
    (Or.inr rfl) rfl hacked hn hd (by rw [hpermits₁]; decide)
  -- both wait in the current pool
  have hrenders : p₂.renders = p.renders ++ [⟨p₂.current, l.length, 0, none⟩] ++
      [⟨p₂.current, l.length + 1, 1, none⟩] := by
    rw [hr₂, hr₁, hcurrent hb₁, List.length_append, List.length_singleton]
  have hdie : CrowdedStep M ⟨p₂, l ++ [h₀] ++ [h₁]⟩ ⟨p₂.die 1, l ++ [h₀] ++ [h₁]⟩ :=
    .die (r := ⟨p₂.current, l.length + 1, 1, none⟩) (by simp [hrenders]) rfl rfl hb₂ (by simp)
  have hget₀ : (p₂.die 1).renders[p.renders.length]? = some ⟨p₂.current, l.length, 0, some (.died 1)⟩ := by
    simp [hrenders, Render.fail]
  have hget₁ : (p₂.die 1).renders[p₁.renders.length]? =
      some ⟨p₂.current, l.length + 1, 1, some (.died 1)⟩ := by
    simp [hrenders, hr₁, Render.fail]
  obtain ⟨job₀, hs₃⟩ := reach_resume (l := l) (r := [h₁]) hw₀ hget₀ rfl
  obtain ⟨job₁, hs₄⟩ := reach_resume (p := { p₂.die 1 with permits := (p₂.die 1).permits + 1 })
    (l := l ++ [crashed M 0 (d + 1) makeRequest job₀]) (r := []) hw₁ hget₁ rfl
  simp only [List.append_assoc, List.singleton_append] at hs₂ hdie hs₄
  refine ⟨_, job₀, job₁, ?_, hs₁.trans (hs₂.trans (.head hdie (hs₃.trans hs₄)))⟩
  rw [PoolState.permits_die, hpermits₂, hpermits₁]

section

variable {M : ℕ} (m : ℕ) {n : ℕ} (request : GenerationRequest) (job : Job Unit) (p : PoolState)
  (l r : List (Handling Unit))

/-- The broker's calls after a render has died. -/
theorem reach_broker {t : MsgTrace} {q : Coroutine (handlingSig Unit) Outcome}
    (h : Steps (afterCrash M ⟨numbered m, some n⟩ request) (t.map Event.inl) q) (ht : ∀ e ∈ t, e.Ok) :
    ∃ h, Relation.ReflTransGen (CrowdedStep M) ⟨p, l ++ crashed M m n request job :: r⟩ ⟨p, l ++ h :: r⟩ ∧
      h.message = m ∧ h.broker = t := by
  refine ⟨⟨m, n, crashTrace request job ++ t.map Event.inl, q, none⟩, reach_calls h ?_, rfl, ?_⟩
  · intro _ he
    obtain ⟨e, he', rfl⟩ := List.mem_map.mp he
    exact ⟨rfl, fun _ _ _ => ht e he'⟩
  · have hcrash : (crashTrace request job).filterMap Event.left? = [] := rfl
    rw [Handling.broker, List.filterMap_append, hcrash, Event.filterMap_left_inl, List.nil_append]

/-- Below the bound the message is given back. -/
theorem reach_nak (hn : n < M) : ∃ h, Relation.ReflTransGen (CrowdedStep M)
    ⟨p, l ++ crashed M m n request job :: r⟩ ⟨p, l ++ h :: r⟩ ∧ h.message = m ∧ h.broker = [⟨.nak 30, .ok ()⟩] := by
  have hemit : emit (crowded M) ⟨numbered m, some n⟩ request (crashedResult request) = do
      nak 30
      return .nak := if_pos hn
  refine reach_broker m request job p l r (t := [⟨.nak 30, .ok ()⟩]) (q := .ret .nak) ?_ (by simp [Event.Ok])
  unfold afterCrash
  rw [hemit]
  exact .cons .nil

/-- On the last delivery the request has failed. -/
theorem reach_dlq (hn : M ≤ n) : ∃ h, Relation.ReflTransGen (CrowdedStep M)
    ⟨p, l ++ crashed M m n request job :: r⟩ ⟨p, l ++ h :: r⟩ ∧ h.message = m ∧
      ⟨.publishResult request.replyTo (crashedResult request), .ok ()⟩ ∈ h.broker := by
  have hemit : emit (crowded M) ⟨numbered m, some n⟩ request (crashedResult request) = do
      publishResult request.replyTo (crashedResult request)
      publishDlq (numbered m) (dlqHeaders request (crashedResult request))
      ack
      return .dlq := if_neg (Nat.not_lt.mpr hn)
  have hsteps : Steps (afterCrash M ⟨numbered m, some n⟩ request)
      (List.map Event.inl [⟨.publishResult request.replyTo (crashedResult request), .ok ()⟩,
        ⟨.publishDlq (numbered m) (dlqHeaders request (crashedResult request)), .ok ()⟩, ⟨.ack, .ok ()⟩])
      (.ret .dlq) := by
    unfold afterCrash
    rw [hemit]
    exact .cons (.cons (.cons .nil))
  obtain ⟨h, hs, hm, hb⟩ := reach_broker m request job p l r hsteps (by simp [Event.Ok])
  exact ⟨h, hs, hm, by simp [hb]⟩

end

/-- Below the bound both are given back, and so it goes on. -/
theorem Lockstep.round {M d : ℕ} {s : Worker Unit} (h : Lockstep d s) (hd : d + 1 < M) :
    ∃ s', Relation.ReflTransGen (CrowdedStep M) s s' ∧ Lockstep (d + 1) s' := by
  obtain ⟨p, job₀, job₁, hp, hs⟩ := h.crash ((Nat.le_succ d).trans hd.le)
  obtain ⟨h₀, hs₀, hm₀, hb₀⟩ := reach_nak 0 makeRequest job₀ p s.handlings
    [crashed M 1 (d + 1) heavyRequest job₁] hd
  obtain ⟨h₁, hs₁, hm₁, hb₁⟩ := reach_nak 1 heavyRequest job₁ p (s.handlings ++ [h₀]) [] hd
  rw [List.append_assoc, List.singleton_append] at hs₁
  have hsplit : s.handlings ++ [h₀] ++ [h₁] = s.handlings ++ [h₀, h₁] := by simp
  refine ⟨⟨p, s.handlings ++ [h₀, h₁]⟩, hs.trans (hs₀.trans (hsplit ▸ hs₁)), hp, fun m hm => ?_, fun m hm => ?_⟩
  · rw [acked_append (p := s.pool)]
    rintro (hacked | ⟨h', hmem, -, hacked⟩)
    · exact h.pending m hm hacked
    · have hb : h'.broker = [⟨.nak 30, .ok ()⟩] := by
        simp only [List.mem_cons, List.not_mem_nil, or_false] at hmem
        rcases hmem with rfl | rfl <;> assumption
      rw [hb] at hacked
      cases List.mem_singleton.mp hacked
  · have hdelivered : (s.handlings.map Handling.message).count m = d := h.delivered m hm
    simp only [List.mem_cons, List.not_mem_nil, or_false] at hm
    rcases hm with rfl | rfl <;> simp [deliveries, hdelivered, hm₀, hm₁]

theorem lockstep_reach {M : ℕ} : ∀ d < M, ∃ s, Reach (crowded M) numbered (· = 0) 2 s ∧ Lockstep d s
  | 0, _ => ⟨start 2, .refl, rfl, fun _ _ ⟨_, h, _⟩ => (List.not_mem_nil h).elim, fun _ _ => rfl⟩
  | d + 1, hd => by
    obtain ⟨s, hs, h⟩ := lockstep_reach (M := M) d (by omega)
    obtain ⟨s', hs', h'⟩ := h.round hd
    exact ⟨s', hs.trans hs', h'⟩

/-- **Whatever the bound, a steady request can fail for the crashes of
another.** Delivered side by side with it each time, it has a failed result on
its last delivery. -/
theorem lockstep_fails {M : ℕ} (hM : 0 < M) : ∃ (s : Worker Unit) (i : ℕ) (h : Handling Unit),
    Reach (crowded M) numbered (· = 0) 2 s ∧ s.handlings[i]? = some h ∧ h.message = 0 ∧
      ⟨.publishResult makeRequest.replyTo (crashedResult makeRequest), .ok ()⟩ ∈ h.broker := by
  obtain ⟨d, rfl⟩ : ∃ d, M = d + 1 := ⟨M - 1, by omega⟩
  obtain ⟨s, hs, h⟩ := lockstep_reach d (Nat.lt_succ_self d)
  obtain ⟨p, job₀, job₁, -, hs'⟩ := h.crash (Nat.le_succ d)
  obtain ⟨h₀, hs₀, hm₀, hb₀⟩ := reach_dlq 0 makeRequest job₀ p s.handlings
    [crashed (d + 1) 1 (d + 1) heavyRequest job₁] le_rfl
  exact ⟨_, s.handlings.length, h₀, hs.trans (hs'.trans hs₀), by simp, hm₀, hb₀⟩

end Worker

end DocGen
