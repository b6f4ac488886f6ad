/-
# A worker from its subscription to its shutdown

`worker/main.py`'s `main`, from `dispatcher.subscribe` on, and the callback of
`worker/dispatcher.py` (`_make_handler`): each message spawns a task that
`inflight` tracks until its done-callback runs; at a shutdown the subscription
is drained, the tasks that are left are awaited, those that outlast the wait
are cancelled, and the pool and the connection are closed.

`main` runs beside its environment (`Env`): signals, deliveries, the reader of
the subscription, the tasks, and the done-callbacks, in any order. What is not
in the source is documented behaviour of asyncio and of nats-py: a drain
returns when every buffered message has been through the callback, and a
cancelled task makes no further call.
-/
import DocGen.Handling
import DocGen.Lib.Beside
import DocGen.Lib.Lists
import DocGen.Lib.Protocol

namespace DocGen

open Prog

/-! ### The source -/

/-- The calls of `main` once NATS is connected. `inflight` reads the set of
tasks, and `wait` answers those still pending. -/
inductive ServeOp
  | subscribe
  | createPoller
  | waitShutdown
  | cancelPoller
  | awaitPoller
  | drain
  | inflight
  | wait (tasks : List ℕ) (timeout : ℕ)
  | cancel (task : ℕ)
  | shutdownPool
  | closeNats

abbrev ServeOp.Res : ServeOp → Type
  | .inflight => List ℕ
  | .wait _ _ => List ℕ
  | _ => Unit

abbrev serveSig : Sig := ⟨ServeOp, ServeOp.Res⟩

def serveCall (op : ServeOp) : Coroutine serveSig (ServeOp.Res op) := Prog.perform (S := serveSig) op

def inflightDrainTimeoutSeconds : ℕ := 25

/-- `if inflight:` of the `finally` of `main`. -/
def drainInflight : Coroutine serveSig Unit := do
  let tasks : List ℕ ← serveCall .inflight
  if tasks = [] then pure ()
  else do
    let pending : List ℕ ← serveCall (.wait tasks inflightDrainTimeoutSeconds)
    let _ ← Prog.forEach (fun task => serveCall (.cancel task)) pending
    return ()

/-- `with contextlib.suppress(...)` around the poller, once it is cancelled. -/
def stopPoller : Coroutine serveSig Unit := do
  serveCall .cancelPoller
  suppress (serveCall .awaitPoller)

/-- The `finally` of `main`, where `poller` and `sub` say which of the two were
made. -/
def finalizer (poller sub : Bool) : Coroutine serveSig Unit := do
  (if poller then stopPoller else pure ())
  (if sub then suppress (serveCall .drain) else pure ())
  drainInflight
  suppress (serveCall .shutdownPool)
  suppress (serveCall .closeNats)

/-- The `try` of `main`, whose `finally` sees how far the body came. -/
def serve : Coroutine serveSig Unit :=
  (serveCall .subscribe).andThen fun
    | .error e => (finalizer false false).bind fun _ => .raise e
    | .ok () => (serveCall .createPoller).andThen fun
      | .error e => (finalizer false true).bind fun _ => .raise e
      | .ok () => (serveCall .waitShutdown).tryFinally (finalizer true true)

/-! ### The process -/

/-- The call acks or naks the message. -/
def MsgOp.settles (op : MsgOp) : Bool := op.isAck || op.isNak

/-- A task of `_make_handler`: the message it handles, the calls made and what
is left, whether `cancel` was called on it, whether the cancellation has ended
it, and whether its done-callback has run. -/
structure Task (P : Sig) where
  msg : Msg
  history : List (Event (msgSig.sum P) Exc)
  rest : Coroutine (msgSig.sum P) Outcome
  cancelRequested : Bool
  cancelled : Bool
  reaped : Bool

namespace Task

variable {P : Sig}

/-- The handling has come to its end. -/
def finished (t : Task P) : Bool :=
  match t.rest with
  | .call _ _ => false
  | _ => true

def done (t : Task P) : Bool := t.finished || t.cancelled

/-- The broker calls of the handling. -/
def broker (t : Task P) : MsgTrace := t.history.filterMap Event.left?

/-- The handling has tried to ack or nak its message. -/
def Tried (t : Task P) : Prop := ∃ e ∈ t.broker, e.op.settles

/-- The broker has taken an ack or a nak of the message. -/
def Settled (t : Task P) : Prop := ∃ e ∈ t.broker, e.op.settles ∧ e.Ok

end Task

inductive Subscription
  | idle
  | open
  | drained
  deriving DecidableEq

/-- What `main` and its environment share. `received` are the messages the
broker has sent, of which `buffer` have not been through the callback. -/
structure Process (P : Sig) where
  subscription : Subscription
  received : List Msg
  buffer : List Msg
  tasks : List (Task P)
  inflight : List ℕ
  shutdown : Bool
  poolOpen : Bool
  natsOpen : Bool

namespace Process

variable {P : Sig} {ρ : Type}

def start : Process P := ⟨.idle, [], [], [], [], false, true, true⟩

/-- The callback: `asyncio.create_task`, and the task is in `inflight`. -/
def spawn (deps : HandlerDeps P ρ) (msg : Msg) (s : Process P) : Process P :=
  { s with
    tasks := s.tasks ++ [⟨msg, [], handleMessage deps msg, false, false, false⟩]
    inflight := s.inflight ++ [s.tasks.length] }

/-- The task `i` has not ended. -/
def running (s : Process P) (i : ℕ) : Bool := s.tasks[i]?.elim false fun t => !t.done

/-- `task.cancel()`: no effect on a task that has ended. -/
def requestCancel (s : Process P) (i : ℕ) : Process P :=
  match s.tasks[i]? with
  | none => s
  | some t => if t.done then s else { s with tasks := s.tasks.set i { t with cancelRequested := true } }

/-- The steps of the environment, where `deps i` is what the `i`-th task is
wired with. -/
inductive Env (deps : ℕ → HandlerDeps P ρ) : Process P → Process P → Prop
  | signal {s} : Env deps s { s with shutdown := true }
  | deliver {s} (msg : Msg) (h : s.subscription = .open) :
      Env deps s { s with received := s.received ++ [msg], buffer := s.buffer ++ [msg] }
  | take {s msg rest} (h : s.buffer = msg :: rest) :
      Env deps s ({ s with buffer := rest }.spawn (deps s.tasks.length) msg)
  | call {s} (i : ℕ) {t op k} (hi : s.tasks[i]? = some t) (hrest : t.rest = .call op k)
      (hlive : t.cancelRequested = false) (x) :
      Env deps s { s with tasks := s.tasks.set i { t with history := t.history ++ [⟨op, x⟩], rest := k x } }
  | interrupt {s} (i : ℕ) {t} (hi : s.tasks[i]? = some t) (hrequested : t.cancelRequested = true) :
      Env deps s { s with tasks := s.tasks.set i { t with cancelled := true } }
  | reap {s} (i : ℕ) {t} (hi : s.tasks[i]? = some t) (hdone : t.done = true) (hreaped : t.reaped = false) :
      Env deps s { s with
        tasks := s.tasks.set i { t with reaped := true }
        inflight := s.inflight.erase i }

/-- The calls of `main`. -/
def sem : Sem serveSig Exc (Process P)
  | .subscribe, s, x, t =>
    (x = .ok () ∧ t = { s with subscription := .open }) ∨ ((∃ e, x = .error e) ∧ t = s)
  | .waitShutdown, s, x, t => (x = .ok () → s.shutdown = true) ∧ t = s
  | .drain, s, x, t =>
    (x = .ok () ∧ s.buffer = [] ∧ t = { s with subscription := .drained }) ∨ ((∃ e, x = .error e) ∧ t = s)
  | .inflight, s, x, t => x = .ok s.inflight ∧ t = s
  | .wait tasks _, s, x, t => x = .ok (tasks.filter s.running) ∧ t = s
  | .cancel i, s, x, t => x = .ok () ∧ t = s.requestCancel i
  | .shutdownPool, s, _, t => t = { s with poolOpen := false }
  | .closeNats, s, _, t => t = { s with natsOpen := false }
  | .createPoller, s, _, t => t = s
  | .cancelPoller, s, x, t => x = .ok () ∧ t = s
  | .awaitPoller, s, _, t => t = s

end Process

/-! ### A handling ends once its message is settled -/

/-- Whether a handling has tried to ack or nak, and whether the broker has
taken one. -/
structure Settlement where
  tried : Bool
  taken : Bool

/-- No call is made once an ack or a nak was taken. -/
def settleProtocol (P : Sig) : Protocol (msgSig.sum P) Exc Settlement where
  allows st _ := st.taken = false
  answers _ _ := True
  next
    | st, .inl op, x => ⟨st.tried || op.settles, st.taken || (op.settles && x.isOk)⟩
    | st, .inr _, _ => st

section

variable {P : Sig} {ρ : Type} {deps : HandlerDeps P ρ} {msg : Msg} {request : GenerationRequest}

/-- A call that settles nothing. -/
theorem follows_publish {op : MsgOp} {st : Settlement} {Q : Except Exc Unit → Settlement → Prop}
    (hop : op.settles = false) (hst : st.taken = false) (h : ∀ x, Q x st) :
    (broker op).Follows (settleProtocol P).left Q st := by
  refine follows_perform hst fun x _ => ?_
  have hnext : (settleProtocol P).left.next st op x = st := by
    simp [Protocol.left, settleProtocol, hop]
  rw [hnext]
  exact h x

/-- An ack or a nak. -/
theorem follows_settle {op : MsgOp} {st : Settlement} {Q : Except Exc Unit → Settlement → Prop}
    (hop : op.settles = true) (hst : st.taken = false) (hok : Q (.ok ()) ⟨true, true⟩)
    (herror : ∀ e, Q (.error e) ⟨true, false⟩) : (broker op).Follows (settleProtocol P).left Q st := by
  refine follows_perform hst fun x _ => ?_
  have hnext : (settleProtocol P).left.next st op x = ⟨true, x.isOk⟩ := by
    simp [Protocol.left, settleProtocol, hop, hst]
  rw [hnext]
  cases x with
  | ok _ => exact hok
  | error e => exact herror e

/-- `_handle_emit_failure` tries to ack or nak. -/
theorem handle_emit_failure_follows {st : Settlement} (hst : st.taken = false) :
    (handleEmitFailure deps msg request).Follows (settleProtocol P).left (fun _ st => st.tried = true) st := by
  have hlast : ∀ {op : MsgOp} (outcome : Outcome), op.settles = true →
      ((suppress (broker op)).bind fun _ => .ret outcome).Follows (settleProtocol P).left
        (fun _ st => st.tried = true) st :=
    fun outcome hop => follows_bind (follows_tryCatch (follows_settle hop hst rfl fun _ => rfl))
  unfold handleEmitFailure
  split
  · exact hlast .emitErrorNak rfl
  · refine follows_bind (follows_tryCatch (follows_publish rfl hst fun x => ?_))
    cases x <;> exact hlast .emitErrorDlq rfl

/-- `_emit` returns once it has tried, and raises with nothing taken. -/
theorem emit_follows (result : GenerationResult) {st : Settlement} (hst : st.taken = false) :
    (emit deps msg request result).Follows (settleProtocol P).left
      (fun x st => match x with | .ok _ => st.tried = true | .error _ => st.taken = false) st := by
  have hlast : ∀ {op : MsgOp} (outcome : Outcome), op.settles = true →
      ((broker op).bind fun _ => .ret outcome).Follows (settleProtocol P).left
        (fun x st => match x with | .ok _ => st.tried = true | .error _ => st.taken = false) st :=
    fun outcome hop => follows_bind (follows_settle hop hst rfl fun _ => rfl)
  unfold emit
  split
  · refine follows_bind (follows_publish rfl hst fun x => ?_)
    cases x with
    | ok _ => exact hlast _ rfl
    | error _ => exact hst
  · split
    · exact hlast .nak rfl
    · refine follows_bind (follows_publish rfl hst fun x => ?_)
      cases x with
      | error _ => exact hst
      | ok _ =>
        refine follows_bind (follows_publish rfl hst fun x => ?_)
        cases x with
        | error _ => exact hst
        | ok _ => exact hlast .dlq rfl

/-- The pipeline settles nothing. -/
theorem pipeline_follows {α : Type} {Q : Except Exc α → Settlement → Prop} {st : Settlement}
    (hst : st.taken = false) : ∀ {p : Coroutine P α}, (∀ x, Q x st) → p.Follows (settleProtocol P).right Q st
  | .ret _, h => h _
  | .raise _, h => h _
  | .call _ _, h => ⟨hst, fun _ _ => pipeline_follows hst h⟩

/-- A handling tries to ack or nak before it ends, and makes no call once one
was taken. -/
theorem handle_message_follows : (handleMessage deps msg).Follows (settleProtocol P)
    (fun _ st => st.tried = true) ⟨false, false⟩ := by
  unfold handleMessage
  split
  · refine follows_inl (follows_bind (follows_tryCatch (follows_publish rfl rfl fun x => ?_)))
    cases x <;> exact follows_bind (follows_settle rfl rfl rfl fun _ => rfl)
  · rename_i request _
    refine follows_tryCatch (follows_bind (follows_inr (pipeline_follows rfl fun x => ?_)))
    cases x with
    | error _ => exact follows_inl (handle_emit_failure_follows rfl)
    | ok result =>
      refine follows_inl ((emit_follows result rfl).mono fun x st hx => ?_)
      cases x with
      | ok _ => exact hx
      | error _ => exact follows_inl (handle_emit_failure_follows hx)

/-- The settlement is what the broker's calls say. -/
theorem settlement_after (tr : List (Event (msgSig.sum P) Exc)) :
    let st := (settleProtocol P).after ⟨false, false⟩ tr
    (st.tried = true ↔ ∃ e ∈ tr.filterMap Event.left?, e.op.settles) ∧
      (st.taken = true ↔ ∃ e ∈ tr.filterMap Event.left?, e.op.settles ∧ e.Ok) := by
  induction tr using List.reverseRecOn with
  | nil => simp
  | append_singleton tr e ih =>
    obtain ⟨ih₁, ih₂⟩ := ih
    obtain ⟨op, x⟩ := e
    rw [Protocol.after_snoc, List.filterMap_append]
    generalize (settleProtocol P).after ⟨false, false⟩ tr = st at ih₁ ih₂
    rcases op with op | op
    · have hok : (⟨op, x⟩ : Event msgSig Exc).Ok ↔ x.isOk = true := by
        cases x with
        | ok _ => exact iff_of_true Event.ok_mk rfl
        | error _ => exact iff_of_false Event.not_ok_mk Bool.false_ne_true
      simp [settleProtocol, Event.left?, ih₁, ih₂, hok, or_and_right, exists_or]
    · simp [settleProtocol, Event.left?, ih₁, ih₂]

end

/-! ### The invariant of the process -/

section

variable {P : Sig} {ρ : Type}

theorem Task.finished_iff {t : Task P} : t.finished = true ↔ ∃ r, t.rest = ofExcept r := by
  obtain ⟨msg, history, rest, cancelRequested, cancelled, reaped⟩ := t
  cases rest with
  | ret a => exact iff_of_true rfl ⟨.ok a, rfl⟩
  | raise e => exact iff_of_true rfl ⟨.error e, rfl⟩
  | call op k =>
    refine iff_of_false Bool.false_ne_true ?_
    rintro ⟨r, hr⟩
    cases r <;> cases hr

/-- What holds of a task: its calls are an initial part of a run of the handler
that is not past its settlement, and only a task that had not ended is
cancelled. -/
structure Task.Traced (deps : HandlerDeps P ρ) (t : Task P) : Prop where
  steps : Steps (handleMessage deps t.msg) t.history t.rest
  follows : t.rest.Follows (settleProtocol P) (fun _ st => st.tried = true)
    ((settleProtocol P).after ⟨false, false⟩ t.history)
  reaped : t.reaped = true → t.done = true
  cancelled : t.cancelled = true → t.cancelRequested = true
  live : t.cancelRequested = true → t.finished = false

/-- A handling at its end has tried to ack or nak. -/
theorem Task.Traced.tried {deps : HandlerDeps P ρ} {t : Task P} (h : t.Traced deps) (hf : t.finished = true) :
    t.Tried := by
  obtain ⟨r, hr⟩ := Task.finished_iff.mp hf
  have hfollows := h.follows
  rw [hr] at hfollows
  refine (settlement_after t.history).1.mp ?_
  cases r <;> exact hfollows

/-- A handling that has not ended is not settled. -/
theorem Task.Traced.not_settled {deps : HandlerDeps P ρ} {t : Task P} (h : t.Traced deps)
    (hf : t.finished = false) : ¬ t.Settled := by
  intro hs
  have htaken := (settlement_after t.history).2.mpr hs
  have hfollows := h.follows
  obtain ⟨msg, history, rest, cancelRequested, cancelled, reaped⟩ := t
  cases rest with
  | ret _ => cases hf
  | raise _ => cases hf
  | call op k => exact Bool.false_ne_true (hfollows.1.symm.trans htaken)

namespace Process

/-- The invariant of the process: the messages received have been through the
callback in their order, or are in the buffer; and `inflight` holds the tasks
whose done-callback has not run. -/
structure Ok (deps : ℕ → HandlerDeps P ρ) (s : Process P) : Prop where
  fifo : s.tasks.map Task.msg ++ s.buffer = s.received
  quiet : s.subscription ≠ .open → s.buffer = []
  nodup : s.inflight.Nodup
  inflight : ∀ i, i ∈ s.inflight ↔ ∃ t : Task P, s.tasks[i]? = some t ∧ t.reaped = false
  traced : ∀ (i : ℕ) (t : Task P), s.tasks[i]? = some t → t.Traced (deps i)

/-- Every task has ended, was cancelled, or is in the list. -/
def Accounted (l : List ℕ) (s : Process P) : Prop :=
  s.subscription ≠ .open → ∀ (i : ℕ) (t : Task P), s.tasks[i]? = some t → t.done = false →
    t.cancelRequested = true ∨ i ∈ l

variable {deps : ℕ → HandlerDeps P ρ} {s t : Process P}

theorem ok_start : Ok deps (start : Process P) where
  fifo := rfl
  quiet _ := rfl
  nodup := List.nodup_nil
  inflight i := by simp [start]
  traced i t hi := by simp [start] at hi

/-- A change of one task. -/
theorem Ok.set (h : Ok deps s) {i : ℕ} {t t' : Task P} (hi : s.tasks[i]? = some t) (hmsg : t'.msg = t.msg)
    (hreaped : t'.reaped = t.reaped) (ht : t'.Traced (deps i)) :
    Ok deps { s with tasks := s.tasks.set i t' } where
  fifo := by
    show (s.tasks.set i t').map Task.msg ++ s.buffer = s.received
    rw [map_set_of_eq Task.msg hi hmsg]
    exact h.fifo
  quiet := h.quiet
  nodup := h.nodup
  inflight j := by
    rw [h.inflight j]
    show _ ↔ ∃ u, (s.tasks.set i t')[j]? = some u ∧ u.reaped = false
    by_cases hij : i = j
    · subst hij
      rw [List.getElem?_set_self (List.getElem?_eq_some_iff.mp hi).1, hi]
      simp [hreaped]
    · rw [List.getElem?_set_ne hij]
  traced j u hj := by
    rcases getElem?_set_cases hj with ⟨rfl, rfl⟩ | ⟨-, hj⟩
    · exact ht
    · exact h.traced j u hj

/-- Each step of the environment keeps the invariant. -/
theorem ok_env (h : Ok deps s) (hs : Env deps s t) : Ok deps t := by
  cases hs with
  | signal => exact ⟨h.fifo, h.quiet, h.nodup, h.inflight, h.traced⟩
  | deliver msg hopen =>
    refine ⟨?_, fun hne => absurd hopen hne, h.nodup, h.inflight, h.traced⟩
    show s.tasks.map Task.msg ++ (s.buffer ++ [msg]) = s.received ++ [msg]
    rw [← List.append_assoc, h.fifo]
  | @take msg rest hbuffer =>
    have hfresh : s.tasks.length ∉ s.inflight := by
      intro hmem
      obtain ⟨t, ht, -⟩ := (h.inflight _).mp hmem
      exact absurd (List.getElem?_eq_some_iff.mp ht).1 (Nat.lt_irrefl _)
    refine ⟨?_, fun hne => ?_, ?_, fun i => ?_, fun i u hi => ?_⟩
    · show (s.tasks ++ [_]).map Task.msg ++ rest = s.received
      rw [← h.fifo, hbuffer]
      simp
    · rw [h.quiet hne] at hbuffer
      cases hbuffer
    · exact List.nodup_append.mpr ⟨h.nodup, List.nodup_singleton _, fun i hi j hj he =>
        hfresh (List.mem_singleton.mp hj ▸ he ▸ hi)⟩
    · show i ∈ s.inflight ++ [s.tasks.length] ↔ ∃ u, (s.tasks ++ [_])[i]? = some u ∧ u.reaped = false
      rw [List.mem_append, h.inflight i, List.mem_singleton]
      constructor
      · rintro (⟨u, hu, hr⟩ | rfl)
        · exact ⟨u, by rw [List.getElem?_append_left (List.getElem?_eq_some_iff.mp hu).1]; exact hu, hr⟩
        · exact ⟨_, List.getElem?_concat_length .., rfl⟩
      · rintro ⟨u, hu, hr⟩
        rcases getElem?_concat_some hu with hu | ⟨rfl, -⟩
        · exact Or.inl ⟨u, hu, hr⟩
        · exact Or.inr rfl
    · rcases getElem?_concat_some hi with hi | ⟨rfl, rfl⟩
      · exact h.traced i u hi
      · exact ⟨.nil, handle_message_follows, nofun, nofun, nofun⟩
  | @call i u op k hi hrest hlive x =>
    have hu := h.traced i u hi
    have hsteps := hu.steps
    have hfollows := hu.follows
    rw [hrest] at hsteps hfollows
    have hnot : u.cancelled = false := by
      rcases hc : u.cancelled with _ | _
      · rfl
      · exact absurd ((hu.cancelled hc).symm.trans hlive) Bool.noConfusion
    have hdone : u.done = false := by
      simp [Task.done, Task.finished, hrest, hnot]
    refine h.set hi rfl rfl ⟨hsteps.snoc x, ?_, fun hr => ?_, fun hc => ?_, fun hr => ?_⟩
    · rw [Protocol.after_snoc]
      exact follows_call hfollows trivial
    · exact absurd ((hu.reaped hr).symm.trans hdone) Bool.noConfusion
    · exact hu.cancelled hc
    · exact absurd (hr.symm.trans hlive) Bool.noConfusion
  | @interrupt i u hi hrequested =>
    have hu := h.traced i u hi
    exact h.set hi rfl rfl ⟨hu.steps, hu.follows, fun _ => Bool.or_true _, fun _ => hrequested, hu.live⟩
  | @reap i u hi hdone hreaped =>
    have hu := h.traced i u hi
    refine ⟨?_, h.quiet, h.nodup.erase i, fun j => ?_, fun j v hj => ?_⟩
    · have hmap : (s.tasks.set i { u with reaped := true }).map Task.msg = s.tasks.map Task.msg :=
        map_set_of_eq Task.msg hi rfl
      show (s.tasks.set i _).map Task.msg ++ s.buffer = s.received
      rw [hmap]
      exact h.fifo
    · show j ∈ s.inflight.erase i ↔ ∃ v, (s.tasks.set i _)[j]? = some v ∧ v.reaped = false
      rw [h.nodup.mem_erase_iff, h.inflight j]
      constructor
      · rintro ⟨hne, v, hv, hr⟩
        exact ⟨v, by rw [List.getElem?_set_ne (Ne.symm hne)]; exact hv, hr⟩
      · rintro ⟨v, hv, hr⟩
        rcases getElem?_set_cases hv with ⟨-, rfl⟩ | ⟨hne, hv⟩
        · cases hr
        · exact ⟨hne, v, hv, hr⟩
    · rcases getElem?_set_cases hj with ⟨rfl, rfl⟩ | ⟨-, hj⟩
      · exact ⟨hu.steps, hu.follows, fun _ => hdone, hu.cancelled, hu.live⟩
      · exact h.traced j v hj

/-- Once the subscription is drained no task is added, and one that ends stays
ended. -/
theorem accounted_env {l : List ℕ} (hok : Ok deps s) (h : Accounted l s) (hs : Env deps s t) :
    Accounted l t := by
  intro hne i v hi hv
  cases hs with
  | signal => exact h hne i v hi hv
  | deliver msg hopen => exact absurd hopen hne
  | take hbuffer =>
    rw [hok.quiet hne] at hbuffer
    cases hbuffer
  | @call j u op k hj hrest hlive x =>
    rcases getElem?_set_cases hi with ⟨rfl, rfl⟩ | ⟨-, hi⟩
    · refine h hne i u hj ?_
      have hnot : u.cancelled = false := (Bool.or_eq_false_iff.mp hv).2
      simp [Task.done, Task.finished, hrest, hnot]
    · exact h hne i v hi hv
  | @interrupt j u hj hrequested =>
    rcases getElem?_set_cases hi with ⟨rfl, rfl⟩ | ⟨-, hi⟩
    · exact Or.inl hrequested
    · exact h hne i v hi hv
  | @reap j u hj hdone hreaped =>
    rcases getElem?_set_cases hi with ⟨rfl, rfl⟩ | ⟨-, hi⟩
    · exact absurd (hdone.symm.trans hv) Bool.noConfusion
    · exact h hne i v hi hv

/-! ### `main` beside its environment -/

/-- Neither the pool nor the connection is closed. -/
def Up (s : Process P) : Prop := s.poolOpen = true ∧ s.natsOpen = true

/-- `main` runs beside the environment, and closes nothing before every task is
accounted for. -/
def beside (deps : ℕ → HandlerDeps P ρ) : Beside serveSig Exc (Process P) where
  sem := sem
  env := Env deps
  Inv s := Ok deps s ∧ (¬ s.Up → Accounted [] s)

/-- What `main` relies on while it serves. -/
def Serving (deps : ℕ → HandlerDeps P ρ) (s : Process P) : Prop := Ok deps s ∧ s.Up

/-- What it relies on while the tasks of the list are left. -/
def Waiting (deps : ℕ → HandlerDeps P ρ) (l : List ℕ) (s : Process P) : Prop := Serving deps s ∧ Accounted l s

/-- What it relies on while it closes the pool and the connection. -/
def Closing (deps : ℕ → HandlerDeps P ρ) (s : Process P) : Prop := Ok deps s ∧ Accounted [] s

theorem serving_stable : (beside deps).Stable (Serving deps) := by
  rintro s t ⟨hok, hup⟩ hs
  refine ⟨ok_env hok hs, ?_⟩
  cases hs <;> exact hup

theorem waiting_stable (l : List ℕ) : (beside deps).Stable (Waiting deps l) :=
  fun s t ⟨hs, hl⟩ henv => ⟨serving_stable s t hs henv, accounted_env hs.1 hl henv⟩

theorem closing_stable : (beside deps).Stable (Closing deps) :=
  fun _ _ ⟨hok, hl⟩ henv => ⟨ok_env hok henv, accounted_env hok hl henv⟩

theorem Serving.inv (h : Serving deps s) : (beside deps).Inv s := ⟨h.1, fun hdown => absurd h.2 hdown⟩

theorem Closing.inv (h : Closing deps s) : (beside deps).Inv s := ⟨h.1, fun _ => h.2⟩

/-- A cancellation, of a task that has not ended. -/
theorem ok_requestCancel (h : Ok deps s) (i : ℕ) : Ok deps (s.requestCancel i) := by
  unfold requestCancel
  split
  · exact h
  · rename_i u hi
    split
    · exact h
    · rename_i hdone
      have hu := h.traced i u hi
      have hleft : u.done = false := by simpa using hdone
      have hfinished : u.finished = false := (Bool.or_eq_false_iff.mp hleft).1
      exact h.set hi rfl rfl ⟨hu.steps, hu.follows, hu.reaped, fun _ => rfl, fun _ => hfinished⟩

theorem up_requestCancel (h : s.Up) (i : ℕ) : (s.requestCancel i).Up := by
  unfold requestCancel
  split
  · exact h
  · split <;> exact h

/-- A cancelled task is accounted for. -/
theorem accounted_requestCancel {i : ℕ} {l : List ℕ} (h : Accounted (i :: l) s) :
    Accounted l (s.requestCancel i) := by
  intro hne j v hj hv
  unfold requestCancel at hne hj
  have hleft : ∀ {u : Task P}, s.tasks[j]? = some u → u.done = false → s.subscription ≠ .open → j ≠ i →
      u.cancelRequested = true ∨ j ∈ l := by
    intro u hu hd ho hji
    rcases h ho j u hu hd with hc | hmem
    · exact Or.inl hc
    · exact Or.inr ((List.mem_cons.mp hmem).resolve_left hji)
  split at hj
  · rename_i hi
    refine hleft hj hv (by simpa [hi] using hne) fun hji => ?_
    rw [hji, hi] at hj
    cases hj
  · rename_i u hi
    split at hj
    · rename_i hdone
      refine hleft hj hv (by simpa [hi, hdone] using hne) fun hji => ?_
      rw [hji, hi] at hj
      cases hj
      exact absurd (hdone.symm.trans hv) Bool.noConfusion
    · rename_i hdone
      rcases getElem?_set_cases hj with ⟨-, rfl⟩ | ⟨hji, hj⟩
      · exact Or.inl rfl
      · exact hleft hj hv (by simpa [hi, hdone] using hne) hji

/-- The wait answers the tasks that are left. -/
theorem accounted_wait {l : List ℕ} (h : Accounted l s) : Accounted (l.filter s.running) s := by
  intro hne i u hi hu
  rcases h hne i u hi hu with hc | hmem
  · exact Or.inl hc
  · refine Or.inr (List.mem_filter.mpr ⟨hmem, ?_⟩)
    simp [running, hi, hu]

/-- A task that has not ended is in `inflight`. -/
theorem accounted_inflight (h : Ok deps s) : Accounted s.inflight s := by
  intro _ i u hi hu
  refine Or.inr ((h.inflight i).mpr ⟨u, hi, ?_⟩)
  rcases hr : u.reaped with _ | _
  · rfl
  · exact absurd (((h.traced i u hi).reaped hr).symm.trans hu) Bool.noConfusion

/-- A call of `main` while it serves. -/
theorem serving_call {op : ServeOp} {Q : Except Exc (ServeOp.Res op) → Process P → Prop} (h : Serving deps s)
    (hop : ∀ (s : Process P) x t, Serving deps s → sem op s x t → Q x t) :
    (serveCall op).Safe (beside deps) Q s :=
  safe_perform _ h serving_stable (fun _ => Serving.inv) fun s x t hs hx => hop s x t hs hx

/-- A call of `main` while it closes. -/
theorem closing_call {op : ServeOp} {Q : Except Exc (ServeOp.Res op) → Process P → Prop} (h : Closing deps s)
    (hop : ∀ (s : Process P) x t, Closing deps s → sem op s x t → Q x t) :
    (serveCall op).Safe (beside deps) Q s :=
  safe_perform _ h closing_stable (fun _ => Closing.inv) fun s x t hs hx => hop s x t hs hx

/-- The tasks that are left are awaited, and those that outlast it cancelled. -/
theorem drainInflight_safe (h : Serving deps s) :
    drainInflight.Safe (beside deps) (returns (Waiting deps [])) s := by
  refine safe_bind (serving_call h ?_)
  rintro s x t hs ⟨rfl, rfl⟩
  have hw : Waiting deps t.inflight t := ⟨hs, accounted_inflight hs.1⟩
  show (ite _ _ _ : Coroutine serveSig Unit).Safe (beside deps) _ t
  split
  · rename_i hnil
    rw [hnil] at hw
    exact hw
  · refine safe_bind (safe_perform (Waiting deps t.inflight) hw (waiting_stable _) (fun _ h => h.1.inv) ?_)
    rintro s x u ⟨hs, hl⟩ ⟨rfl, rfl⟩
    refine safe_then (safe_forEach (Waiting deps) ?_ ⟨hs, accounted_wait hl⟩) fun _ _ h => h
    intro i l s hw
    refine safe_perform _ hw (waiting_stable _) (fun _ h => h.1.inv) ?_
    rintro s x t ⟨⟨hok, hup⟩, hl⟩ ⟨rfl, rfl⟩
    exact ⟨⟨ok_requestCancel hok i, up_requestCancel hup i⟩, accounted_requestCancel hl⟩

theorem stopPoller_safe (h : Serving deps s) : stopPoller.Safe (beside deps) (returns (Serving deps)) s := by
  refine safe_then (serving_call h ?_) fun _ t ht => safe_suppress (serving_call ht ?_)
  · rintro s x t hs ⟨rfl, rfl⟩
    exact hs
  · rintro s x t hs rfl
    exact hs

theorem drain_safe (h : Serving deps s) :
    (suppress (serveCall .drain)).Safe (beside deps) (returns (Serving deps)) s := by
  refine safe_suppress (serving_call h ?_)
  rintro s x t ⟨hok, hup⟩ (⟨-, hbuffer, rfl⟩ | ⟨-, rfl⟩)
  · exact ⟨⟨hok.fifo, fun _ => hbuffer, hok.nodup, hok.inflight, hok.traced⟩, hup⟩
  · exact ⟨hok, hup⟩

theorem shutdownPool_safe (h : Closing deps s) :
    (suppress (serveCall .shutdownPool)).Safe (beside deps) (returns (Closing deps)) s := by
  refine safe_suppress (closing_call h ?_)
  rintro s x t ⟨hok, hl⟩ rfl
  exact ⟨⟨hok.fifo, hok.quiet, hok.nodup, hok.inflight, hok.traced⟩, hl⟩

theorem closeNats_safe (h : Closing deps s) :
    (suppress (serveCall .closeNats)).Safe (beside deps) (returns (Closing deps)) s := by
  refine safe_suppress (closing_call h ?_)
  rintro s x t ⟨hok, hl⟩ rfl
  exact ⟨⟨hok.fifo, hok.quiet, hok.nodup, hok.inflight, hok.traced⟩, hl⟩

theorem finalizer_safe (poller sub : Bool) (h : Serving deps s) :
    (finalizer poller sub).Safe (beside deps) (returns (Closing deps)) s := by
  have hpoller : (if poller then stopPoller else .ret ()).Safe (beside deps) (returns (Serving deps)) s := by
    split
    · exact stopPoller_safe h
    · exact h
  have hsub : ∀ {t : Process P}, Serving deps t → (if sub then suppress (serveCall .drain) else .ret ()).Safe
      (beside deps) (returns (Serving deps)) t := by
    intro t ht
    split
    · exact drain_safe ht
    · exact ht
  refine safe_then hpoller fun _ t ht => safe_then (hsub ht) fun _ u hu => ?_
  refine safe_then (drainInflight_safe hu) fun _ v hv => ?_
  exact safe_then (shutdownPool_safe ⟨hv.1.1, hv.2⟩) fun _ w hw => closeNats_safe hw

/-- `main` is safe beside its environment, and ends with every task accounted
for. -/
theorem serve_safe : serve.Safe (beside deps) (fun _ => Closing deps) (start : Process P) := by
  have hstart : Serving deps (start : Process P) := ⟨ok_start, rfl, rfl⟩
  have hraise : ∀ {t : Process P} (poller sub : Bool) (r : Except Exc Unit), Serving deps t →
      ((finalizer poller sub).bind fun _ => ofExcept r).Safe (beside deps) (fun _ => Closing deps) t :=
    fun poller sub r ht => safe_then (finalizer_safe poller sub ht) fun _ _ hu => safe_ofExcept hu
  refine safe_andThen (serving_call hstart ?_)
  rintro s x t ⟨hok, hup⟩ (⟨rfl, rfl⟩ | ⟨⟨e, rfl⟩, rfl⟩)
  · have hopen : Serving deps { s with subscription := .open } :=
      ⟨⟨hok.fifo, fun hne => absurd rfl hne, hok.nodup, hok.inflight, hok.traced⟩, hup⟩
    refine safe_andThen (serving_call hopen ?_)
    rintro s x t hs rfl
    cases x with
    | error e => exact hraise false true (.error e) hs
    | ok _ =>
      refine safe_tryFinally (serving_call hs ?_)
      rintro s x t hs ⟨-, rfl⟩
      exact hraise true true x hs
  · exact hraise false false (.error e) ⟨hok, hup⟩

/-- **A shutdown leaves no message behind.** In every state that any
interleaving of `main` and its environment reaches, each message received is in
the buffer or has a task, and `inflight` holds the tasks whose done-callback
has not run. And unless the drain of the subscription raised: where the pool or
the connection is closed, or `main` has ended, each message received has a task,
which has either come to its end, having tried to ack or nak, or was cancelled
with neither taken by the broker, which delivers the message again. -/
theorem shutdown_accounts {q : Coroutine serveSig Unit} (h : (beside deps).Reach serve start q s) :
    (s.tasks.map Task.msg ++ s.buffer = s.received ∧
      ∀ i, i ∈ s.inflight ↔ ∃ t, s.tasks[i]? = some t ∧ t.reaped = false) ∧
    ((s.poolOpen = false ∨ s.natsOpen = false ∨ ∃ r, q = ofExcept r) → s.subscription ≠ .open →
      s.tasks.map Task.msg = s.received ∧ ∀ t ∈ s.tasks,
        (t.finished = true ∧ t.Tried) ∨ (t.cancelRequested = true ∧ ¬ t.Settled)) := by
  have hq : q.Safe (beside deps) (fun _ => Closing deps) s :=
    safe_reach (fun _ => closing_stable) serve_safe h
  obtain ⟨hok, hdown⟩ := hq.inv fun _ _ => Closing.inv
  refine ⟨⟨hok.fifo, hok.inflight⟩, fun hclosed hne => ?_⟩
  have hl : Accounted [] s := by
    rcases hclosed with hpool | hnats | ⟨r, rfl⟩
    · exact hdown fun hup => Bool.noConfusion (hup.1.symm.trans hpool)
    · exact hdown fun hup => Bool.noConfusion (hup.2.symm.trans hnats)
    · cases r <;> exact hq.2
  refine ⟨?_, fun t ht => ?_⟩
  · have hfifo := hok.fifo
    rwa [hok.quiet hne, List.append_nil] at hfifo
  · obtain ⟨i, hi⟩ := List.mem_iff_getElem?.mp ht
    have htr := hok.traced i t hi
    have hcancelled : t.cancelRequested = true → t.cancelRequested = true ∧ ¬ t.Settled :=
      fun hc => ⟨hc, htr.not_settled (htr.live hc)⟩
    rcases hd : t.done with _ | _
    · rcases hl hne i t hi hd with hc | hmem
      · exact Or.inr (hcancelled hc)
      · cases hmem
    · rcases Bool.or_eq_true_iff.mp hd with hf | hc
      · exact Or.inl ⟨hf, htr.tried hf⟩
      · exact Or.inr (hcancelled (htr.cancelled hc))

/-- A message whose handling outlasts the shutdown. -/
def slow (cancelRequested : Bool) : Task (portSig Unit) :=
  ⟨⟨[123], some 1⟩, [], handleMessage (callsDeps 4) ⟨[123], some 1⟩, cancelRequested, false, false⟩

def closed : Process (portSig Unit) := ⟨.drained, [(slow true).msg], [], [slow true], [0], true, false, false⟩

/-- The message comes before the signal, and its task makes no call. -/
theorem closed_reach : (beside fun _ => callsDeps 4).Reach serve start (.ret ()) closed := by
  have hstart : (beside fun _ => callsDeps 4).Reach serve start serve start := .refl
  have hserving := (hstart.call (.ok ()) (Or.inl (And.intro rfl rfl))).call (.ok ()) rfl
  have htask := (hserving.env (.deliver (slow true).msg rfl)).env (.take rfl)
  have hsignal := (htask.env .signal).call (.ok ()) (And.intro (fun _ => rfl) rfl)
  have hpoller := (hsignal.call (.ok ()) (And.intro rfl rfl)).call (.ok ()) rfl
  have hdrained := hpoller.call (.ok ()) (Or.inl (And.intro rfl (And.intro rfl rfl)))
  have hwait := (hdrained.call (.ok [0]) (And.intro rfl rfl)).call (.ok [0]) (And.intro rfl rfl)
  have hcancel := hwait.call (.ok ()) (And.intro rfl rfl)
  exact (hcancel.call (.ok ()) rfl).call (.ok ()) rfl

theorem shutdown_accounts_closed : closed.tasks.map Task.msg = [⟨[123], some 1⟩] ∧
    ∀ t ∈ closed.tasks, (t.finished = true ∧ t.Tried) ∨ (t.cancelRequested = true ∧ ¬ t.Settled) :=
  (@shutdown_accounts _ _ _ closed (.ret ()) closed_reach).2 (Or.inl rfl) (by decide)

end Process

end

end DocGen
