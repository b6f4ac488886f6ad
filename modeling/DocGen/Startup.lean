/-
# A worker's connection to NATS

`core/queue/init.py`, and `worker/main.py` from its first line on: connect,
declare the three streams, and try again after a pause where one of these
raised, ten times at most; then serve; and drain the connection at the end.
The module's globals hold the connection made last. An attempt whose
declarations fail leaves its connection open, and the next one replaces it.

What runs between (`serve` of `Lifecycle.lean`) has calls of its own, on a
state of its own. Log lines and the callbacks of the connection, which only
log, are left out. The broker numbers the connections as they are made.
-/
import DocGen.Lib.Retry
import DocGen.Lib.Str
import DocGen.Lifecycle
import DocGen.PdfForm

namespace DocGen

open Prog

/-! ### The source -/

/-- The settings that name the servers, the streams and their subjects. -/
structure QueueSettings where
  natsUrl : String
  requestStream : String
  requestSubject : String
  resultsStream : String
  resultsSubjectFilter : String
  dlqStream : String
  dlqSubject : String

inductive Retention
  | workQueue
  | limits
  deriving DecidableEq

inductive StorageType
  | file
  deriving DecidableEq

/-- The arguments of `add_stream`. -/
structure StreamConfig where
  name : String
  subjects : List String
  retention : Retention
  storage : StorageType
  deriving DecidableEq

/-- `_desired_streams`. -/
def desiredStreams (settings : QueueSettings) : List StreamConfig :=
  [⟨settings.requestStream, [settings.requestSubject], .workQueue, .file⟩,
    ⟨settings.resultsStream, [settings.resultsSubjectFilter], .limits, .file⟩,
    ⟨settings.dlqStream, [settings.dlqSubject], .limits, .file⟩]

/-- `s.strip()`. -/
def stripSpace (s : String) : String := String.ofList ((s.toList.dropWhile isSpace).rdropWhile isSpace)

/-- The servers of `NATS_URL`. -/
def serverList (url : String) : List String := ((split ',' url).map stripSpace).filter (· ≠ "")

/-- The arguments of `nats.connect`, without its callbacks. -/
structure ConnectOptions where
  servers : Option (List String)
  reconnectTimeWait : ℕ
  maxReconnectAttempts : ℤ
  connectTimeout : ℕ

def connectOptions (settings : QueueSettings) : ConnectOptions where
  servers := if serverList settings.natsUrl = [] then none else some (serverList settings.natsUrl)
  reconnectTimeWait := 2
  maxReconnectAttempts := -1
  connectTimeout := 5

/-- The calls on the client library, `asyncio.sleep`, and the reads and writes
of `_nats_client` and `_jetstream`. -/
inductive NatsOp
  | connect (options : ConnectOptions)
  | jetstream (client : ℕ)
  | addStream (context : ℕ) (stream : StreamConfig)
  | drain (client : ℕ)
  | sleep (seconds : ℕ)
  | getClient
  | setClient (client : Option ℕ)
  | getContext
  | setContext (context : Option ℕ)

abbrev NatsOp.Res : NatsOp → Type
  | .connect _ | .jetstream _ => ℕ
  | .getClient | .getContext => Option ℕ
  | _ => Unit

abbrev natsSig : Sig := ⟨NatsOp, NatsOp.Res⟩

def natsCall (op : NatsOp) : Coroutine natsSig (NatsOp.Res op) := Prog.perform (S := natsSig) op

/-- `init_nats`. -/
def initNats (settings : QueueSettings) : Coroutine natsSig Unit := do
  let client : ℕ ← natsCall (.connect (connectOptions settings))
  natsCall (.setClient (some client))
  let context : ℕ ← natsCall (.jetstream client)
  natsCall (.setContext (some context))
  let _ ← Prog.forEach (fun stream => natsCall (.addStream context stream)) (desiredStreams settings)
  return ()

/-- `close_nats`. -/
def closeNats : Coroutine natsSig Unit := do
  let client : Option ℕ ← natsCall .getClient
  match client with
  | none => return ()
  | some client => do
    natsCall (.drain client)
    natsCall (.setClient none)
    natsCall (.setContext none)

/-- `get_jetstream`. -/
def getJetstream : Coroutine natsSig ℕ := do
  let context : Option ℕ ← natsCall .getContext
  match context with
  | none => .raise (.runtimeError "NATS JetStream not initialized")
  | some context => return context

def natsConnectMaxAttempts : ℕ := 10
def natsConnectBaseDelaySeconds : ℕ := 2
def natsConnectMaxDelaySeconds : ℕ := 30

/-- The pause after a failed attempt. -/
def connectDelay (attempt : ℕ) : ℕ :=
  min (natsConnectBaseDelaySeconds * Nat.pow 2 (attempt - 1)) natsConnectMaxDelaySeconds

/-- `_connect_nats_with_retry`. -/
def connectNatsWithRetry (settings : QueueSettings) : Coroutine natsSig Unit :=
  Prog.retry (initNats settings) (fun attempt => natsCall (.sleep (connectDelay attempt)))
    (natsConnectMaxAttempts - 1) 1

/-- What `main` does between: the pool, the semaphore and the wiring, made with
the JetStream context; and the calls of `serve`. -/
inductive StageOp
  | setUp (context : ℕ)
  | serve (op : ServeOp)

abbrev StageOp.Res : StageOp → Type
  | .setUp _ => Unit
  | .serve op => op.Res

abbrev stageSig : Sig := ⟨StageOp, StageOp.Res⟩

/-- The calls of `serve`, of which one is `close_nats`. -/
def serveImpl : ∀ op : ServeOp, Coroutine (natsSig.sum stageSig) op.Res
  | .closeNats => closeNats.inl
  | op => (Prog.perform (S := stageSig) (StageOp.serve op)).inr

/-- `main`, once the context is there. -/
def runWorker (context : ℕ) : Coroutine (natsSig.sum stageSig) Unit := do
  (Prog.perform (S := stageSig) (StageOp.setUp context)).inr
  serve.interp serveImpl

/-- `main`. -/
def workerMain (settings : QueueSettings) : Coroutine (natsSig.sum stageSig) Unit := do
  (connectNatsWithRetry settings).inl
  let context ← getJetstream.inl
  runWorker context

/-! ### The connection -/

/-- The globals, and what has come of the calls: the attempts to connect, the
connections made, the pauses, the connections drained, and the streams declared
on each. A context is numbered by its connection. -/
structure NatsState where
  client : Option ℕ
  context : Option ℕ
  attempts : ℕ
  opened : ℕ
  slept : List ℕ
  drained : List ℕ
  declared : List (ℕ × StreamConfig)

namespace NatsState

def start : NatsState := ⟨none, none, 0, 0, [], [], []⟩

def sem : Sem natsSig Exc NatsState
  | .connect _, s, x, t =>
    (x = .ok s.opened ∧ t = { s with attempts := s.attempts + 1, opened := s.opened + 1 }) ∨
      ((∃ e, x = .error e) ∧ t = { s with attempts := s.attempts + 1 })
  | .jetstream client, s, x, t => x = .ok client ∧ t = s
  | .addStream context stream, s, x, t =>
    (x = .ok () ∧ t = { s with declared := s.declared ++ [(context, stream)] }) ∨ ((∃ e, x = .error e) ∧ t = s)
  | .drain client, s, x, t =>
    (x = .ok () ∧ t = { s with drained := s.drained ++ [client] }) ∨ ((∃ e, x = .error e) ∧ t = s)
  | .sleep seconds, s, x, t => x = .ok () ∧ t = { s with slept := s.slept ++ [seconds] }
  | .getClient, s, x, t => x = .ok s.client ∧ t = s
  | .setClient client, s, x, t => x = .ok () ∧ t = { s with client := client }
  | .getContext, s, x, t => x = .ok s.context ∧ t = s
  | .setContext context, s, x, t => x = .ok () ∧ t = { s with context := context }

/-- The pauses between `n + 1` attempts. -/
def pauses (n : ℕ) : List ℕ := (List.range n).map fun i => connectDelay (i + 1)

example : pauses 9 = [2, 4, 8, 16, 30, 30, 30, 30, 30] := by decide

/-- What holds before the attempt `a`. -/
structure Attempting (a : ℕ) (s : NatsState) : Prop where
  attempts : s.attempts + 1 = a
  slept : s.slept = pauses s.attempts
  opened : s.opened ≤ s.attempts
  drained : s.drained = []

/-- The connection `i` is the last one made, with all streams declared on it. -/
structure Declared (settings : QueueSettings) (i : ℕ) (s : NatsState) : Prop where
  last : s.opened = i + 1
  streams : ∀ stream ∈ desiredStreams settings, (i, stream) ∈ s.declared

end NatsState

section

open NatsState

variable {settings : QueueSettings} {s t : NatsState}

/-- The declarations of one connection, up to the first that raises. -/
theorem exec_declare (context : ℕ) {r : Except Exc (List Unit)} : ∀ {streams : List StreamConfig} {s : NatsState},
    (Prog.forEach (fun stream => natsCall (.addStream context stream)) streams).Exec sem s r t →
      ∃ l, l <+: streams ∧ ((∃ a, r = .ok a) → l = streams) ∧
        t = { s with declared := s.declared ++ l.map fun stream => (context, stream) }
  | [], s, h => by
    obtain ⟨-, rfl⟩ := h
    exact ⟨[], List.nil_prefix, fun _ => rfl, by simp⟩
  | stream :: streams, s, h => by
    rcases exec_bind.mp h with ⟨e, rfl, hcall⟩ | ⟨_, u, hcall, hrest⟩
    · rcases exec_perform.mp hcall with ⟨hx, -⟩ | ⟨-, rfl⟩
      · cases hx
      · exact ⟨[], List.nil_prefix, (fun ⟨_, hr⟩ => nomatch hr), by simp⟩
    · rcases exec_perform.mp hcall with ⟨-, rfl⟩ | ⟨⟨e, hx⟩, -⟩
      · rcases exec_bind.mp hrest with ⟨e, rfl, hloop⟩ | ⟨as, v, hloop, hr, rfl⟩
        · obtain ⟨l, hl, -, rfl⟩ := exec_declare context hloop
          exact ⟨stream :: l, (List.prefix_cons_inj stream).mpr hl, (fun ⟨_, hr⟩ => nomatch hr), by simp⟩
        · obtain ⟨l, hl, hall, rfl⟩ := exec_declare context hloop
          refine ⟨stream :: l, (List.prefix_cons_inj stream).mpr hl, fun _ => ?_, by simp⟩
          rw [hall ⟨as, rfl⟩]
      · cases hx

/-- One attempt: no connection, or one more, which the globals hold. -/
theorem exec_initNats {r : Except Exc Unit} (h : (initNats settings).Exec sem s r t) :
    ((∃ e, r = .error e) ∧ t = { s with attempts := s.attempts + 1 }) ∨
    ∃ l, (r = .ok () → l = desiredStreams settings) ∧ t = { s with
      client := some s.opened
      context := some s.opened
      attempts := s.attempts + 1
      opened := s.opened + 1
      declared := s.declared ++ l.map fun stream => (s.opened, stream) } := by
  rcases exec_bind.mp h with ⟨e, rfl, hcall⟩ | ⟨client, u, hcall, hrest⟩
  · rcases exec_perform.mp hcall with ⟨hx, -⟩ | ⟨-, rfl⟩
    · cases hx
    · exact Or.inl ⟨⟨e, rfl⟩, rfl⟩
  · refine Or.inr ?_
    rcases exec_perform.mp hcall with ⟨hx, rfl⟩ | ⟨⟨e, hx⟩, -⟩
    · obtain rfl := Except.ok.inj hx
      obtain ⟨_, _, ⟨rfl, rfl⟩, hset⟩ := hrest
      obtain ⟨_, _, ⟨rfl, rfl⟩, hcontext⟩ := hset
      obtain ⟨_, u, ⟨rfl, rfl⟩, hrest⟩ := hcontext
      have hstreams : ((Prog.forEach (fun stream => natsCall (.addStream s.opened stream))
          (desiredStreams settings)).bind fun _ => .ret ()).Exec sem _ r t := hrest
      rcases exec_bind.mp hstreams with ⟨e, rfl, hdecl⟩ | ⟨as, v, hdecl, rfl, rfl⟩
      · obtain ⟨l, -, -, rfl⟩ := exec_declare _ hdecl
        exact ⟨l, (fun hr => nomatch hr), rfl⟩
      · obtain ⟨l, -, hall, rfl⟩ := exec_declare _ hdecl
        exact ⟨l, fun _ => hall ⟨as, rfl⟩, rfl⟩
    · cases hx

/-- What the connection is like after the attempts. -/
structure NatsState.Attempted (s : NatsState) : Prop where
  attempts : s.attempts ≤ natsConnectMaxAttempts
  /-- A pause between any two attempts. -/
  slept : s.slept = pauses (s.attempts - 1)
  opened : s.opened ≤ s.attempts

theorem NatsState.Attempting.attempted {a : ℕ} (h : Attempting a s) (ha : a ≤ natsConnectMaxAttempts) {r : Except Exc Unit}
    (hr : (initNats settings).Exec sem s r t) : Attempted t ∧ t.attempts = a ∧ t.drained = [] := by
  rcases exec_initNats hr with ⟨-, rfl⟩ | ⟨l, -, rfl⟩
  · exact ⟨⟨h.attempts ▸ ha, h.slept, Nat.le_succ_of_le h.opened⟩, h.attempts, h.drained⟩
  · exact ⟨⟨h.attempts ▸ ha, h.slept, Nat.succ_le_succ h.opened⟩, h.attempts, h.drained⟩

/-- A failed attempt and its pause lead to the next attempt. -/
theorem NatsState.Attempting.next {a : ℕ} (h : Attempting a s) {e : Exc} {u : NatsState} {x : Except Exc Unit}
    (hinit : (initNats settings).Exec sem s (.error e) u) (hpause : (natsCall (.sleep (connectDelay a))).Exec sem u x t) :
    x = .ok () ∧ Attempting (a + 1) t := by
  obtain ⟨rfl, rfl⟩ := exec_perform.mp hpause
  have hslept : pauses s.attempts ++ [connectDelay a] = pauses (s.attempts + 1) := by
    rw [pauses, pauses, List.range_succ, List.map_append, List.map_singleton, h.attempts]
  refine ⟨rfl, ?_⟩
  rcases exec_initNats hinit with ⟨-, rfl⟩ | ⟨l, -, rfl⟩
  · exact ⟨congrArg (· + 1) h.attempts, by rw [← hslept, ← h.slept], Nat.le_succ_of_le h.opened, h.drained⟩
  · exact ⟨congrArg (· + 1) h.attempts, by rw [← hslept, ← h.slept], Nat.succ_le_succ h.opened, h.drained⟩

/-- The attempts end with the globals holding the last connection, all streams
declared on it; or with the tenth failure. -/
theorem exec_connectNatsWithRetry {r : Except Exc Unit} (h : (connectNatsWithRetry settings).Exec sem start r t) :
    Attempted t ∧ t.drained = [] ∧
      ((r = .ok () ∧ ∃ i, Declared settings i t ∧ t.client = some i ∧ t.context = some i) ∨
        ((∃ e, r = .error e) ∧ t.attempts = natsConnectMaxAttempts)) := by
  have hstart : Attempting 1 start := ⟨rfl, rfl, le_rfl, rfl⟩
  obtain ⟨a, u, -, ha, hu, hinit, hlast⟩ :=
    exec_retry (J := Attempting) (fun hJ hinit hpause => hJ.next hinit hpause) hstart h
  have ha : a ≤ natsConnectMaxAttempts := ha
  obtain ⟨hatt, hcount, hdrained⟩ := hu.attempted ha hinit
  refine ⟨hatt, hdrained, ?_⟩
  rcases r with e | _
  · exact Or.inr ⟨⟨e, rfl⟩, hcount.trans (hlast ⟨e, rfl⟩)⟩
  · rcases exec_initNats hinit with ⟨⟨e, he⟩, -⟩ | ⟨l, hall, rfl⟩
    · cases he
    · refine Or.inl ⟨rfl, u.opened, ⟨rfl, fun stream hmem => ?_⟩, rfl, rfl⟩
      rw [hall rfl]
      exact List.mem_append_right _ (List.mem_map_of_mem hmem)

/-! ### The connection of a worker -/

/-- What the worker leaves of its connection: open in the globals, or drained
and gone from them. -/
def NatsState.Held (v : NatsState) (i : ℕ) (t : NatsState) : Prop :=
  t = v ∨ t = { v with client := none, context := none, drained := [i] }

theorem exec_closeNats {v : NatsState} {i : ℕ} (hv : v.client = some i) (hd : v.drained = [])
    {r : Except Exc Unit} (h : closeNats.Exec sem s r t) (hs : Held v i s) : Held v i t := by
  rcases hs with rfl | rfl
  · obtain ⟨_, _, ⟨rfl, rfl⟩, hrest⟩ := h
    rw [hv] at hrest
    have hclose : ((natsCall (.drain i)).bind fun _ => (natsCall (.setClient none)).bind fun _ =>
        natsCall (.setContext none)).Exec sem _ r t := hrest
    rcases exec_bind.mp hclose with ⟨e, rfl, hdrain⟩ | ⟨_, w, hdrain, hset⟩
    · rcases exec_perform.mp hdrain with ⟨hx, -⟩ | ⟨-, rfl⟩
      · cases hx
      · exact Or.inl rfl
    · rcases exec_perform.mp hdrain with ⟨-, rfl⟩ | ⟨⟨e, hx⟩, -⟩
      · obtain ⟨_, _, ⟨rfl, rfl⟩, hcontext⟩ := hset
        obtain ⟨-, rfl⟩ := exec_perform.mp hcontext
        exact Or.inr (by rw [hd, List.nil_append])
      · cases hx
  · obtain ⟨_, _, ⟨rfl, rfl⟩, hrest⟩ := h
    exact Or.inr hrest.2

variable {τ : Type} {worker : Sem stageSig Exc τ} {w w' : τ}

/-- No call of the worker but `close_nats` touches the connection. -/
theorem exec_serveImpl {v : NatsState} {i : ℕ} (hv : v.client = some i) (hd : v.drained = []) (op : ServeOp)
    (p : NatsState × τ) (x : Except Exc op.Res) (q : NatsState × τ) (hp : Held v i p.1)
    (h : (serveImpl op).Exec (sem.pair worker) p x q) : Held v i q.1 := by
  cases op with
  | closeNats => exact exec_closeNats hv hd (exec_inl.mp h).1 hp
  | _ =>
    have hsame : q.1 = p.1 := (exec_inr.mp h).2
    rw [hsame]
    exact hp

/-- The worker is set up with the context of the connection, and leaves it held
or drained. -/
theorem exec_runWorker {v : NatsState} {i : ℕ} (hv : v.client = some i) (hd : v.drained = []) {r : Except Exc Unit}
    (h : (runWorker i).Exec (sem.pair worker) (v, w) r (t, w')) :
    Held v i t ∧ ∃ x w₁, worker (.setUp i) w x w₁ := by
  rcases exec_bind.mp h with ⟨e, rfl, hsetup⟩ | ⟨_, q, hsetup, hserve⟩
  · obtain ⟨hsetup, hsame⟩ := exec_inr.mp hsetup
    exact ⟨Or.inl hsame, _, _, exec_perform.mp hsetup⟩
  · obtain ⟨hsetup, hsame⟩ := exec_inr.mp hsetup
    refine ⟨exec_interp_keeps (J := fun p => Held v i p.1) (exec_serveImpl hv hd) (Or.inl hsame) hserve, _, _,
      exec_perform.mp hsetup⟩

/-- **A worker's connection.** In every run of `main`, the connection is tried
ten times at most, with a pause between any two attempts. Either all ten fail,
and then nothing else is done; or the worker is set up with the context of the
connection made last, on which the three streams are declared, and at the end
the globals hold it still or it is drained. Of the connections made, at most
that one is ever drained, and once: those of failed attempts stay open. -/
theorem worker_connection {r : Except Exc Unit}
    (h : (workerMain settings).Exec (sem.pair worker) (start, w) r (t, w')) :
    Attempted t ∧
    (((∃ e, r = .error e) ∧ t.attempts = natsConnectMaxAttempts ∧ t.drained = [] ∧ w' = w) ∨
      ∃ i, Declared settings i t ∧ (∃ x w₁, worker (.setUp i) w x w₁) ∧
        ((t.client = some i ∧ t.context = some i ∧ t.drained = []) ∨
          (t.client = none ∧ t.context = none ∧ t.drained = [i]))) := by
  rcases exec_bind.mp h with ⟨e, rfl, hconnect⟩ | ⟨_, ⟨v, w₁⟩, hconnect, hrest⟩
  · obtain ⟨hconnect, hsame⟩ := exec_inl.mp hconnect
    obtain ⟨hatt, hdrained, ⟨hx, -⟩ | ⟨-, hten⟩⟩ := exec_connectNatsWithRetry hconnect
    · cases hx
    · exact ⟨hatt, Or.inl ⟨⟨e, rfl⟩, hten, hdrained, hsame⟩⟩
  · obtain ⟨hconnect, hsame⟩ := exec_inl.mp hconnect
    obtain ⟨hatt, hdrained, ⟨-, i, hdecl, hclient, hcontext⟩ | ⟨⟨e, he⟩, -⟩⟩ := exec_connectNatsWithRetry hconnect
    · have hget : ∀ {x : Except Exc ℕ} {q : NatsState × τ}, (getJetstream.inl (T := stageSig)).Exec (sem.pair worker)
          (v, w₁) x q → x = .ok i ∧ q = (v, w₁) := by
        intro x q hx
        obtain ⟨⟨_, _, ⟨rfl, hq⟩, hret⟩, hw⟩ := exec_inl.mp hx
        rw [hcontext] at hret
        exact ⟨hret.1, Prod.ext (hret.2.trans hq) hw⟩
      obtain rfl : w₁ = w := hsame
      rcases exec_bind.mp hrest with ⟨e, -, hx⟩ | ⟨context, q, hx, hrun⟩
      · cases (hget hx).1
      · obtain ⟨hi, rfl⟩ := hget hx
        obtain rfl := Except.ok.inj hi
        obtain ⟨hheld, hsetup⟩ := exec_runWorker hclient hdrained hrun
        rcases hheld with rfl | rfl
        · exact ⟨hatt, Or.inr ⟨_, hdecl, hsetup, Or.inl ⟨hclient, hcontext, hdrained⟩⟩⟩
        · exact ⟨⟨hatt.attempts, hatt.slept, hatt.opened⟩,
            Or.inr ⟨_, ⟨hdecl.last, hdecl.streams⟩, hsetup, Or.inr ⟨rfl, rfl, rfl⟩⟩⟩
    · cases he

end

/-! ### A broker that comes up late -/

/-- The default settings. -/
def defaultQueueSettings : QueueSettings where
  natsUrl := "nats://nats:4222"
  requestStream := "DOCGEN_REQUESTS"
  requestSubject := "docgen.request"
  resultsStream := "DOCGEN_RESULTS"
  resultsSubjectFilter := "docgen.result.>"
  dlqStream := "DOCGEN_DLQ"
  dlqSubject := "docgen.dlq"

/-- The worker's own calls may answer anything. -/
def anyWorker : Sem stageSig Exc Unit := fun _ _ _ _ => True

/-- The second connection, after a first one on which the streams could not be
declared. -/
def secondConnection : NatsState where
  client := some 1
  context := some 1
  attempts := 2
  opened := 2
  slept := [2]
  drained := []
  declared := (desiredStreams defaultQueueSettings).map fun stream => (1, stream)

theorem exec_secondConnection : (connectNatsWithRetry defaultQueueSettings).Exec NatsState.sem NatsState.start
    (.ok ()) secondConnection := by
  refine ⟨.ok 0, _, Or.inl ⟨rfl, rfl⟩, .ok (), _, ⟨rfl, rfl⟩, .ok 0, _, ⟨rfl, rfl⟩, .ok (), _, ⟨rfl, rfl⟩,
    .error (.apiError "no quorum"), _, Or.inr ⟨⟨_, rfl⟩, rfl⟩, .ok (), _, ⟨rfl, rfl⟩, ?_⟩
  exact ⟨.ok 1, _, Or.inl ⟨rfl, rfl⟩, .ok (), _, ⟨rfl, rfl⟩, .ok 1, _, ⟨rfl, rfl⟩, .ok (), _, ⟨rfl, rfl⟩,
    .ok (), _, Or.inl ⟨rfl, rfl⟩, .ok (), _, Or.inl ⟨rfl, rfl⟩, .ok (), _, Or.inl ⟨rfl, rfl⟩, rfl, rfl⟩

/-- The connection after the worker has served. -/
def drainedConnection : NatsState := { secondConnection with client := none, context := none, drained := [1] }

/-- The worker subscribes, waits, and shuts down with no task under way. -/
theorem exec_drainedConnection : (runWorker 1).Exec (NatsState.sem.pair anyWorker) (secondConnection, ())
    (.ok ()) (drainedConnection, ()) := by
  refine ⟨.ok (), _, ⟨trivial, rfl⟩, .ok (), _, ⟨trivial, rfl⟩, .ok (), _, ⟨trivial, rfl⟩, .ok (), _, ⟨trivial, rfl⟩, ?_⟩
  refine ⟨.ok (), _, ⟨trivial, rfl⟩, .ok (), _, ⟨trivial, rfl⟩, .ok (), _, ⟨trivial, rfl⟩, .ok [], _, ⟨trivial, rfl⟩,
    .ok (), (secondConnection, ()), ⟨trivial, rfl⟩, ?_⟩
  exact ⟨.ok (some 1), (_, ()), ⟨⟨rfl, rfl⟩, rfl⟩, .ok (), (_, ()), ⟨Or.inl ⟨rfl, rfl⟩, rfl⟩, .ok (), (_, ()),
    ⟨⟨rfl, rfl⟩, rfl⟩, .ok (), (_, ()), ⟨⟨rfl, rfl⟩, rfl⟩, rfl, rfl⟩

theorem exec_workerMain : (workerMain defaultQueueSettings).Exec (NatsState.sem.pair anyWorker)
    (NatsState.start, ()) (.ok ()) (drainedConnection, ()) := by
  refine exec_bind.mpr (Or.inr ⟨(), (secondConnection, ()), exec_inl.mpr ⟨exec_secondConnection, rfl⟩, ?_⟩)
  exact exec_bind.mpr (Or.inr ⟨1, (secondConnection, ()), ⟨.ok (some 1), (_, ()), ⟨⟨rfl, rfl⟩, rfl⟩, rfl, rfl⟩,
    exec_drainedConnection⟩)

/-- A worker whose first connection fails: the second one has the streams, and
is the one that is drained. -/
theorem worker_connection_second :
    NatsState.Attempted drainedConnection ∧ drainedConnection.opened = 2 ∧ drainedConnection.drained = [1] ∧
      NatsState.Declared defaultQueueSettings 1 drainedConnection := by
  obtain ⟨hatt, ⟨-, -, hdrained, -⟩ | ⟨i, hdecl, -, ⟨-, -, hdrained⟩ | ⟨-, -, hdrained⟩⟩⟩ :=
    worker_connection exec_workerMain
  · cases hdrained
  · cases hdrained
  · -- the connection drained is the one made last
    cases hdrained
    exact ⟨hatt, rfl, rfl, hdecl⟩

end DocGen
