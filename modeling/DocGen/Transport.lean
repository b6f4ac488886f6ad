/-
# The handler on the connection

`adapters/nats_transport.py`: a result is published to the request's
`reply_to` as JSON, a dead letter to the one dead-letter subject with the
message as it came. Here the handler's broker calls are implemented by that
adapter (`handleOnWire`), and what a handling may do on the connection is one
list (`WireCall`): which subject, which bytes and which headers, at which
delivery count. It holds of every initial part of a handling, whatever the
adapters of the pipeline do.

The acknowledgement that JetStream answers a publish with is left out: it is
only logged.
-/
import DocGen.Lib.Calls
import DocGen.Wire

namespace DocGen

open Prog

/-- The calls on the JetStream context and on a message. -/
inductive WireOp
  | publish (subject : String) (payload : Bytes) (headers : List (String × String)) (timeout : ℕ)
  | ack
  | nak (delay : ℕ)

abbrev wireSig : Sig := ⟨WireOp, fun _ => Unit⟩

def wire (op : WireOp) : Coroutine wireSig Unit := Prog.perform (S := wireSig) op

/-- `_PUBLISH_TIMEOUT_SECONDS`. -/
def publishTimeoutSeconds : ℕ := 5

structure NatsTransport where
  dlqSubject : String
  publishTimeout : ℕ

/-- `NatsTransport(js, dlq_subject=...)`. -/
def natsTransport (dlqSubject : String) : NatsTransport := ⟨dlqSubject, publishTimeoutSeconds⟩

namespace NatsTransport

variable (transport : NatsTransport) (P : Pydantic)

def resultHeaders (requestId : String) : List (String × String) :=
  [("Event-Type", "docgen.result"), ("Request-Id", requestId)]

def publishResult (subject : String) (result : GenerationResult) : Coroutine wireSig Unit :=
  wire (.publish subject (toJsonBytes P result) (resultHeaders result.requestId) transport.publishTimeout)

def publishDlq (payload : Bytes) (headers : List (String × String)) : Coroutine wireSig Unit :=
  wire (.publish transport.dlqSubject payload headers transport.publishTimeout)

/-- The broker's side, with this transport and the message's own `ack` and `nak`. -/
def call : MsgOp → Coroutine wireSig Unit
  | .publishResult subject result => transport.publishResult P subject result
  | .publishDlq payload headers => transport.publishDlq payload headers
  | .ack => wire .ack
  | .nak delay => wire (.nak delay)

/-- The pipeline's calls are left as they are. -/
def impl (Q : Sig) : ∀ op : (msgSig.sum Q).Op, Coroutine (wireSig.sum Q) ((msgSig.sum Q).Res op)
  | .inl op => (transport.call P op).inl
  | .inr op => (Prog.perform (S := Q) op).inr

end NatsTransport

/-- The wiring, with pydantic's decoder. -/
def HandlerDeps.reading {Q : Sig} {ρ : Type} (deps : HandlerDeps Q ρ) (P : Pydantic) : HandlerDeps Q ρ :=
  { deps with decode := DocGen.decode P }

/-- `_handle_message` on a connection. -/
def handleOnWire {Q : Sig} {ρ : Type} (transport : NatsTransport) (P : Pydantic) (deps : HandlerDeps Q ρ)
    (msg : Msg) : Coroutine (wireSig.sum Q) Outcome :=
  (handleMessage (deps.reading P) msg).interp (transport.impl P Q)

/-! ### What a result says -/

/-- What every result of a request says of it. A failure has the code of a
class of classified failures, and that class's flag. -/
structure Reported (request : GenerationRequest) (result : GenerationResult) : Prop where
  requestId : result.requestId = request.requestId
  metadata : result.metadata = request.metadata
  outcome : (result.status = .success ∧ result.error = none ∧
      result.artifacts.length = request.requestedFormats.length) ∨
    (result.status = .failed ∧ result.artifacts = [] ∧ ∃ (cls : DocGenErrorClass) (message : String),
      message ≠ "" ∧ result.error = some ⟨cls.code.value, message, cls.permanent⟩)

section

variable {Q : Sig} {ρ : Type} {deps : HandlerDeps Q ρ} {msg : Msg} {request : GenerationRequest}
  {result : GenerationResult}

theorem reported_caught {generatedAt : String} {version : Option String} {exc : Exc}
    (h : caught request generatedAt version exc = .ok result) : Reported request result := by
  cases exc with
  | docGen e =>
    obtain rfl := Except.ok.inj h
    refine ⟨rfl, rfl, Or.inr ⟨rfl, rfl, e.cls, _, ?_, rfl⟩⟩
    split
    · assumption
    · cases e.cls <;> decide
  | _ => cases h

theorem BundleRun.reported {generatedAt : String} {bundle : TemplateBundle} {tr : PortTrace ρ}
    {r : Except Exc GenerationResult} (h : BundleRun request generatedAt bundle tr r)
    (hr : finish request generatedAt bundle r = .ok result) : Reported request result := by
  cases h with
  | done arts hc puts hA =>
    obtain rfl := Except.ok.inj hr
    refine ⟨rfl, rfl, Or.inl ⟨rfl, rfl, ?_⟩⟩
    have hputs : puts.length = arts.length := by simpa using congrArg List.length hA
    have harts : arts.length = request.requestedFormats.length := by simpa using congrArg List.length hc.formats
    exact (List.length_map ..).trans (hputs.trans harts)
  | _ =>
    unfold finish at hr
    exact reported_caught hr

/-- Whatever the adapters do. -/
theorem build_result_reported {tr : List (Event Q Exc)} (h : (buildResult deps request).Runs tr (.ok result)) :
    Reported request result := by
  rcases runs_tryCatch.mp h with ⟨_, hr, hp⟩ | ⟨exc, t₁, t₂, rfl, -, rfl, hr⟩
  · obtain rfl := Except.ok.inj hr
    rw [← processRequest_interp] at hp
    obtain ⟨es, -, hp⟩ := runs_interp.mp hp
    rcases process_request_runs hp with ⟨exc, -, hc⟩ | ⟨bundle, r', hb, hr'⟩
    · exact reported_caught hc.symm
    · exact hb.reported hr'.symm
  · obtain rfl := Except.ok.inj hr
    exact ⟨rfl, rfl, Or.inr ⟨rfl, rfl, .renderError, "unhandled_worker_error", by decide, rfl⟩⟩

/-- The reasons a dead letter of a request may have. -/
def deadLetterReasons : List String := ["RENDER_ERROR", "STORAGE_ERROR", "emit_failure"]

/-- A failure that is not terminal is a render's or the storage's. -/
theorem Reported.dlq_headers (h : Reported request result) (ht : isTerminal result = false) :
    ∃ reason ∈ deadLetterReasons,
      dlqHeaders request result = [(headerRequestId, request.requestId), (headerDlqReason, reason)] := by
  rcases h.outcome with ⟨hs, -, -⟩ | ⟨hs, -, cls, message, -, he⟩
  · rw [terminal_of_success hs] at ht
    cases ht
  · refine ⟨cls.code.value, ?_, by rw [dlqHeaders, he]⟩
    rw [isTerminal, hs, he] at ht
    cases cls with
    | renderError | storageError => decide
    | _ => cases ht

/-! ### What the broker is called with -/

/-- The broker calls that a handling may come to once its result is built. -/
inductive Emits (deps : HandlerDeps Q ρ) (msg : Msg) (request : GenerationRequest) (result : GenerationResult) :
    MsgOp → Prop
  | result (h : isTerminal result = true ∨ deps.maxDeliver ≤ msg.numDelivered) :
      Emits deps msg request result (.publishResult request.replyTo result)
  | deadLetter (ht : isTerminal result = false) (hn : deps.maxDeliver ≤ msg.numDelivered) :
      Emits deps msg request result (.publishDlq msg.data (dlqHeaders request result))
  | emitFailure (hn : deps.maxDeliver ≤ msg.numDelivered) : Emits deps msg request result
      (.publishDlq msg.data [(headerRequestId, request.requestId), (headerDlqReason, "emit_failure")])
  | ack : Emits deps msg request result .ack
  | nak (hn : msg.numDelivered < deps.maxDeliver) : Emits deps msg request result (.nak deps.nakDelay)

theorem calls_suppress {S : Sig} {C : S.Op → Prop} {p : Coroutine S Unit} (h : p.Calls C) : (suppress p).Calls C :=
  calls_tryCatch (fun _ => calls_ret) h

theorem emit_calls : (emit deps msg request result).Calls (Emits deps msg request result) := by
  unfold emit
  split
  · rename_i ht
    refine calls_bind (fun _ => ?_) (calls_perform (.result (Or.inl ht)))
    exact calls_bind (fun _ => calls_ret) (calls_perform .ack)
  · rename_i ht
    have ht : isTerminal result = false := by simpa using ht
    split
    · rename_i hn
      exact calls_bind (fun _ => calls_ret) (calls_perform (.nak hn))
    · rename_i hn
      have hn : deps.maxDeliver ≤ msg.numDelivered := not_lt.mp hn
      refine calls_bind (fun _ => ?_) (calls_perform (.result (Or.inr hn)))
      refine calls_bind (fun _ => ?_) (calls_perform (.deadLetter ht hn))
      exact calls_bind (fun _ => calls_ret) (calls_perform .ack)

theorem handle_emit_failure_calls :
    (handleEmitFailure deps msg request).Calls (Emits deps msg request result) := by
  unfold handleEmitFailure
  split
  · rename_i hn
    exact calls_bind (fun _ => calls_ret) (calls_suppress (calls_perform (.nak hn)))
  · rename_i hn
    refine calls_bind (fun _ => ?_) (calls_suppress (calls_perform (.emitFailure (not_lt.mp hn))))
    exact calls_bind (fun _ => calls_ret) (calls_suppress (calls_perform .ack))

theorem emit_guarded_calls : (emitGuarded deps msg request result).Calls (Emits deps msg request result) :=
  calls_tryCatch (fun _ => handle_emit_failure_calls) emit_calls

/-- The handling of a body that cannot be read only copies it and acks. -/
theorem drop_undecodable_calls : (dropUndecodable msg).Calls fun op : MsgOp =>
    op = .publishDlq msg.data [(headerDlqReason, "decode")] ∨ op = .ack :=
  calls_bind (fun _ => calls_bind (fun _ => calls_ret) (calls_perform (Or.inr rfl)))
    (calls_suppress (calls_perform (Or.inl rfl)))

theorem handleMessage_of_decode (hd : deps.decode msg.data = some request) :
    handleMessage deps msg = handleRequest deps msg request := by
  rw [handleMessage, hd]

/-- A broker call of a handling. -/
theorem broker_call {tr : List (Event (msgSig.sum Q) Exc)} {r : Except Exc Outcome}
    (h : (handleMessage deps msg).Runs tr r) {op : MsgOp} {x : Except Exc Unit} (he : ⟨.inl op, x⟩ ∈ tr) :
    (deps.decode msg.data = none ∧ (op = .publishDlq msg.data [(headerDlqReason, "decode")] ∨ op = .ack)) ∨
    ∃ request result, deps.decode msg.data = some request ∧ Reported request result ∧
      Emits deps msg request result op := by
  cases hd : deps.decode msg.data with
  | none =>
    rw [handleMessage, hd] at h
    obtain ⟨l, rfl, hl⟩ := runs_inl.mp h
    obtain ⟨e, hel, heq⟩ := List.mem_map.mp he
    cases heq
    exact Or.inl ⟨rfl, drop_undecodable_calls.runs hl e hel⟩
  | some request =>
    rw [handleMessage_of_decode hd] at h
    obtain ⟨pipe, result, emits, rfl, hbuild, hemit⟩ := handle_request_runs h
    rcases List.mem_append.mp he with he | he
    · obtain ⟨e, -, heq⟩ := List.mem_map.mp he
      cases heq
    · obtain ⟨e, hel, heq⟩ := List.mem_map.mp he
      cases heq
      exact Or.inr ⟨request, result, rfl, build_result_reported hbuild, emit_guarded_calls.runs hemit e hel⟩

end

/-! ### What goes over the wire -/

/-- What a handling of the message may do on the connection, with the bound
`M`. A published result is read back as it was, unless the printer loses it. -/
inductive WireCall (transport : NatsTransport) (P : Pydantic) (M : ℕ) (msg : Msg) : WireOp → Prop
  | undecodable (hd : decode P msg.data = none) : WireCall transport P M msg
      (.publish transport.dlqSubject msg.data [(headerDlqReason, "decode")] transport.publishTimeout)
  | result {request : GenerationRequest} (hd : decode P msg.data = some request) {result : GenerationResult}
      (hr : Reported request result) (hb : isTerminal result = true ∨ M ≤ msg.numDelivered) {payload : Bytes}
      (hp : P.Stable result.toJson → readResultBytes P payload = some result) : WireCall transport P M msg
      (.publish request.replyTo payload (NatsTransport.resultHeaders request.requestId) transport.publishTimeout)
  | deadLetter {request : GenerationRequest} (hd : decode P msg.data = some request)
      (hn : M ≤ msg.numDelivered) {reason : String} (hr : reason ∈ deadLetterReasons) :
      WireCall transport P M msg (.publish transport.dlqSubject msg.data
        [(headerRequestId, request.requestId), (headerDlqReason, reason)] transport.publishTimeout)
  | ack : WireCall transport P M msg .ack
  | nak {request : GenerationRequest} (hd : decode P msg.data = some request) (hn : msg.numDelivered < M)
      (delay : ℕ) : WireCall transport P M msg (.nak delay)

section

variable {Q : Sig} {ρ : Type} {transport : NatsTransport} {P : Pydantic} {deps : HandlerDeps Q ρ} {msg : Msg}

theorem runs_wire {op op' : WireOp} {t : List (Event wireSig Exc)} {x : Except Exc Unit} {y : Except Exc Unit}
    (h : (wire op).Runs t x) (he : ⟨op', y⟩ ∈ t) : op' = op := by
  rw [wire, runs_perform] at h
  rw [h, List.mem_singleton] at he
  exact congrArg Event.op he

/-- A call of the handler goes over the wire as one call. -/
theorem wire_call_of_emits {request : GenerationRequest} {result : GenerationResult} {op : MsgOp} {op' : WireOp}
    {t : List (Event wireSig Exc)} {x y : Except Exc Unit} (hP : P.Lax)
    (hd : decode P msg.data = some request) (hr : Reported request result)
    (h : Emits deps msg request result op) (ht : (transport.call P op).Runs t x) (he : ⟨op', y⟩ ∈ t) :
    WireCall transport P deps.maxDeliver msg op' := by
  cases h with
  | result hb =>
    rw [runs_wire ht he, hr.requestId]
    exact .result hd hr hb fun hs => readResultBytes_of_stable hP hs
  | deadLetter hterm hn =>
    obtain ⟨reason, hreason, hheaders⟩ := hr.dlq_headers hterm
    rw [runs_wire ht he, hheaders]
    exact .deadLetter hd hn hreason
  | emitFailure hn =>
    rw [runs_wire ht he]
    exact .deadLetter hd hn (by decide)
  | ack =>
    rw [runs_wire ht he]
    exact .ack
  | nak hn =>
    rw [runs_wire ht he]
    exact .nak hd hn deps.nakDelay

/-- A call on the connection stems from a call of the broker's side. -/
theorem wire_origin {op : (msgSig.sum Q).Op} {t : List (Event (wireSig.sum Q) Exc)}
    {x : (msgSig.sum Q).Ans Exc op} {op' : WireOp} {y : Except Exc Unit}
    (h : (transport.impl P Q op).Runs t x) (he : ⟨.inl op', y⟩ ∈ t) :
    ∃ o t', op = .inl o ∧ ⟨op', y⟩ ∈ t' ∧ ∃ z, (transport.call P o).Runs t' z := by
  rcases op with o | o
  · obtain ⟨t', rfl, hr⟩ := runs_inl.mp h
    obtain ⟨e, he', heq⟩ := List.mem_map.mp he
    obtain ⟨op₀, y₀⟩ := e
    cases heq
    exact ⟨o, t', rfl, he', _, hr⟩
  · obtain ⟨t', rfl, -⟩ := runs_inr.mp h
    obtain ⟨e, -, heq⟩ := List.mem_map.mp he
    cases heq

/-- **The wire.** At every point of a handling, whatever the pipeline's
adapters and the broker do, what went over the connection is of `WireCall`. -/
theorem handle_on_wire (hP : P.Lax) {tr : List (Event (wireSig.sum Q) Exc)}
    {rest : Coroutine (wireSig.sum Q) Outcome} (h : Steps (handleOnWire transport P deps msg) tr rest) :
    ∀ e ∈ tr.filterMap Event.left?, WireCall transport P deps.maxDeliver msg e.op := by
  intro e he
  obtain ⟨tr', r, hr, -⟩ := h.extend fun _ => .error (.other "Exception" "")
  obtain ⟨⟨o | o, y⟩, he₁, hleft⟩ := List.mem_filterMap.mp he <;> cases hleft
  obtain ⟨es, hi, hrun⟩ := runs_interp.mp hr
  obtain ⟨⟨op, x⟩, he₀, t, het, -, hcall⟩ := hi.mem (List.mem_append_left _ he₁)
  obtain ⟨op, t', rfl, het', z, hcall'⟩ := wire_origin hcall het
  rcases broker_call hrun he₀ with ⟨hd, rfl | rfl⟩ | ⟨request, result, hd, hr, hE⟩
  · rw [runs_wire hcall' het']
    exact .undecodable hd
  · rw [runs_wire hcall' het']
    exact .ack
  · have hwire := wire_call_of_emits hP hd hr hE hcall' het'
    exact hwire

end

/-! ### A template that is gone -/

def requestMsg : Msg := ⟨requestBytes, some 1⟩

/-- The calls of the handling: the failure is permanent, so it is published and
the message acked at the first delivery. -/
def goneTrace : List (Event (wireSig.sum (portSig Unit)) Exc) :=
  [⟨.inr (.fetch makeRequest.templateUri), .error (.docGen ⟨.templateNotFoundError, "gone"⟩)⟩,
    ⟨.inl (.publish makeRequest.replyTo (toJsonBytes sentPydantic goneResult)
      (NatsTransport.resultHeaders makeRequest.requestId) 5), .ok ()⟩,
    ⟨.inl .ack, .ok ()⟩]

theorem goneTrace_steps : Steps (handleOnWire (natsTransport "docgen.dlq") sentPydantic (callsDeps 4) requestMsg)
    goneTrace (.ret .ackPermanentFail) := by
  have hd : ((callsDeps 4).reading sentPydantic).decode requestMsg.data = some makeRequest := decode_requestBytes
  rw [handleOnWire, handleMessage_of_decode hd]
  exact .cons (.cons (.cons .nil))

theorem handle_on_wire_gone : ∀ e ∈ goneTrace.filterMap Event.left?,
    WireCall (natsTransport "docgen.dlq") sentPydantic 4 requestMsg e.op :=
  handle_on_wire sent_lax goneTrace_steps

end DocGen
