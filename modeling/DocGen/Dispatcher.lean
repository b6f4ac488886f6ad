/-
# One handling of a message

`worker/dispatcher.py`: decode the message, run the pipeline, and decide
between ack, nak and the dead-letter subject. The pipeline's calls and the
calls to the broker are two signatures, so that a run of a handler splits into
the calls of the pipeline and those of `msgSig` by construction.

Metrics, log lines and the request-id context are left out: nothing reads them
back. The two readings of the clock are parameters, and so is the decoder of
message bodies, which is pydantic's.
-/
import DocGen.Orchestrator

namespace DocGen

/-! ### The broker's side -/

/-- The calls of `MessageTransport` and of a message. -/
inductive MsgOp
  | publishResult (subject : String) (result : GenerationResult)
  | publishDlq (payload : Bytes) (headers : List (String × String))
  | ack
  | nak (delay : ℕ)

abbrev msgSig : Sig := ⟨MsgOp, fun _ => Unit⟩

/-- One call to the broker. -/
def broker (op : MsgOp) : Coroutine msgSig Unit := Prog.perform (S := msgSig) op

abbrev publishResult (subject : String) (result : GenerationResult) : Coroutine msgSig Unit :=
  broker (.publishResult subject result)

abbrev publishDlq (payload : Bytes) (headers : List (String × String)) : Coroutine msgSig Unit :=
  broker (.publishDlq payload headers)

abbrev ack : Coroutine msgSig Unit := broker .ack

abbrev nak (delay : ℕ) : Coroutine msgSig Unit := broker (.nak delay)

/-- `with contextlib.suppress(Exception): await p`. -/
def suppress {S : Sig} (p : Coroutine S Unit) : Coroutine S Unit := p.tryCatch fun _ => return ()

/-- A message: its body, and the delivery count of its metadata where that can
be read. -/
structure Msg where
  data : Bytes
  numDelivered? : Option ℕ

/-- `_num_delivered`: 1 where the metadata cannot be read. -/
def Msg.numDelivered (msg : Msg) : ℕ := msg.numDelivered?.getD 1

/-- The labels of the `worker.messages` counter. -/
inductive Outcome
  | ack
  | ackPermanentFail
  | nak
  | dlq
  | emitErrorNak
  | emitErrorDlq
  | dropDecode
  deriving DecidableEq

def headerRequestId : String := "Request-Id"
def headerDlqReason : String := "X-DocGen-Error"

/-! ### The handler -/

/-- What the handler is wired with. `startedAt` and `failedAt` are the clock
when the pipeline starts and when it has raised. -/
structure HandlerDeps (P : Sig) (ρ : Type) where
  ports : Ports P ρ
  maxDeliver : ℕ
  nakDelay : ℕ
  startedAt : String
  failedAt : String
  decode : Bytes → Option GenerationRequest

section

variable {P : Sig} {ρ : Type} (deps : HandlerDeps P ρ) (msg : Msg) (request : GenerationRequest)

/-- `_is_terminal`: a success, or a failure no retry could change. -/
def isTerminal (result : GenerationResult) : Bool :=
  result.status = .success ||
    match result.error with
    | some error => error.permanent
    | none => false

def dlqHeaders (result : GenerationResult) : List (String × String) :=
  [(headerRequestId, request.requestId),
    (headerDlqReason, match result.error with | some error => error.code | none => "unknown")]

/-- `_build_result`: whatever the pipeline raises becomes a transient failure. -/
def buildResult : Coroutine P GenerationResult :=
  (processRequest deps.ports request deps.startedAt).tryCatch fun _ =>
    return failureResult request ErrorCode.renderError.value "unhandled_worker_error" false
      deps.failedAt none

/-- `_emit`. -/
def emit (result : GenerationResult) : Coroutine msgSig Outcome :=
  if isTerminal result then do
    publishResult request.replyTo result
    ack
    return if result.status = .success then .ack else .ackPermanentFail
  else if msg.numDelivered < deps.maxDeliver then do
    nak deps.nakDelay
    return .nak
  else do
    publishResult request.replyTo result
    publishDlq msg.data (dlqHeaders request result)
    ack
    return .dlq

/-- `_handle_emit_failure`. -/
def handleEmitFailure : Coroutine msgSig Outcome :=
  if msg.numDelivered < deps.maxDeliver then do
    suppress (nak deps.nakDelay)
    return .emitErrorNak
  else do
    suppress (publishDlq msg.data
      [(headerRequestId, request.requestId), (headerDlqReason, "emit_failure")])
    suppress ack
    return .emitErrorDlq

/-- `_drop_undecodable`. The ack is outside the `suppress`. -/
def dropUndecodable : Coroutine msgSig Outcome := do
  suppress (publishDlq msg.data [(headerDlqReason, "decode")])
  ack
  return .dropDecode

/-- The `try` and `except` of `_handle_message`. -/
def handleRequest : Coroutine (msgSig.sum P) Outcome :=
  ((buildResult deps request).inr.bind fun result => (emit deps msg request result).inl).tryCatch
    fun _ => (handleEmitFailure deps msg request).inl

/-- `_handle_message`. -/
def handleMessage : Coroutine (msgSig.sum P) Outcome :=
  match deps.decode msg.data with
  | none => (dropUndecodable msg).inl
  | some request => handleRequest deps msg request

end

/-- The `max_deliver` that `subscribe` asks the server for: a backstop, one
above the handler's own bound. -/
def serverMaxDeliver (maxDeliver : ℕ) : ℕ := maxDeliver + 1

end DocGen
