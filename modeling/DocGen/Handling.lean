/-
# What one handling of a message does

The handler has two error paths: `_emit` may stop after any call that has
already taken effect, and `_handle_emit_failure` then runs after it. Here each
is inverted into the lists of broker calls it can make (`emit_returns`,
`emit_raises`, `emit_failure_runs`), a run of the handler is split into the
pipeline's calls and those (`handle_request_runs`), and the contract of one
handling (`HandlingContract`) is read off the lists.
-/
import DocGen.Dispatcher

namespace DocGen

open Prog

namespace MsgOp

def isPublishResult : MsgOp → Bool
  | .publishResult _ _ => true
  | _ => false

def isPublishDlq : MsgOp → Bool
  | .publishDlq _ _ => true
  | _ => false

def isAck : MsgOp → Bool
  | .ack => true
  | _ => false

def isNak : MsgOp → Bool
  | .nak _ => true
  | _ => false

end MsgOp

/-- A list of broker calls with their answers. -/
abbrev MsgTrace : Type := List (Event msgSig Exc)

section

variable {P : Sig} {ρ : Type} {deps : HandlerDeps P ρ} {msg : Msg} {request : GenerationRequest}
  {result : GenerationResult}

theorem runs_broker {op : MsgOp} {tr : MsgTrace} {r : Except Exc Unit} :
    (broker op).Runs tr r ↔ tr = [⟨op, r⟩] := runs_perform

theorem runs_broker_bind {α : Type} {op : MsgOp} {f : Unit → Coroutine msgSig α} {tr : MsgTrace}
    {r : Except Exc α} :
    ((broker op).bind f).Runs tr r ↔
      (∃ e, r = .error e ∧ tr = [⟨op, .error e⟩]) ∨
      ∃ a tr', tr = ⟨op, .ok a⟩ :: tr' ∧ (f a).Runs tr' r := runs_perform_bind

theorem runs_suppress {op : MsgOp} {tr : MsgTrace} {r : Except Exc Unit} :
    (suppress (broker op)).Runs tr r ↔ r = .ok () ∧ ∃ x, tr = [⟨op, x⟩] := by
  simp only [suppress, runs_tryCatch, runs_broker, pure_eq, runs_ret]
  constructor
  · rintro (⟨a, rfl, rfl⟩ | ⟨e, _, _, rfl, rfl, rfl, rfl⟩)
    · exact ⟨rfl, _, rfl⟩
    · exact ⟨rfl, _, rfl⟩
  · rintro ⟨rfl, x, rfl⟩
    rcases x with e | a
    · exact Or.inr ⟨e, _, [], rfl, rfl, rfl, rfl⟩
    · exact Or.inl ⟨a, rfl, rfl⟩

/-- The pipeline's result is built whatever the pipeline does. -/
theorem build_result_returns {tr : List (Event P Exc)} {r : Except Exc GenerationResult}
    (h : (buildResult deps request).Runs tr r) : ∃ result, r = .ok result := by
  rcases runs_tryCatch.mp h with ⟨result, rfl, -⟩ | ⟨_, _, _, -, -, -, rfl⟩
  · exact ⟨result, rfl⟩
  · exact ⟨_, rfl⟩

theorem handle_emit_failure_runs {tr : MsgTrace} {r : Except Exc Outcome}
    (h : (handleEmitFailure deps msg request).Runs tr r) :
    (msg.numDelivered < deps.maxDeliver ∧ r = .ok .emitErrorNak ∧
      ∃ x, tr = [⟨.nak deps.nakDelay, x⟩]) ∨
    (deps.maxDeliver ≤ msg.numDelivered ∧ r = .ok .emitErrorDlq ∧
      ∃ headers x y, tr = [⟨.publishDlq msg.data headers, x⟩, ⟨.ack, y⟩]) := by
  unfold handleEmitFailure at h
  split at h
  · rename_i hn
    simp only [bind_eq, runs_bind, runs_suppress, pure_eq, runs_ret, reduceCtorEq, false_and,
      and_false, exists_false, false_or] at h
    obtain ⟨_, _, _, rfl, ⟨-, x, rfl⟩, rfl, rfl⟩ := h
    exact Or.inl ⟨hn, rfl, x, rfl⟩
  · rename_i hn
    simp only [bind_eq, runs_bind, runs_suppress, pure_eq, runs_ret, reduceCtorEq, false_and,
      and_false, exists_false, false_or] at h
    obtain ⟨_, _, _, rfl, ⟨-, x, rfl⟩, _, _, _, rfl, ⟨-, y, rfl⟩, rfl, rfl⟩ := h
    exact Or.inr ⟨by omega, rfl, _, x, y, rfl⟩

/-- The broker calls of `_emit` when it returns. -/
theorem emit_returns {tr : MsgTrace} {outcome : Outcome}
    (h : (emit deps msg request result).Runs tr (.ok outcome)) :
    (isTerminal result = true ∧
      tr = [⟨.publishResult request.replyTo result, .ok ()⟩, ⟨.ack, .ok ()⟩]) ∨
    (isTerminal result = false ∧ msg.numDelivered < deps.maxDeliver ∧
      tr = [⟨.nak deps.nakDelay, .ok ()⟩]) ∨
    (isTerminal result = false ∧ deps.maxDeliver ≤ msg.numDelivered ∧
      tr = [⟨.publishResult request.replyTo result, .ok ()⟩,
        ⟨.publishDlq msg.data (dlqHeaders request result), .ok ()⟩, ⟨.ack, .ok ()⟩]) := by
  unfold emit at h
  split at h
  · rename_i ht
    simp only [bind_eq, runs_broker_bind, pure_eq, runs_ret, reduceCtorEq, false_and,
      exists_false, false_or] at h
    obtain ⟨_, _, rfl, _, _, rfl, rfl, -⟩ := h
    exact Or.inl ⟨ht, rfl⟩
  · rename_i ht
    have ht' : isTerminal result = false := by simpa using ht
    split at h
    · rename_i hn
      simp only [bind_eq, runs_broker_bind, pure_eq, runs_ret, reduceCtorEq, false_and,
        exists_false, false_or] at h
      obtain ⟨_, _, rfl, rfl, -⟩ := h
      exact Or.inr (Or.inl ⟨ht', hn, rfl⟩)
    · rename_i hn
      simp only [bind_eq, runs_broker_bind, pure_eq, runs_ret, reduceCtorEq, false_and,
        exists_false, false_or] at h
      obtain ⟨_, _, rfl, _, _, rfl, _, _, rfl, rfl, -⟩ := h
      exact Or.inr (Or.inr ⟨ht', by omega, rfl⟩)

/-- The broker calls of `_emit` when it raises: all but the last took effect. -/
theorem emit_raises {tr : MsgTrace} {e : Exc}
    (h : (emit deps msg request result).Runs tr (.error e)) :
    (isTerminal result = true ∧
      (tr = [⟨.publishResult request.replyTo result, .error e⟩] ∨
        tr = [⟨.publishResult request.replyTo result, .ok ()⟩, ⟨.ack, .error e⟩])) ∨
    (isTerminal result = false ∧ msg.numDelivered < deps.maxDeliver ∧
      tr = [⟨.nak deps.nakDelay, .error e⟩]) ∨
    (isTerminal result = false ∧ deps.maxDeliver ≤ msg.numDelivered ∧
      (tr = [⟨.publishResult request.replyTo result, .error e⟩] ∨
        tr = [⟨.publishResult request.replyTo result, .ok ()⟩,
          ⟨.publishDlq msg.data (dlqHeaders request result), .error e⟩] ∨
        tr = [⟨.publishResult request.replyTo result, .ok ()⟩,
          ⟨.publishDlq msg.data (dlqHeaders request result), .ok ()⟩, ⟨.ack, .error e⟩])) := by
  unfold emit at h
  split at h
  · rename_i ht
    simp only [bind_eq, runs_broker_bind, pure_eq, runs_ret, reduceCtorEq, and_false,
      exists_false, or_false, Except.error.injEq] at h
    rcases h with ⟨_, rfl, rfl⟩ | ⟨_, _, rfl, _, rfl, rfl⟩
    · exact Or.inl ⟨ht, Or.inl rfl⟩
    · exact Or.inl ⟨ht, Or.inr rfl⟩
  · rename_i ht
    have ht' : isTerminal result = false := by simpa using ht
    split at h
    · rename_i hn
      simp only [bind_eq, runs_broker_bind, pure_eq, runs_ret, reduceCtorEq, and_false,
        exists_false, or_false, Except.error.injEq] at h
      obtain ⟨_, rfl, rfl⟩ := h
      exact Or.inr (Or.inl ⟨ht', hn, rfl⟩)
    · rename_i hn
      have hn' : deps.maxDeliver ≤ msg.numDelivered := by omega
      simp only [bind_eq, runs_broker_bind, pure_eq, runs_ret, reduceCtorEq, and_false,
        exists_false, or_false, Except.error.injEq] at h
      rcases h with ⟨_, rfl, rfl⟩ | ⟨_, _, rfl, ⟨_, rfl, rfl⟩ | ⟨_, _, rfl, _, rfl, rfl⟩⟩
      · exact Or.inr (Or.inr ⟨ht', hn', Or.inl rfl⟩)
      · exact Or.inr (Or.inr ⟨ht', hn', Or.inr (Or.inl rfl)⟩)
      · exact Or.inr (Or.inr ⟨ht', hn', Or.inr (Or.inr rfl)⟩)

/-- `_emit` under the handler's `except`. -/
def emitGuarded (deps : HandlerDeps P ρ) (msg : Msg) (request : GenerationRequest)
    (result : GenerationResult) : Coroutine msgSig Outcome :=
  (emit deps msg request result).tryCatch fun _ => handleEmitFailure deps msg request

/-- A run of the handler is the pipeline's calls, then the broker's. -/
theorem handle_request_runs {tr : List (Event (msgSig.sum P) Exc)} {r : Except Exc Outcome}
    (h : (handleRequest deps msg request).Runs tr r) :
    ∃ pipe result emits, tr = pipe.map Event.inr ++ emits.map Event.inl ∧
      (buildResult deps request).Runs pipe (.ok result) ∧
      (emitGuarded deps msg request result).Runs emits r := by
  rcases runs_tryCatch.mp h with ⟨outcome, rfl, h₀⟩ | ⟨e, t₁, t₂, rfl, h₁, h₂⟩
  · rcases runs_bind.mp h₀ with ⟨_, hr, -⟩ | ⟨result, t₁, t₂, rfl, h₁, h₂⟩
    · cases hr
    obtain ⟨pipe, rfl, hp⟩ := runs_inr.mp h₁
    obtain ⟨emits, rfl, he⟩ := runs_inl.mp h₂
    exact ⟨pipe, result, emits, rfl, hp, runs_tryCatch.mpr (Or.inl ⟨outcome, rfl, he⟩)⟩
  · obtain ⟨failure, rfl, hf⟩ := runs_inl.mp h₂
    rcases runs_bind.mp h₁ with ⟨e', -, he⟩ | ⟨result, t₃, t₄, rfl, h₃, h₄⟩
    · obtain ⟨pipe, rfl, hp⟩ := runs_inr.mp he
      obtain ⟨_, hr⟩ := build_result_returns hp
      cases hr
    obtain ⟨pipe, rfl, hp⟩ := runs_inr.mp h₃
    obtain ⟨emits, rfl, he⟩ := runs_inl.mp h₄
    refine ⟨pipe, result, emits ++ failure, by simp, hp, ?_⟩
    exact runs_tryCatch.mpr (Or.inr ⟨e, emits, failure, rfl, he, hf⟩)

/-- The lists of broker calls of one handling, each call with its answer.
Below the bound an emit failure ends in a nak; from the bound on it ends in a
copy to the dead-letter subject and an ack, both best effort, whatever `_emit`
had already done. -/
inductive Emitted (deps : HandlerDeps P ρ) (msg : Msg) (request : GenerationRequest)
    (result : GenerationResult) : MsgTrace → Prop
  | acked (ht : isTerminal result = true) : Emitted deps msg request result
      [⟨.publishResult request.replyTo result, .ok ()⟩, ⟨.ack, .ok ()⟩]
  | unpublished (hn : msg.numDelivered < deps.maxDeliver) (ht : isTerminal result = true) (e x) :
      Emitted deps msg request result
        [⟨.publishResult request.replyTo result, .error e⟩, ⟨.nak deps.nakDelay, x⟩]
  | unacked (hn : msg.numDelivered < deps.maxDeliver) (ht : isTerminal result = true) (e x) :
      Emitted deps msg request result
        [⟨.publishResult request.replyTo result, .ok ()⟩, ⟨.ack, .error e⟩,
          ⟨.nak deps.nakDelay, x⟩]
  | naked (hn : msg.numDelivered < deps.maxDeliver) (ht : isTerminal result = false) :
      Emitted deps msg request result [⟨.nak deps.nakDelay, .ok ()⟩]
  | nakedAgain (hn : msg.numDelivered < deps.maxDeliver) (ht : isTerminal result = false) (e x) :
      Emitted deps msg request result
        [⟨.nak deps.nakDelay, .error e⟩, ⟨.nak deps.nakDelay, x⟩]
  | unpublishedAtBound (hn : deps.maxDeliver ≤ msg.numDelivered) (e hs x y) :
      Emitted deps msg request result
        [⟨.publishResult request.replyTo result, .error e⟩, ⟨.publishDlq msg.data hs, x⟩, ⟨.ack, y⟩]
  | unackedAtBound (hn : deps.maxDeliver ≤ msg.numDelivered) (ht : isTerminal result = true)
      (e hs x y) : Emitted deps msg request result
        [⟨.publishResult request.replyTo result, .ok ()⟩, ⟨.ack, .error e⟩,
          ⟨.publishDlq msg.data hs, x⟩, ⟨.ack, y⟩]
  | deadLettered (hn : deps.maxDeliver ≤ msg.numDelivered) (ht : isTerminal result = false) (hs) :
      Emitted deps msg request result
        [⟨.publishResult request.replyTo result, .ok ()⟩, ⟨.publishDlq msg.data hs, .ok ()⟩,
          ⟨.ack, .ok ()⟩]
  | deadLetterFailed (hn : deps.maxDeliver ≤ msg.numDelivered) (ht : isTerminal result = false)
      (hs e hs' x y) : Emitted deps msg request result
        [⟨.publishResult request.replyTo result, .ok ()⟩, ⟨.publishDlq msg.data hs, .error e⟩,
          ⟨.publishDlq msg.data hs', x⟩, ⟨.ack, y⟩]
  | deadLetterUnacked (hn : deps.maxDeliver ≤ msg.numDelivered) (ht : isTerminal result = false)
      (hs e hs' x y) : Emitted deps msg request result
        [⟨.publishResult request.replyTo result, .ok ()⟩, ⟨.publishDlq msg.data hs, .ok ()⟩,
          ⟨.ack, .error e⟩, ⟨.publishDlq msg.data hs', x⟩, ⟨.ack, y⟩]

theorem emit_guarded_runs {emits : MsgTrace} {r : Except Exc Outcome}
    (h : (emitGuarded deps msg request result).Runs emits r) :
    (∃ outcome, r = .ok outcome) ∧ Emitted deps msg request result emits := by
  rcases runs_tryCatch.mp h with ⟨outcome, rfl, h₁⟩ | ⟨e, t₁, t₂, rfl, h₁, h₂⟩
  · refine ⟨⟨outcome, rfl⟩, ?_⟩
    rcases emit_returns h₁ with ⟨ht, rfl⟩ | ⟨ht, hn, rfl⟩ | ⟨ht, hn, rfl⟩
    · exact .acked ht
    · exact .naked hn ht
    · exact .deadLettered hn ht _
  · rcases handle_emit_failure_runs h₂ with ⟨hn, rfl, x, rfl⟩ | ⟨hn, rfl, hs, x, y, rfl⟩
    · refine ⟨⟨_, rfl⟩, ?_⟩
      rcases emit_raises h₁ with ⟨ht, rfl | rfl⟩ | ⟨ht, -, rfl⟩ | ⟨-, hn', -⟩
      · exact .unpublished hn ht e x
      · exact .unacked hn ht e x
      · exact .nakedAgain hn ht e x
      · omega
    · refine ⟨⟨_, rfl⟩, ?_⟩
      rcases emit_raises h₁ with ⟨ht, rfl | rfl⟩ | ⟨-, hn', -⟩ | ⟨ht, -, rfl | rfl | rfl⟩
      · exact .unpublishedAtBound hn e hs x y
      · exact .unackedAtBound hn ht e hs x y
      · omega
      · exact .unpublishedAtBound hn e hs x y
      · exact .deadLetterFailed hn ht _ e hs x y
      · exact .deadLetterUnacked hn ht _ e hs x y

/-- A handling that has called the broker is past its pipeline. The calls of
the broker still to come may be taken to return. -/
theorem steps_broker {tr : List (Event (msgSig.sum P) Exc)} {q : Coroutine (msgSig.sum P) Outcome}
    (hd : deps.decode msg.data = some request) (h : Steps (handleMessage deps msg) tr q) {e : Event msgSig Exc}
    (he : e ∈ tr.filterMap Event.left?) :
    ∃ pipe result emits, (∀ y ∈ pipe, y.inr ∈ tr) ∧ (buildResult deps request).Runs pipe (.ok result) ∧
      Emitted deps msg request result emits ∧ e ∈ emits ∧ ∀ y ∈ emits, y.inl ∈ tr ∨ y.Ok := by
  obtain ⟨tr', r, hr, ha⟩ := h.extend fun
    | .inl _ => .ok ()
    | .inr _ => .error (.other "Exception" "")
  unfold handleMessage at hr
  rw [hd] at hr
  obtain ⟨pipe, result, emits, htr, hbuild, hemit⟩ := handle_request_runs hr
  obtain ⟨x, hx, hleft⟩ := List.mem_filterMap.mp he
  obtain ⟨l, l', rfl⟩ := List.append_of_mem hx
  have hpre : pipe.map Event.inr <+: l := by
    rw [List.append_assoc, List.cons_append] at htr
    exact Event.prefix_of_split (p := fun y => y.left? ≠ none)
      (List.forall_mem_map.mpr fun y _ => not_not.mpr rfl) htr.symm (by rw [hleft]; nofun)
  refine ⟨pipe, result, emits, fun y hy => ?_, hbuild, (emit_guarded_runs hemit).2, ?_, fun y hy => ?_⟩
  · exact List.mem_append_left _ (hpre.subset (List.mem_map_of_mem hy))
  · rw [← Event.filterMap_left_append pipe emits, ← htr, List.filterMap_append]
    exact List.mem_append_left _ he
  · have hmem : y.inl ∈ (l ++ x :: l') ++ tr' := htr ▸ List.mem_append_right _ (List.mem_map_of_mem hy)
    exact (List.mem_append.mp hmem).imp id fun hy' => ⟨(), ha _ hy'⟩

/-! ### The contract -/

/-- What one handling of a decodable request promises, for the delivery count
`n` and the bound `M`: `emits` are its broker calls and `r` what it ends
with. -/
structure HandlingContract (n M : ℕ) (msg : Msg) (request : GenerationRequest)
    (result : GenerationResult) (emits : MsgTrace) (r : Except Exc Outcome) : Prop where
  returns : ∃ outcome, r = .ok outcome
  /-- What is published is the result, to `reply_to`, and the raw payload. -/
  published : ∀ e ∈ emits, (e.op.isPublishResult → e.op = .publishResult request.replyTo result) ∧
    (e.op.isPublishDlq → ∃ headers, e.op = .publishDlq msg.data headers)
  noDlqBelow : n < M → ∀ e ∈ emits, ¬ e.op.isPublishDlq
  ackBelow : n < M → ∀ pre e post, emits = pre ++ e :: post → e.op.isAck →
    isTerminal result = true ∧ ⟨.publishResult request.replyTo result, .ok ()⟩ ∈ pre
  noNakAtBound : M ≤ n → ∀ e ∈ emits, ¬ e.op.isNak
  ackAtBound : M ≤ n → ∃ e ∈ emits, e.op.isAck
  publishOnce : emits.countP (fun e => e.op.isPublishResult) ≤ 1
  noTransientBelow : n < M → isTerminal result = false → ∀ e ∈ emits, ¬ e.op.isPublishResult
  /-- A message acked with nothing published: from the bound on only, and both
  publishes were tried and raised. -/
  lost : (∃ e ∈ emits, e.op.isAck ∧ e.Ok) →
    (∀ e ∈ emits, e.op.isPublishResult ∨ e.op.isPublishDlq → ¬ e.Ok) →
    M ≤ n ∧ (∀ e ∈ emits, e.op.isPublishResult ∨ e.op.isPublishDlq → e.Raised) ∧
      (∃ e ∈ emits, e.op.isPublishResult) ∧ ∃ e ∈ emits, e.op.isPublishDlq

section Contract

attribute [local simp] MsgOp.isPublishResult MsgOp.isPublishDlq MsgOp.isAck MsgOp.isNak
  Event.Ok Event.Raised

variable {emits : MsgTrace}

theorem Emitted.published (h : Emitted deps msg request result emits) : ∀ e ∈ emits,
    (e.op.isPublishResult → e.op = .publishResult request.replyTo result) ∧
      (e.op.isPublishDlq → ∃ headers, e.op = .publishDlq msg.data headers) := by
  cases h <;> simp

theorem Emitted.noDlqBelow (h : Emitted deps msg request result emits)
    (hn : msg.numDelivered < deps.maxDeliver) : ∀ e ∈ emits, ¬ e.op.isPublishDlq := by
  cases h <;> first | omega | simp

theorem Emitted.noNakAtBound (h : Emitted deps msg request result emits)
    (hn : deps.maxDeliver ≤ msg.numDelivered) : ∀ e ∈ emits, ¬ e.op.isNak := by
  cases h <;> first | omega | simp

theorem Emitted.ackAtBound (h : Emitted deps msg request result emits)
    (hn : deps.maxDeliver ≤ msg.numDelivered) : ∃ e ∈ emits, e.op.isAck := by
  cases h <;> first | omega | simp

theorem Emitted.publishOnce (h : Emitted deps msg request result emits) :
    emits.countP (fun e => e.op.isPublishResult) ≤ 1 := by
  cases h <;> simp

theorem Emitted.noTransientBelow (h : Emitted deps msg request result emits)
    (hn : msg.numDelivered < deps.maxDeliver) (ht : isTerminal result = false) :
    ∀ e ∈ emits, ¬ e.op.isPublishResult := by
  cases h <;> first | omega | simp_all

/-- Below the bound a handling that acks starts with the publish of a terminal
result. -/
theorem Emitted.headBelow (h : Emitted deps msg request result emits)
    (hn : msg.numDelivered < deps.maxDeliver) (ha : ∃ e ∈ emits, e.op.isAck) :
    isTerminal result = true ∧
      ∃ rest, emits = ⟨.publishResult request.replyTo result, .ok ()⟩ :: rest := by
  cases h with
  | acked ht => exact ⟨ht, _, rfl⟩
  | unacked _ ht => exact ⟨ht, _, rfl⟩
  | unpublished | naked | nakedAgain => simp at ha
  | _ => omega

theorem Emitted.ackBelow (h : Emitted deps msg request result emits)
    (hn : msg.numDelivered < deps.maxDeliver) {pre post : MsgTrace} {e : Event msgSig Exc}
    (he : emits = pre ++ e :: post) (ha : e.op.isAck) :
    isTerminal result = true ∧ ⟨.publishResult request.replyTo result, .ok ()⟩ ∈ pre := by
  obtain ⟨ht, rest, hr⟩ := h.headBelow hn ⟨e, by simp [he], ha⟩
  refine ⟨ht, ?_⟩
  rw [hr] at he
  rcases pre with _ | ⟨p, pre⟩
  · obtain ⟨rfl, -⟩ := List.cons.inj he
    cases ha
  · obtain ⟨rfl, -⟩ := List.cons.inj he
    exact List.mem_cons_self

/-- A handling that acks with nothing published has tried both publishes. -/
theorem Emitted.lost (h : Emitted deps msg request result emits)
    (ha : ∃ e ∈ emits, e.op.isAck ∧ e.Ok)
    (hp : ∀ e ∈ emits, e.op.isPublishResult ∨ e.op.isPublishDlq → ¬ e.Ok) :
    deps.maxDeliver ≤ msg.numDelivered ∧
      (∃ e ∈ emits, e.op.isPublishResult) ∧ ∃ e ∈ emits, e.op.isPublishDlq := by
  cases h with
  | unpublishedAtBound hn => exact ⟨hn, by simp, by simp⟩
  | unpublished | naked | nakedAgain => simp at ha
  | _ => simp at hp

/-- A call that did not return raised. -/
theorem Emitted.contract (h : Emitted deps msg request result emits) {r : Except Exc Outcome}
    (hr : ∃ outcome, r = .ok outcome) :
    HandlingContract msg.numDelivered deps.maxDeliver msg request result emits r where
  returns := hr
  published := h.published
  noDlqBelow := h.noDlqBelow
  ackBelow hn _ _ _ he ha := h.ackBelow hn he ha
  noNakAtBound := h.noNakAtBound
  ackAtBound := h.ackAtBound
  publishOnce := h.publishOnce
  noTransientBelow := h.noTransientBelow
  lost ha hp := by
    obtain ⟨hn, h₁, h₂⟩ := h.lost ha hp
    exact ⟨hn, fun e he hpub => Event.raised_of_not_ok (hp e he hpub), h₁, h₂⟩

end Contract

/-- **One handling.** Whatever the pipeline ends with and whichever broker
calls raise, a run of the handler on a decodable message is the pipeline's
calls, then broker calls that keep the contract for its result. -/
theorem handling_contract {tr : List (Event (msgSig.sum P) Exc)} {r : Except Exc Outcome}
    (hd : deps.decode msg.data = some request) (h : (handleMessage deps msg).Runs tr r) :
    ∃ pipe result emits, tr = pipe.map Event.inr ++ emits.map Event.inl ∧
      (buildResult deps request).Runs pipe (.ok result) ∧
      HandlingContract msg.numDelivered deps.maxDeliver msg request result emits r := by
  unfold handleMessage at h
  rw [hd] at h
  obtain ⟨pipe, result, emits, rfl, hp, he⟩ := handle_request_runs h
  obtain ⟨hr, hE⟩ := emit_guarded_runs he
  exact ⟨pipe, result, emits, rfl, hp, hE.contract hr⟩

end

/-! ### Handlings whose broker calls all return -/

section

variable {P : Sig} {ρ : Type} {deps : HandlerDeps P ρ} {msg : Msg} {request : GenerationRequest}
  {result : GenerationResult} {emits : MsgTrace}

/-- A failure with a flag for whether it is permanent. -/
def FailsWith (result : GenerationResult) (permanent : Prop) : Prop :=
  result.status = .failed ∧ ∃ error, result.error = some error ∧ (error.permanent = true ↔ permanent)

theorem terminal_of_failsWith {permanent : Prop} (h : FailsWith result permanent) :
    isTerminal result = true ↔ permanent := by
  obtain ⟨hs, error, he, hp⟩ := h
  rw [isTerminal, hs, he, ← hp]
  simp

/-- The broker's calls of a handling whose broker calls all returned. -/
theorem Emitted.all_ok (h : Emitted deps msg request result emits) (hok : ∀ e ∈ emits, e.Ok) :
    (isTerminal result = true ∧
      emits = [⟨.publishResult request.replyTo result, .ok ()⟩, ⟨.ack, .ok ()⟩]) ∨
    isTerminal result = false ∧
      ((msg.numDelivered < deps.maxDeliver ∧ emits = [⟨.nak deps.nakDelay, .ok ()⟩]) ∨
      (deps.maxDeliver ≤ msg.numDelivered ∧ ∃ headers,
        emits = [⟨.publishResult request.replyTo result, .ok ()⟩, ⟨.publishDlq msg.data headers, .ok ()⟩,
          ⟨.ack, .ok ()⟩])) := by
  have hhead : ∀ {op : MsgOp} {e : Exc} {tl : MsgTrace}, emits ≠ ⟨op, .error e⟩ :: tl := by
    rintro op e tl rfl
    exact Event.not_ok_mk (hok _ List.mem_cons_self)
  have hsecond : ∀ {e' : Event msgSig Exc} {op : MsgOp} {e : Exc} {tl : MsgTrace},
      emits ≠ e' :: ⟨op, .error e⟩ :: tl := by
    rintro e' op e tl rfl
    exact Event.not_ok_mk (hok _ (List.mem_cons_of_mem _ List.mem_cons_self))
  cases h with
  | acked ht => exact Or.inl ⟨ht, rfl⟩
  | naked hn ht => exact Or.inr ⟨ht, Or.inl ⟨hn, rfl⟩⟩
  | deadLettered hn ht headers => exact Or.inr ⟨ht, Or.inr ⟨hn, headers, rfl⟩⟩
  | unpublished | nakedAgain | unpublishedAtBound => exact absurd rfl hhead
  | unacked | unackedAtBound | deadLetterFailed => exact absurd rfl hsecond
  | deadLetterUnacked =>
    exact absurd (hok _ (List.mem_cons_of_mem _ (List.mem_cons_of_mem _ List.mem_cons_self))) Event.not_ok_mk

theorem Emitted.all_ok_below (h : Emitted deps msg request result emits) (hok : ∀ e ∈ emits, e.Ok)
    (hn : msg.numDelivered < deps.maxDeliver) :
    (isTerminal result = true ∧
      emits = [⟨.publishResult request.replyTo result, .ok ()⟩, ⟨.ack, .ok ()⟩]) ∨
    (isTerminal result = false ∧ emits = [⟨.nak deps.nakDelay, .ok ()⟩]) := by
  rcases h.all_ok hok with h | ⟨ht, ⟨-, he⟩ | ⟨hn', -⟩⟩
  · exact Or.inl h
  · exact Or.inr ⟨ht, he⟩
  · omega

end

/-- The wiring with bare ports, for a worker whose messages all decode to one
request. -/
def callsDeps (maxDeliver : ℕ) : HandlerDeps (portSig Unit) Unit where
  ports := Ports.calls Unit
  maxDeliver := maxDeliver
  nakDelay := 30
  startedAt := "2026-06-18T00:00:00+00:00"
  failedAt := "2026-06-18T00:00:01+00:00"
  decode := fun _ => some makeRequest

/-- A missing template, on the last delivery, with a broker that loses the
first ack: the result is out, so the copy and the second ack end it. -/
theorem handling_contract_lost_ack : ∃ pipe result emits,
    [⟨.inr (.fetch makeRequest.templateUri),
        .error (.docGen ⟨.templateNotFoundError, "gone"⟩)⟩,
      ⟨.inl (.publishResult makeRequest.replyTo (failureFromError makeRequest
        ⟨.templateNotFoundError, "gone"⟩ (callsDeps 4).startedAt none)), .ok ()⟩,
      ⟨.inl .ack, .error (.other "ConnectionClosedError" "nats")⟩,
      ⟨.inl (.publishDlq [123] [(headerRequestId, "req-1"), (headerDlqReason, "emit_failure")]),
        .ok ()⟩,
      ⟨.inl .ack, .ok ()⟩] = pipe.map Event.inr ++ emits.map Event.inl ∧
      (buildResult (callsDeps 4) makeRequest).Runs pipe (.ok result) ∧
      HandlingContract 4 4 ⟨[123], some 4⟩ makeRequest result emits (.ok .emitErrorDlq) :=
  @handling_contract _ _ (callsDeps 4) ⟨[123], some 4⟩ _ _ _ rfl
    ⟨_, _, rfl, _, _, rfl, _, _, rfl, _, _, rfl, _, _, rfl, rfl, rfl⟩

/-! ### Dead letters -/

/-- A copy of the message reached the dead-letter queue. -/
def isDlqCopy : Event msgSig Exc → Bool
  | ⟨.publishDlq _ _, .ok _⟩ => true
  | _ => false

/-- An ack raised. -/
def isAckRaised : Event msgSig Exc → Bool
  | ⟨.ack, .error _⟩ => true
  | _ => false

def dlqCopies (emits : MsgTrace) : ℕ := emits.countP isDlqCopy

/-- The calls up to the first ack that raised. -/
def beforeAckRaised (emits : MsgTrace) : MsgTrace := emits.takeWhile fun e => !isAckRaised e

/-- That ack and the calls after it. -/
def fromAckRaised (emits : MsgTrace) : MsgTrace := emits.dropWhile fun e => !isAckRaised e

/-- A success was published to `reply_to`. -/
def SuccessPublished (request : GenerationRequest) (emits : MsgTrace) : Prop :=
  ∃ result, result.status = .success ∧ ⟨.publishResult request.replyTo result, .ok ()⟩ ∈ emits

section

variable {P : Sig} {ρ : Type} {deps : HandlerDeps P ρ} {msg : Msg} {request : GenerationRequest}
  {result : GenerationResult} {emits : MsgTrace}

theorem terminal_of_success (h : result.status = .success) : isTerminal result = true := by
  simp [isTerminal, h]

theorem Emitted.terminal_of_success (h : Emitted deps msg request result emits)
    (hs : SuccessPublished request emits) : isTerminal result = true := by
  obtain ⟨result', hs, hmem⟩ := hs
  obtain ⟨-, rfl⟩ := MsgOp.publishResult.inj ((h.published _ hmem).1 rfl)
  exact DocGen.terminal_of_success hs

section

attribute [local simp] dlqCopies beforeAckRaised fromAckRaised isDlqCopy isAckRaised List.countP_cons

theorem Emitted.copies_before (h : Emitted deps msg request result emits) :
    dlqCopies (beforeAckRaised emits) ≤ 1 := by
  cases h with
  | unpublishedAtBound _ e hs x y => rcases x <;> rcases y <;> simp
  | deadLetterFailed _ _ hs e hs' x y => rcases x <;> rcases y <;> simp
  | _ => simp

/-- A handling that published a success copies the message only after an ack
that raised. -/
theorem Emitted.success_not_copied (h : Emitted deps msg request result emits)
    (hs : SuccessPublished request emits) : dlqCopies (beforeAckRaised emits) = 0 := by
  have ht := h.terminal_of_success hs
  cases h with
  | unpublishedAtBound =>
    obtain ⟨_, _, hmem⟩ := hs
    simp at hmem
  | deadLettered _ ht' | deadLetterFailed _ ht' | deadLetterUnacked _ ht' =>
    rw [ht] at ht'
    cases ht'
  | _ => simp

theorem Emitted.copies_from (h : Emitted deps msg request result emits) :
    dlqCopies (fromAckRaised emits) ≤ 1 := by
  cases h with
  | unpublishedAtBound _ e hs x y | deadLetterFailed _ _ hs e hs' x y | unackedAtBound _ _ e hs x y
  | deadLetterUnacked _ _ hs e hs' x y => rcases x <;> rcases y <;> simp
  | _ => simp

end

/-- Below the bound nothing is copied. -/
theorem Emitted.copies_below (h : Emitted deps msg request result emits)
    (hn : msg.numDelivered < deps.maxDeliver) : dlqCopies emits = 0 := by
  refine List.countP_eq_zero.mpr fun e he hcopy => h.noDlqBelow hn e he ?_
  obtain ⟨op, x⟩ := e
  cases op with
  | publishDlq => rfl
  | _ => cases hcopy

end

/-- **Dead letters.** One handling copies the message at most once before an
ack of its own raises, and not at all if it published a success; from that ack
on, which is on the last delivery, it copies it at most once more. -/
theorem dead_letters {P : Sig} {ρ : Type} {deps : HandlerDeps P ρ} {msg : Msg}
    {request : GenerationRequest} {tr : List (Event (msgSig.sum P) Exc)} {r : Except Exc Outcome}
    (hd : deps.decode msg.data = some request) (h : (handleMessage deps msg).Runs tr r) :
    let emits := tr.filterMap Event.left?
    dlqCopies (beforeAckRaised emits) ≤ 1 ∧
      (SuccessPublished request emits → dlqCopies (beforeAckRaised emits) = 0) ∧
      dlqCopies (fromAckRaised emits) ≤ 1 ∧
      (msg.numDelivered < deps.maxDeliver → dlqCopies emits = 0) := by
  unfold handleMessage at h
  rw [hd] at h
  obtain ⟨pipe, result, emits, rfl, -, he⟩ := handle_request_runs h
  obtain ⟨-, hE⟩ := emit_guarded_runs he
  rw [Event.filterMap_left_append]
  exact ⟨hE.copies_before, hE.success_not_copied, hE.copies_from, hE.copies_below⟩

/-- The last delivery of a message whose first ack raises: the handler has
dead-lettered it, and does so again. -/
def deadLetterTrace : List (Event (msgSig.sum (portSig Unit)) Exc) :=
  [⟨.inr (.fetch makeRequest.templateUri), .error (.docGen ⟨.storageError, "list"⟩)⟩,
    ⟨.inl (.publishResult makeRequest.replyTo (failureFromError makeRequest
      ⟨.storageError, "list"⟩ (callsDeps 4).startedAt none)), .ok ()⟩,
    ⟨.inl (.publishDlq [123] [(headerRequestId, "req-1"), (headerDlqReason, "STORAGE_ERROR")]), .ok ()⟩,
    ⟨.inl .ack, .error (.other "ConnectionClosedError" "nats")⟩,
    ⟨.inl (.publishDlq [123] [(headerRequestId, "req-1"), (headerDlqReason, "emit_failure")]), .ok ()⟩,
    ⟨.inl .ack, .ok ()⟩]

theorem dead_letter_trace_runs :
    (handleMessage (callsDeps 4) ⟨[123], some 4⟩).Runs deadLetterTrace (.ok .emitErrorDlq) :=
  ⟨_, _, rfl, _, _, rfl, _, _, rfl, _, _, rfl, _, _, rfl, _, _, rfl, rfl, rfl⟩

theorem dead_letters_twice : let emits := deadLetterTrace.filterMap Event.left?
    dlqCopies (beforeAckRaised emits) ≤ 1 ∧
      (SuccessPublished makeRequest emits → dlqCopies (beforeAckRaised emits) = 0) ∧
      dlqCopies (fromAckRaised emits) ≤ 1 ∧ (4 < 4 → dlqCopies emits = 0) :=
  @dead_letters _ _ (callsDeps 4) ⟨[123], some 4⟩ makeRequest _ _ rfl dead_letter_trace_runs

/-- So a message is not always copied at most once. -/
theorem dead_letter_copied_twice : ¬ ∀ (deps : HandlerDeps (portSig Unit) Unit) (msg : Msg)
    (request : GenerationRequest) (tr : List (Event (msgSig.sum (portSig Unit)) Exc))
    (r : Except Exc Outcome), deps.decode msg.data = some request →
      (handleMessage deps msg).Runs tr r →
      dlqCopies (tr.filterMap Event.left?) ≤ 1 ∧
        (SuccessPublished request (tr.filterMap Event.left?) →
          dlqCopies (tr.filterMap Event.left?) = 0) := by
  intro h
  have htwice := (h (callsDeps 4) ⟨[123], some 4⟩ makeRequest _ _ rfl dead_letter_trace_runs).1
  exact absurd htwice (by decide)

end DocGen
