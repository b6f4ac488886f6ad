/-
# Bounded redelivery of one message

One decodable message is an entry of the work queue. The broker delivers it
with the counts 1, 2, 3, ... until an ack succeeds or the server's bound is
reached (`serverMaxDeliver`); every delivery is handled by a worker of its
own, wired as it likes but for the handler's bound `M`. The handlings go on
side by side, one broker or pipeline call at a time, and any of them may be
interrupted for good (a crash, a cancellation). The broker may deliver again
at any moment while no ack has succeeded: after a nak, after `ack_wait`, after
a crash, or with an earlier handling still running.

The invariant is that each delivery's calls so far are an initial part of a
run of the handler for its count (`Entry.Traced`); what a whole run promises
(`Emitted`) then holds of the part (`broker_prefix`).
-/
import DocGen.Handling
import Mathlib.Logic.Relation

namespace DocGen

open Prog

/-- One delivery: the calls its handling has made, what is left of it, and
whether it was interrupted. -/
structure Delivery (P : Sig) where
  history : List (Event (msgSig.sum P) Exc)
  rest : Coroutine (msgSig.sum P) Outcome
  interrupted : Bool

namespace Delivery

variable {P : Sig}

/-- The broker calls the handling has made. -/
def broker (d : Delivery P) : MsgTrace := d.history.filterMap Event.left?

/-- The handling has come to its end: it returned, or it raised. -/
def Finished (d : Delivery P) : Prop := ∃ r, d.rest = ofExcept r

/-- The handling has a call left to make. -/
def Unfinished (d : Delivery P) : Prop := ∃ op k, d.rest = .call op k

theorem finished_or_unfinished (d : Delivery P) : d.Finished ∨ d.Unfinished := by
  obtain ⟨history, rest, interrupted⟩ := d
  cases rest with
  | ret outcome => exact Or.inl ⟨.ok outcome, rfl⟩
  | raise exc => exact Or.inl ⟨.error exc, rfl⟩
  | call op k => exact Or.inr ⟨op, k, rfl⟩

/-- The handling was stopped before its end. -/
def Interrupted (d : Delivery P) : Prop := d.interrupted = true ∧ d.Unfinished

/-- The handling goes on. -/
def Running (d : Delivery P) : Prop := d.interrupted = false ∧ d.Unfinished

/-- The handling has tried to ack, and every ack it tried raised. -/
def AcksFailed (d : Delivery P) : Prop :=
  (∃ e ∈ d.broker, e.op.isAck) ∧ ∀ e ∈ d.broker, e.op.isAck → e.Raised

end Delivery

/-- The entry of the work queue: its deliveries, the first one first. The
delivery at `i` has the count `i + 1`. -/
structure Entry (P : Sig) where
  deliveries : List (Delivery P)

namespace Entry

variable {P : Sig} {ρ : Type}

def start : Entry P := ⟨[]⟩

/-- Some ack of some delivery succeeded. -/
def Acked (s : Entry P) : Prop := ∃ d ∈ s.deliveries, ∃ e ∈ d.broker, e.op.isAck ∧ e.Ok

/-- The steps of the broker and of the handlings, for the body `data` that
decodes to `request`. -/
inductive Step (ρ : Type) (M : ℕ) (data : Bytes) (request : GenerationRequest) :
    Entry P → Entry P → Prop
  | deliver {s : Entry P} (deps : HandlerDeps P ρ) (hM : deps.maxDeliver = M)
      (hd : deps.decode data = some request) (ha : ¬ s.Acked)
      (hn : s.deliveries.length < serverMaxDeliver M) :
      Step ρ M data request s
        ⟨s.deliveries ++ [⟨[], handleMessage deps ⟨data, some (s.deliveries.length + 1)⟩, false⟩]⟩
  | call {s : Entry P} (i : ℕ) {h op k} (hi : s.deliveries[i]? = some ⟨h, .call op k, false⟩) (x) :
      Step ρ M data request s ⟨s.deliveries.set i ⟨h ++ [⟨op, x⟩], k x, false⟩⟩
  | interrupt {s : Entry P} (i : ℕ) {d} (hi : s.deliveries[i]? = some d) :
      Step ρ M data request s ⟨s.deliveries.set i { d with interrupted := true }⟩

def Reach (ρ : Type) (M : ℕ) (data : Bytes) (request : GenerationRequest) : Entry P → Prop :=
  Relation.ReflTransGen (Step ρ M data request) start

variable {M : ℕ} {data : Bytes} {request : GenerationRequest} {s t : Entry P}

/-- The invariant: at most `M + 1` deliveries, each with the calls of its own
handler so far. -/
structure Traced (ρ : Type) (M : ℕ) (data : Bytes) (request : GenerationRequest) (s : Entry P) :
    Prop where
  bound : s.deliveries.length ≤ serverMaxDeliver M
  steps : ∀ i d, s.deliveries[i]? = some d → ∃ deps : HandlerDeps P ρ, deps.maxDeliver = M ∧
    deps.decode data = some request ∧
      Steps (handleMessage deps ⟨data, some (i + 1)⟩) d.history d.rest

theorem traced_start : Traced ρ M data request (start : Entry P) :=
  ⟨Nat.zero_le _, fun i d h => by simp [start] at h⟩

/-- Every step keeps the invariant. -/
theorem traced_step (h : Traced ρ M data request s) (hs : Step ρ M data request s t) :
    Traced ρ M data request t := by
  cases hs with
  | deliver deps hM hd _ hn =>
    refine ⟨by simpa using Nat.succ_le_of_lt hn, fun i d hi => ?_⟩
    simp only [List.getElem?_append, List.getElem?_singleton] at hi
    split at hi
    · exact h.steps i d hi
    · split at hi
      · rename_i hi' h0
        obtain rfl := Option.some.inj hi
        have : i = s.deliveries.length := by omega
        exact ⟨deps, hM, hd, this ▸ .nil⟩
      · cases hi
  | @call i hist op k hi x =>
    refine ⟨by simpa using h.bound, fun j d hj => ?_⟩
    simp only [List.getElem?_set] at hj
    split at hj
    · rename_i hij
      subst hij
      split at hj
      · obtain rfl := Option.some.inj hj
        obtain ⟨deps, hM, hd, hst⟩ := h.steps i _ hi
        exact ⟨deps, hM, hd, hst.snoc x⟩
      · cases hj
    · exact h.steps j d hj
  | @interrupt i d' hi =>
    refine ⟨by simpa using h.bound, fun j d hj => ?_⟩
    simp only [List.getElem?_set] at hj
    split at hj
    · rename_i hij
      subst hij
      split at hj
      · obtain rfl := Option.some.inj hj
        exact h.steps i d' hi
      · cases hj
    · exact h.steps j d hj

theorem traced_reach (h : Reach ρ M data request s) : Traced ρ M data request s := by
  induction h with
  | refl => exact traced_start
  | tail _ hs ih => exact traced_step ih hs

end Entry

/-! ### What a part of a handling has done -/

section

variable {P : Sig} {ρ : Type} {deps : HandlerDeps P ρ} {msg : Msg} {request : GenerationRequest}
  {tr : List (Event (msgSig.sum P) Exc)} {q : Coroutine (msgSig.sum P) Outcome}

/-- The broker calls of an initial part of a handling begin a list of calls
that a whole handling can make. -/
theorem broker_prefix (h : Steps (handleMessage deps msg) tr q)
    (hd : deps.decode msg.data = some request) :
    ∃ result emits, Emitted deps msg request result emits ∧ tr.filterMap Event.left? <+: emits := by
  obtain ⟨tr', r, hr, -⟩ := h.extend fun _ => .error (.other "Exception" "")
  unfold handleMessage at hr
  rw [hd] at hr
  obtain ⟨pipe, result, emits, htr, -, he⟩ := handle_request_runs hr
  refine ⟨result, emits, (emit_guarded_runs he).2, tr'.filterMap Event.left?, ?_⟩
  rw [← List.filterMap_append, htr, Event.filterMap_left_append]

/-- A handling that has come to its end, however it ended, made one of the
whole lists. -/
theorem broker_finished {r : Except Exc Outcome} (h : Steps (handleMessage deps msg) tr (ofExcept r))
    (hd : deps.decode msg.data = some request) :
    ∃ result, Emitted deps msg request result (tr.filterMap Event.left?) := by
  have hr := h.runs (runs_ofExcept.mpr ⟨rfl, rfl⟩)
  unfold handleMessage at hr
  rw [hd, List.append_nil] at hr
  obtain ⟨pipe, result, emits, rfl, -, he⟩ := handle_request_runs hr
  refine ⟨result, ?_⟩
  rw [Event.filterMap_left_append]
  exact (emit_guarded_runs he).2

section

attribute [local simp] MsgOp.isPublishResult MsgOp.isPublishDlq MsgOp.isAck MsgOp.isNak Event.Raised

/-- A handling naks at most twice, and the second time only when the first
nak raised. -/
theorem Emitted.naks {result : GenerationResult} {emits : MsgTrace}
    (h : Emitted deps msg request result emits) :
    emits.countP (fun e => e.op.isNak) ≤ 2 ∧
      emits.Pairwise fun e e' => e.op.isNak → e'.op.isNak → e.Raised := by
  cases h <;> simp

end

/-- What a delivery numbered `n` has done at any moment. -/
structure DeliveryBounds (n M : ℕ) (broker : MsgTrace) : Prop where
  nakBelow : ∀ e ∈ broker, e.op.isNak → n < M
  naks : broker.countP (fun e => e.op.isNak) ≤ 2
  nakAgain : broker.Pairwise fun e e' => e.op.isNak → e'.op.isNak → e.Raised
  dlqAtBound : ∀ e ∈ broker, e.op.isPublishDlq → M ≤ n
  publishOnce : broker.countP (fun e => e.op.isPublishResult) ≤ 1

theorem delivery_bounds (h : Steps (handleMessage deps msg) tr q)
    (hd : deps.decode msg.data = some request) :
    DeliveryBounds msg.numDelivered deps.maxDeliver (tr.filterMap Event.left?) := by
  obtain ⟨result, emits, hE, hp⟩ := broker_prefix h hd
  have hs := hp.sublist
  refine ⟨fun e he hn => ?_, (hs.countP_le ..).trans hE.naks.1, hE.naks.2.sublist hs,
    fun e he hn => ?_, (hs.countP_le ..).trans hE.publishOnce⟩
  · by_contra hlt
    exact hE.noNakAtBound (by omega) e (hs.subset he) hn
  · by_contra hlt
    exact hE.noDlqBelow (by omega) e (hs.subset he) hn

end

namespace Entry

variable {P : Sig} {ρ : Type} {M : ℕ} {data : Bytes} {request : GenerationRequest} {s : Entry P}

/-- A finished handling at the bound tried to ack; if no ack of the entry
succeeded, each one it tried raised. -/
theorem acks_failed (h : Traced ρ M data request s) (ha : ¬ s.Acked) {i : ℕ} {d : Delivery P}
    (hi : s.deliveries[i]? = some d) (hM : M ≤ i + 1) (hf : d.Finished) : d.AcksFailed := by
  obtain ⟨deps, rfl, hd, hst⟩ := h.steps i d hi
  obtain ⟨r, hr⟩ := hf
  rw [hr] at hst
  obtain ⟨result, hE⟩ := broker_finished hst hd
  refine ⟨hE.ackAtBound hM, fun e he hack => Event.raised_of_not_ok fun hok => ha ?_⟩
  exact ⟨d, List.mem_of_getElem? hi, e, he, hack, hok⟩

/-- **Bounded redelivery.** In every reachable state: there are at most `M + 1`
deliveries, each within its bounds; and when all `M + 1` are used with no ack,
each of the deliveries `M` and `M + 1` has a call of its handler still to
make, was interrupted before such a call, or tried to ack and failed every
time. -/
theorem redelivery_bounded (h : Reach ρ M data request s) :
    s.deliveries.length ≤ M + 1 ∧
    (∀ i d, s.deliveries[i]? = some d → DeliveryBounds (i + 1) M d.broker) ∧
    (s.deliveries.length = M + 1 → ¬ s.Acked → ∀ i d, s.deliveries[i]? = some d →
      i + 1 = M ∨ i + 1 = M + 1 → d.Running ∨ d.Interrupted ∨ d.AcksFailed) := by
  have hT := traced_reach h
  refine ⟨hT.bound, fun i d hi => ?_, fun _ ha i d hi hM => ?_⟩
  · obtain ⟨deps, rfl, hd, hst⟩ := hT.steps i d hi
    exact delivery_bounds hst hd
  · rcases d.finished_or_unfinished with hf | hu
    · exact Or.inr (Or.inr (acks_failed hT ha hi (by omega) hf))
    · cases hint : d.interrupted
      · exact Or.inl ⟨hint, hu⟩
      · exact Or.inr (Or.inl ⟨hint, hu⟩)

/-- A handling that is not interrupted may go on. -/
theorem Reach.calls {hist tr : List (Event (msgSig.sum P) Exc)} {p q : Coroutine (msgSig.sum P) Outcome}
    (hs : Steps p tr q) (h : Reach ρ M data request s) {i : ℕ} (hi : s.deliveries[i]? = some ⟨hist, p, false⟩) :
    Reach ρ M data request ⟨s.deliveries.set i ⟨hist ++ tr, q, false⟩⟩ := by
  induction hs generalizing s hist with
  | nil =>
    obtain ⟨hlt, hget⟩ := List.getElem?_eq_some_iff.mp hi
    rw [List.append_nil, ← hget, List.set_getElem_self]
    exact h
  | @cons op k x tr q _ ih =>
    have hlt := (List.getElem?_eq_some_iff.mp hi).1
    have hnext := ih (h.tail (.call i hi x)) (List.getElem?_set_self hlt)
    rw [List.set_set, List.append_assoc] at hnext
    exact hnext

/-- The broker delivers, and the handling makes the calls `tr`. -/
theorem Reach.handled (deps : HandlerDeps P ρ) {tr : List (Event (msgSig.sum P) Exc)}
    {q : Coroutine (msgSig.sum P) Outcome} (h : Reach ρ deps.maxDeliver data request s)
    (hd : deps.decode data = some request) (ha : ¬ s.Acked)
    (hn : s.deliveries.length < serverMaxDeliver deps.maxDeliver)
    (hs : Steps (handleMessage deps ⟨data, some (s.deliveries.length + 1)⟩) tr q) :
    Reach ρ deps.maxDeliver data request ⟨s.deliveries ++ [⟨tr, q, false⟩]⟩ := by
  have hcalls := Reach.calls hs (h.tail (.deliver deps rfl hd ha hn)) (List.getElem?_concat_length ..)
  simpa using hcalls

/-- The storage is out of reach and the delivery is below the bound. -/
def nakedTrace : List (Event (msgSig.sum (portSig Unit)) Exc) :=
  [⟨.inr (.fetch makeRequest.templateUri), .error (.docGen ⟨.storageError, "list"⟩)⟩, ⟨.inl (.nak 30), .ok ()⟩]

/-- The same at the bound, and no ack gets through. -/
def unackedTrace : List (Event (msgSig.sum (portSig Unit)) Exc) :=
  [⟨.inr (.fetch makeRequest.templateUri), .error (.docGen ⟨.storageError, "list"⟩)⟩,
    ⟨.inl (.publishResult makeRequest.replyTo (failureFromError makeRequest
      ⟨.storageError, "list"⟩ (callsDeps 2).startedAt none)), .ok ()⟩,
    ⟨.inl (.publishDlq [123] [(headerRequestId, "req-1"), (headerDlqReason, "STORAGE_ERROR")]), .ok ()⟩,
    ⟨.inl .ack, .error (.other "ConnectionClosedError" "nats")⟩,
    ⟨.inl (.publishDlq [123] [(headerRequestId, "req-1"), (headerDlqReason, "emit_failure")]), .ok ()⟩,
    ⟨.inl .ack, .error (.other "ConnectionClosedError" "nats")⟩]

theorem nakedTrace_steps : Steps (handleMessage (callsDeps 2) ⟨[123], some 1⟩) nakedTrace (.ret .nak) :=
  .cons (.cons .nil)

theorem unackedTrace_steps (n : ℕ) :
    Steps (handleMessage (callsDeps 2) ⟨[123], some (n + 2)⟩) unackedTrace (.ret .emitErrorDlq) :=
  .cons (.cons (.cons (.cons (.cons (.cons .nil)))))

/-- With the bound 2, three deliveries: the first one naks, the other two copy
the message to the dead-letter queue and fail to ack it. -/
def abandoned : Entry (portSig Unit) :=
  ⟨[⟨nakedTrace, .ret .nak, false⟩, ⟨unackedTrace, .ret .emitErrorDlq, false⟩,
    ⟨unackedTrace, .ret .emitErrorDlq, false⟩]⟩

theorem abandoned_not_acked : ¬ abandoned.Acked := by
  simp [Acked, abandoned, Delivery.broker, nakedTrace, unackedTrace, Event.left?, MsgOp.isAck, Event.Ok]

theorem Acked.mono (h : s.Acked) {t : Entry P} (hsub : s.deliveries ⊆ t.deliveries) : t.Acked := by
  obtain ⟨d, hd, hack⟩ := h
  exact ⟨d, hsub hd, hack⟩

theorem abandoned_reach : Reach Unit 2 [123] makeRequest abandoned := by
  have hfresh {s : Entry (portSig Unit)} (hsub : s.deliveries ⊆ abandoned.deliveries) : ¬ s.Acked :=
    fun hack => abandoned_not_acked (hack.mono hsub)
  have h₁ : Reach Unit 2 [123] makeRequest ⟨[⟨nakedTrace, .ret .nak, false⟩]⟩ :=
    Reach.handled (callsDeps 2) .refl rfl (hfresh (by simp [start])) (by decide) nakedTrace_steps
  have h₂ : Reach Unit 2 [123] makeRequest
      ⟨[⟨nakedTrace, .ret .nak, false⟩, ⟨unackedTrace, .ret .emitErrorDlq, false⟩]⟩ :=
    Reach.handled (callsDeps 2) h₁ rfl (hfresh (by simp [abandoned])) (by decide) (unackedTrace_steps 0)
  exact Reach.handled (callsDeps 2) h₂ rfl (hfresh (by simp [abandoned])) (by decide) (unackedTrace_steps 1)

/-- So the budget can run out: nothing is acked, and each of the last two
deliveries tried to ack and failed every time. -/
theorem redelivery_bounded_abandoned :
    abandoned.deliveries.length = 3 ∧ ¬ abandoned.Acked ∧
      (∀ i d, abandoned.deliveries[i]? = some d → DeliveryBounds (i + 1) 2 d.broker) ∧
      (⟨unackedTrace, .ret .emitErrorDlq, false⟩ : Delivery (portSig Unit)).AcksFailed := by
  obtain ⟨-, hbounds, hlast⟩ := redelivery_bounded abandoned_reach
  refine ⟨rfl, abandoned_not_acked, hbounds, ?_⟩
  -- the handler of the delivery has returned
  have hdone : ¬ (⟨unackedTrace, .ret .emitErrorDlq, false⟩ : Delivery (portSig Unit)).Unfinished := nofun
  rcases hlast rfl abandoned_not_acked 1 _ rfl (Or.inl rfl) with hrun | hint | hfailed
  · exact absurd hrun.2 hdone
  · exact absurd hint.2 hdone
  · exact hfailed

end Entry

end DocGen
