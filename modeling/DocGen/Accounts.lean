/-
# Where a message ends up

`Redelivery.lean` bounds what the broker and the workers do with one message.
Here the message is followed to its ends: the results that reached `reply_to`
and the copies that reached the dead-letter subject, over all of its
deliveries together. In every reachable state a delivery that was acked, or
that has come to its end at the handler's bound, left a result or a copy, or
tried both publishes and saw both raise; and what the requester and the
dead-letter queue receive is bounded, whatever was interrupted or delivered
again meanwhile.

A successful ack is the last broker call of a handling, so a handling that
has made one has made a whole list of `Emitted`.
-/
import DocGen.Lib.Lists
import DocGen.Redelivery
import DocGen.Transport

namespace DocGen

open Prog

/-! ### Published -/

/-- The result a call put on a subject. -/
def resultOut : Event msgSig Exc → Option (String × GenerationResult)
  | ⟨.publishResult subject result, .ok _⟩ => some (subject, result)
  | _ => none

/-- The body a call copied to the dead-letter subject. -/
def copyOut : Event msgSig Exc → Option Bytes
  | ⟨.publishDlq payload _, .ok _⟩ => some payload
  | _ => none

theorem resultOut_eq_some {e : Event msgSig Exc} {out : String × GenerationResult} :
    resultOut e = some out ↔ e = ⟨.publishResult out.1 out.2, .ok ()⟩ := by
  obtain ⟨op, x⟩ := e
  rcases op with ⟨s, r⟩ | _ | _ | _ <;> rcases x with _ | _ <;> simp [resultOut, Prod.ext_iff]

theorem copyOut_eq_some {e : Event msgSig Exc} {payload : Bytes} :
    copyOut e = some payload ↔ ∃ headers, e = ⟨.publishDlq payload headers, .ok ()⟩ := by
  obtain ⟨op, x⟩ := e
  rcases op with _ | ⟨p, hs⟩ | _ | _ <;> rcases x with _ | _ <;> simp [copyOut]

/-- Both publishes were tried, and raised. -/
structure Lost (calls : MsgTrace) : Prop where
  result : ∃ e ∈ calls, e.op.isPublishResult
  copy : ∃ e ∈ calls, e.op.isPublishDlq
  raised : ∀ e ∈ calls, e.op.isPublishResult ∨ e.op.isPublishDlq → e.Raised

/-- Something is out, or everything was tried. -/
def AccountedFor (calls : MsgTrace) : Prop :=
  calls.filterMap resultOut ≠ [] ∨ calls.filterMap copyOut ≠ [] ∨ Lost calls

/-- A publish that returned has put something out. -/
theorem accounted_of_ok {calls : MsgTrace} {e : Event msgSig Exc} (he : e ∈ calls) (hok : e.Ok)
    (hp : e.op.isPublishResult ∨ e.op.isPublishDlq) : AccountedFor calls := by
  obtain ⟨op, x⟩ := e
  rcases x with x | a
  · exact absurd hok Event.not_ok_mk
  · cases op with
    | publishResult s r => exact Or.inl (List.ne_nil_of_mem (List.mem_filterMap.mpr ⟨_, he, rfl⟩))
    | publishDlq p hs => exact Or.inr (Or.inl (List.ne_nil_of_mem (List.mem_filterMap.mpr ⟨_, he, rfl⟩)))
    | ack | nak => simp [MsgOp.isPublishResult, MsgOp.isPublishDlq] at hp

theorem accounted_of_tried {calls : MsgTrace} (hr : ∃ e ∈ calls, e.op.isPublishResult)
    (hc : ∃ e ∈ calls, e.op.isPublishDlq) : AccountedFor calls := by
  by_cases h : ∃ e ∈ calls, (e.op.isPublishResult ∨ e.op.isPublishDlq) ∧ e.Ok
  · obtain ⟨e, he, hp, hok⟩ := h
    exact accounted_of_ok he hok hp
  · refine Or.inr (Or.inr ⟨hr, hc, fun e he hp => Event.raised_of_not_ok fun hok => h ⟨e, he, hp, hok⟩⟩)

/-! ### One handling -/

section

variable {P : Sig} {ρ : Type} {deps : HandlerDeps P ρ} {msg : Msg} {request : GenerationRequest}
  {result : GenerationResult} {emits part : MsgTrace}

section

attribute [local simp] MsgOp.isPublishResult MsgOp.isPublishDlq MsgOp.isAck MsgOp.isNak

/-- After an ack that returned the handling makes no further call. -/
theorem Emitted.ack_last (h : Emitted deps msg request result emits) :
    ∀ e ∈ emits.dropLast, e.op.isAck → ¬ e.Ok := by
  cases h <;> simp [Event.Ok]

theorem Emitted.copyTwice (h : Emitted deps msg request result emits) :
    emits.countP (fun e => e.op.isPublishDlq) ≤ 2 := by
  cases h <;> simp

/-- From the bound on the result is published, or both publishes are tried. -/
theorem Emitted.accounted_at_bound (h : Emitted deps msg request result emits)
    (hn : deps.maxDeliver ≤ msg.numDelivered) : AccountedFor emits := by
  cases h with
  | unpublishedAtBound => exact accounted_of_tried (by simp) (by simp)
  | acked | unackedAtBound | deadLettered | deadLetterFailed | deadLetterUnacked =>
    exact accounted_of_ok List.mem_cons_self Event.ok_mk (Or.inl rfl)
  | _ => omega

end

/-- A handling that acked published something, or tried both publishes. -/
theorem Emitted.accounted_of_ack (h : Emitted deps msg request result emits)
    (ha : ∃ e ∈ emits, e.op.isAck ∧ e.Ok) : AccountedFor emits := by
  by_cases hp : ∃ e ∈ emits, (e.op.isPublishResult ∨ e.op.isPublishDlq) ∧ e.Ok
  · obtain ⟨e, he, hpub, hok⟩ := hp
    exact accounted_of_ok he hok hpub
  · obtain ⟨-, hr, hc⟩ := h.lost ha fun e he hpub hok => hp ⟨e, he, hpub, hok⟩
    exact accounted_of_tried hr hc

/-- A part of a handling that has acked is the whole of it. -/
theorem Emitted.whole_of_ack (h : Emitted deps msg request result emits) (hp : part <+: emits)
    (ha : ∃ e ∈ part, e.op.isAck ∧ e.Ok) : part = emits := by
  refine (prefix_eq_or_dropLast hp).resolve_right fun hlast => ?_
  obtain ⟨e, he, hack, hok⟩ := ha
  exact h.ack_last e (hlast.subset he) hack hok

/-- At most one result, and at most two copies. -/
theorem Emitted.outputs (h : Emitted deps msg request result emits) (hp : part <+: emits) :
    (part.filterMap resultOut).length ≤ 1 ∧ (part.filterMap copyOut).length ≤ 2 := by
  rw [List.length_filterMap_eq_countP, List.length_filterMap_eq_countP]
  refine ⟨le_trans ?_ ((hp.sublist.countP_le ..).trans h.publishOnce),
    le_trans ?_ ((hp.sublist.countP_le ..).trans h.copyTwice)⟩
  · refine List.countP_mono_left fun e _ he => ?_
    obtain ⟨out, hout⟩ := Option.isSome_iff_exists.mp he
    rw [resultOut_eq_some.mp hout]
    rfl
  · refine List.countP_mono_left fun e _ he => ?_
    obtain ⟨out, hout⟩ := Option.isSome_iff_exists.mp he
    obtain ⟨headers, rfl⟩ := copyOut_eq_some.mp hout
    rfl

end

/-! ### All deliveries -/

namespace Delivery

variable {P : Sig}

/-- The results the handling put on a subject, in order. -/
def results (d : Delivery P) : List (String × GenerationResult) := d.broker.filterMap resultOut

/-- The bodies it copied to the dead-letter subject. -/
def copies (d : Delivery P) : List Bytes := d.broker.filterMap copyOut

/-- An ack of the handling returned. -/
def Acked (d : Delivery P) : Prop := ∃ e ∈ d.broker, e.op.isAck ∧ e.Ok

end Delivery

namespace Entry

variable {P : Sig} {ρ : Type} {M : ℕ} {data : Bytes} {request : GenerationRequest} {s : Entry P}

def results (s : Entry P) : List (String × GenerationResult) := s.deliveries.flatMap Delivery.results

def copies (s : Entry P) : List Bytes := s.deliveries.flatMap Delivery.copies

/-- A delivery's part in the account, for the count `n`. -/
structure Account (M : ℕ) (data : Bytes) (request : GenerationRequest) (n : ℕ) (d : Delivery P) : Prop where
  /-- An acked delivery, and one that ended at the bound, left something or
  lost both. -/
  accounted : d.Acked ∨ (M ≤ n ∧ d.Finished) → AccountedFor d.broker
  lostAtBound : Lost d.broker → M ≤ n
  resultOnce : d.results.length ≤ 1
  copyTwice : d.copies.length ≤ 2
  copyAtBound : n < M → d.copies = []
  terminalBelow : n < M → ∀ out ∈ d.results, isTerminal out.2 = true
  reported : ∀ out ∈ d.results, out.1 = request.replyTo ∧ Reported request out.2
  copied : ∀ body ∈ d.copies, body = data

/-- What a handling has done at any moment keeps its part of the account. -/
theorem account_of_steps {deps : HandlerDeps P ρ} {msg : Msg} {d : Delivery P}
    (hd : deps.decode msg.data = some request) (h : Steps (handleMessage deps msg) d.history d.rest) :
    Account deps.maxDeliver msg.data request msg.numDelivered d := by
  obtain ⟨result, emits, hE, hp⟩ := broker_prefix h hd
  have hbounds := delivery_bounds h hd
  have hout := hE.outputs hp
  refine ⟨fun hdone => ?_, fun hlost => ?_, hout.1, hout.2, fun hn => ?_, fun hn out hmem => ?_,
    fun out hmem => ?_, fun body hmem => ?_⟩
  · rcases hdone with hack | ⟨hn, r, hrest⟩
    · have hwhole : d.broker = emits := hE.whole_of_ack hp hack
      rw [hwhole]
      exact hE.accounted_of_ack (hwhole ▸ hack)
    · rw [hrest] at h
      obtain ⟨result', hE'⟩ := broker_finished h hd
      exact hE'.accounted_at_bound hn
  · obtain ⟨e, he, hcopy⟩ := hlost.copy
    exact hbounds.dlqAtBound e he hcopy
  · refine List.filterMap_eq_nil_iff.mpr fun e he => Option.not_isSome_iff_eq_none.mp fun hs => ?_
    obtain ⟨body, hbody⟩ := Option.isSome_iff_exists.mp hs
    obtain ⟨headers, rfl⟩ := copyOut_eq_some.mp hbody
    exact absurd (hbounds.dlqAtBound _ he rfl) (not_le.mpr hn)
  · obtain ⟨e, he, hres⟩ := List.mem_filterMap.mp hmem
    have heq := resultOut_eq_some.mp hres
    subst heq
    by_contra hterm
    obtain ⟨-, hr⟩ := MsgOp.publishResult.inj ((hE.published _ (hp.subset he)).1 rfl)
    rw [hr] at hterm
    exact hE.noTransientBelow hn (by simpa using hterm) _ (hp.subset he) rfl
  · obtain ⟨e, he, hres⟩ := List.mem_filterMap.mp hmem
    have heq := resultOut_eq_some.mp hres
    subst heq
    obtain ⟨pipe, result', emits', -, hbuild, hE', hin, -⟩ := steps_broker hd h he
    obtain ⟨hs, hr⟩ := MsgOp.publishResult.inj ((hE'.published _ hin).1 rfl)
    rw [hs, hr]
    exact ⟨rfl, build_result_reported hbuild⟩
  · obtain ⟨e, he, hcopy⟩ := List.mem_filterMap.mp hmem
    obtain ⟨headers, rfl⟩ := copyOut_eq_some.mp hcopy
    obtain ⟨_, hop⟩ := (hE.published _ (hp.subset he)).2 rfl
    exact (MsgOp.publishDlq.inj hop).1

theorem Traced.account (h : Traced ρ M data request s) {i : ℕ} {d : Delivery P}
    (hi : s.deliveries[i]? = some d) : Account M data request (i + 1) d := by
  obtain ⟨deps, rfl, hd, hst⟩ := h.steps i d hi
  exact @account_of_steps _ _ _ _ ⟨data, some (i + 1)⟩ _ hd hst

theorem Traced.account_mem (h : Traced ρ M data request s) {d : Delivery P} (hd : d ∈ s.deliveries) :
    ∃ n, Account M data request n d := by
  obtain ⟨i, hi⟩ := List.mem_iff_getElem?.mp hd
  exact ⟨_, h.account hi⟩

/-- The deliveries from the bound on are two at most. -/
theorem Traced.at_bound (h : Traced ρ M data request s) : s.deliveries.length - (M - 1) ≤ 2 := by
  have hb := h.bound
  unfold serverMaxDeliver at hb
  omega

/-- **No silent loss.** In every reachable state, an acked delivery, and one
that came to its end at the bound, put a result or a copy of the message out,
or tried both and saw both raise, which takes the bound. All deliveries
together put out at most `M + 1` results, each one a result of the request,
at most two of them not final, and at most four copies, each one the message
as it came. -/
theorem message_accounted (h : Reach ρ M data request s) :
    (∀ i d, s.deliveries[i]? = some d → (d.Acked ∨ (M ≤ i + 1 ∧ d.Finished) → AccountedFor d.broker) ∧
      (Lost d.broker → M ≤ i + 1)) ∧
    s.results.length ≤ M + 1 ∧
    (s.results.filter fun out => !isTerminal out.2).length ≤ 2 ∧
    s.copies.length ≤ 4 ∧
    (∀ out ∈ s.results, out.1 = request.replyTo ∧ Reported request out.2) ∧
    ∀ body ∈ s.copies, body = data := by
  have hT := traced_reach h
  have hb : s.deliveries.length ≤ M + 1 := hT.bound
  have htwo := hT.at_bound
  refine ⟨fun i d hi => ⟨(hT.account hi).accounted, (hT.account hi).lostAtBound⟩, ?_, ?_, ?_,
    fun out hout => ?_, fun body hbody => ?_⟩
  · have hlen : s.results.length ≤ 1 * (s.deliveries.length - 0) :=
      flatMap_length_le (fun i d _ hk => absurd hk (Nat.not_lt_zero i)) fun i d hi => (hT.account hi).resultOnce
    omega
  · have hlen : (s.deliveries.flatMap fun d => d.results.filter fun out => !isTerminal out.2).length ≤
        1 * (s.deliveries.length - (M - 1)) := by
      refine flatMap_length_le (fun i d hi hk => ?_) fun i d hi => ?_
      · refine List.filter_eq_nil_iff.mpr fun out hout => ?_
        simp [(hT.account hi).terminalBelow (by omega) out hout]
      · exact (List.length_filter_le _ _).trans (hT.account hi).resultOnce
    rw [results, List.filter_flatMap]
    omega
  · have hlen : s.copies.length ≤ 2 * (s.deliveries.length - (M - 1)) :=
      flatMap_length_le (fun i d hi hk => (hT.account hi).copyAtBound (by omega))
        fun i d hi => (hT.account hi).copyTwice
    omega
  · obtain ⟨d, hd, hmem⟩ := List.mem_flatMap.mp hout
    obtain ⟨n, hacc⟩ := hT.account_mem hd
    exact hacc.reported out hmem
  · obtain ⟨d, hd, hmem⟩ := List.mem_flatMap.mp hbody
    obtain ⟨n, hacc⟩ := hT.account_mem hd
    exact hacc.copied body hmem

/-! ### A loss -/

/-- The only delivery, with the storage and the stream out of reach: only the
ack gets through. -/
def lostTrace : List (Event (msgSig.sum (portSig Unit)) Exc) :=
  [⟨.inr (.fetch makeRequest.templateUri), .error (.docGen ⟨.storageError, "list"⟩)⟩,
    ⟨.inl (.publishResult makeRequest.replyTo (failureFromError makeRequest
      ⟨.storageError, "list"⟩ (callsDeps 1).startedAt none)), .error (.other "TimeoutError" "nats")⟩,
    ⟨.inl (.publishDlq [123] [(headerRequestId, "req-1"), (headerDlqReason, "emit_failure")]),
      .error (.other "TimeoutError" "nats")⟩,
    ⟨.inl .ack, .ok ()⟩]

theorem lostTrace_steps :
    Steps (handleMessage (callsDeps 1) ⟨[123], some 1⟩) lostTrace (.ret .emitErrorDlq) :=
  .cons (.cons (.cons (.cons .nil)))

/-- The entry after it. -/
def lost : Entry (portSig Unit) := ⟨[⟨lostTrace, .ret .emitErrorDlq, false⟩]⟩

theorem lost_reach : Reach Unit 1 [123] makeRequest lost :=
  Reach.handled (callsDeps 1) .refl rfl (by simp [Entry.Acked, start]) (by decide) lostTrace_steps

theorem message_accounted_lost :
    AccountedFor (⟨lostTrace, .ret .emitErrorDlq, false⟩ : Delivery (portSig Unit)).broker :=
  ((message_accounted lost_reach).1 0 _ rfl).1 (Or.inr ⟨le_rfl, .ok .emitErrorDlq, rfl⟩)

/-- So a message can be acked with nothing of it left. -/
theorem lost_acked : lost.Acked ∧ lost.results = [] ∧ lost.copies = [] :=
  ⟨⟨_, List.mem_singleton_self _, ⟨.ack, .ok ()⟩, by simp [Delivery.broker, lostTrace, Event.left?], rfl,
    Event.ok_mk⟩, rfl, rfl⟩

end Entry

end DocGen
