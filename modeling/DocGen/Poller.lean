/-
# The heartbeat of a worker

`worker/main.py`'s `_poll_queue_depth`, which runs beside all else of the
worker until the shutdown: each round asks the broker for the consumer, notes
the pending messages, touches the heartbeat file, and waits. A round that fails
is followed by the next; `Dockerfile.worker` takes a heartbeat less than 60
seconds old for a worker that is alive.

The poller runs beside its environment (`Beside`): the clock, and the signal
that asks for the shutdown. The file may be there from an earlier process. The
rounds are bounded by a parameter, of which all that is proved is independent.
-/
import DocGen.Lib.Beside
import DocGen.Models

namespace DocGen

open Prog

/-! ### The source -/

/-- The settings the poller reads. -/
structure PollSettings where
  requestStream : String
  durable : String
  requestSubject : String

/-- The calls of the poller. `num_pending` of a consumer's info may be missing. -/
inductive PollOp
  | isSet
  | consumerInfo (stream durable : String)
  | setDepth (subject : String) (pending : ℤ)
  | touch
  | waitShutdown (timeout : ℕ)

abbrev PollOp.Res : PollOp → Type
  | .isSet => Bool
  | .consumerInfo _ _ => Option ℤ
  | _ => Unit

abbrev pollSig : Sig := ⟨PollOp, PollOp.Res⟩

def pollCall (op : PollOp) : Coroutine pollSig (PollOp.Res op) := Prog.perform (S := pollSig) op

def queueDepthPollIntervalSeconds : ℕ := 15

/-- `int(info.num_pending)`. -/
def intOf : Option ℤ → Except Exc ℤ
  | some n => .ok n
  | none => .error (.other "TypeError" "int() argument must be a string, a bytes-like object or a real number")

/-- The first `try` of a round: whether the poll came through. -/
def pollOnce (settings : PollSettings) : Coroutine pollSig Bool :=
  Prog.tryCatch (do
    let pending : Option ℤ ← pollCall (.consumerInfo settings.requestStream settings.durable)
    let n ← Prog.ofExcept (intOf pending)
    pollCall (.setDepth settings.requestSubject n)
    return true) fun _ => return false

/-- `HEARTBEAT_PATH.touch`, where an `OSError` is let go. -/
def touchHeartbeat : Coroutine pollSig Unit :=
  (pollCall .touch).tryCatch fun exc => if exc.isOSError then return () else .raise exc

/-- `asyncio.wait_for(shutdown_event.wait(), ...)`, where the time-out is let
go. -/
def waitRound : Coroutine pollSig Unit :=
  (pollCall (.waitShutdown queueDepthPollIntervalSeconds)).tryCatch fun
    | .transport .timeoutError _ => return ()
    | exc => .raise exc

/-- `_poll_queue_depth`, of which `rounds` turns are followed. It answers
whether the loop has ended. -/
def pollQueueDepth (settings : PollSettings) : (rounds : ℕ) → Coroutine pollSig Bool
  | 0 => return false
  | rounds + 1 => do
    let stop : Bool ← pollCall .isSet
    if stop then return true
    else do
      let ok ← pollOnce settings
      (if ok then touchHeartbeat else pure ())
      waitRound
      pollQueueDepth settings rounds

/-! ### The poller beside its environment -/

/-- The clock, the event, the polls answered so far with the time and the
number of messages where there was one, the metric, and the touches. -/
structure PollState where
  now : ℕ
  shutdown : Bool
  polls : List (ℕ × Option ℤ)
  depth : Option ℤ
  touches : List ℕ

namespace PollState

def start (now : ℕ) : PollState := ⟨now, false, [], none, []⟩

inductive Env : PollState → PollState → Prop
  | tick {s} : Env s { s with now := s.now + 1 }
  | signal {s} : Env s { s with shutdown := true }

def sem : Sem pollSig Exc PollState
  | .isSet, s, x, t => x = .ok s.shutdown ∧ t = s
  | .consumerInfo _ _, s, x, t =>
    (∃ pending, x = .ok pending ∧ t = { s with polls := s.polls ++ [(s.now, pending)] }) ∨
      ((∃ e, x = .error e) ∧ t = { s with polls := s.polls ++ [(s.now, none)] })
  | .setDepth _ pending, s, x, t => x = .ok () ∧ t = { s with depth := some pending }
  | .touch, s, x, t =>
    (x = .ok () ∧ t = { s with touches := s.touches ++ [s.now] }) ∨ ((∃ e, x = .error e) ∧ t = s)
  | .waitShutdown _, s, x, t => (x = .ok () → s.shutdown = true) ∧ t = s

/-- The check of the container, for a file last touched at `before` by an
earlier process. -/
def Healthy (before : Option ℕ) (s : PollState) : Prop :=
  ∃ m, s.touches.getLast?.or before = some m ∧ s.now - m < 60

/-- The number of messages of the last poll that came through. -/
def lastDepth (polls : List (ℕ × Option ℤ)) : Option ℤ := (polls.filterMap Prod.snd).getLast?

/-- Each touch comes after a poll of its own that came through, and before the
next poll. -/
inductive Beats : List (ℕ × Option ℤ) → List ℕ → Prop
  | start : Beats [] []
  | poll {ps ts} (h : Beats ps ts) {p : ℕ} (hp : ∀ m ∈ ts, m ≤ p) (n : Option ℤ) : Beats (ps ++ [(p, n)]) ts
  | beat {ps ts} (h : Beats ps ts) {p : ℕ} (hp : ∀ m ∈ ts, m ≤ p) (n : ℤ) {m : ℕ} (hm : p ≤ m) :
      Beats (ps ++ [(p, some n)]) (ts ++ [m])

theorem Beats.mem {ps : List (ℕ × Option ℤ)} {ts : List ℕ} (h : Beats ps ts) {m : ℕ} (hm : m ∈ ts) :
    ∃ p n, (p, some n) ∈ ps ∧ p ≤ m := by
  induction h with
  | start => cases hm
  | poll _ _ _ ih =>
    obtain ⟨p, n, hp, hle⟩ := ih hm
    exact ⟨p, n, List.mem_append_left _ hp, hle⟩
  | beat _ _ n hle ih =>
    rcases List.mem_append.mp hm with hm | hm
    · obtain ⟨p, n, hp, hle⟩ := ih hm
      exact ⟨p, n, List.mem_append_left _ hp, hle⟩
    · rw [List.mem_singleton.mp hm]
      exact ⟨_, n, List.mem_append_right _ List.mem_cons_self, hle⟩

theorem lastDepth_snoc (ps : List (ℕ × Option ℤ)) (p : ℕ) (n : Option ℤ) :
    lastDepth (ps ++ [(p, n)]) = n.or (lastDepth ps) := by
  cases n <;> simp [lastDepth, List.filterMap_append]

/-! ### What holds in a round -/

/-- At the head of the loop: every touch has its poll, and the metric is that
of the last poll that came through. -/
structure Looping (s : PollState) : Prop where
  beats : Beats s.polls s.touches
  past : ∀ m ∈ s.touches, m ≤ s.now
  depth : s.depth = lastDepth s.polls

/-- The last poll came through at `p` with `n` messages, and nothing has been
touched since. -/
structure Polled (ps : List (ℕ × Option ℤ)) (p : ℕ) (n : ℤ) (s : PollState) : Prop where
  polls : s.polls = ps ++ [(p, some n)]
  beats : Beats ps s.touches
  before : ∀ m ∈ s.touches, m ≤ p
  past : p ≤ s.now

/-- It is still to be noted. -/
def ToNote (n : ℤ) (s : PollState) : Prop := ∃ ps p, Polled ps p n s ∧ s.depth = lastDepth ps

/-- The file is to be touched. -/
def ToTouch (s : PollState) : Prop := ∃ ps p n, Polled ps p n s ∧ s.depth = some n

/-- The metric is that of the last poll that came through, or that poll has
only just been answered. -/
def Noted (s : PollState) : Prop :=
  s.depth = lastDepth s.polls ∨ ∃ ps p n, s.polls = ps ++ [(p, some n)] ∧ s.depth = lastDepth ps

/-- The poller, with what holds at every moment. -/
def beside : Beside pollSig Exc PollState where
  sem := sem
  env := Env
  Inv s := Beats s.polls s.touches ∧ Noted s

variable {s t : PollState}

theorem looping_stable : beside.Stable Looping := by
  rintro s t ⟨hb, hp, hd⟩ (_ | _)
  · exact ⟨hb, fun m hm => Nat.le_succ_of_le (hp m hm), hd⟩
  · exact ⟨hb, hp, hd⟩

theorem Polled.env {ps : List (ℕ × Option ℤ)} {p : ℕ} {n : ℤ} (h : Polled ps p n s) (hs : Env s t) :
    Polled ps p n t ∧ t.depth = s.depth := by
  cases hs with
  | tick => exact ⟨⟨h.polls, h.beats, h.before, Nat.le_succ_of_le h.past⟩, rfl⟩
  | signal => exact ⟨⟨h.polls, h.beats, h.before, h.past⟩, rfl⟩

theorem toNote_stable (n : ℤ) : beside.Stable (ToNote n) := by
  rintro s t ⟨ps, p, h, hd⟩ hs
  obtain ⟨ht, hdepth⟩ := h.env hs
  exact ⟨ps, p, ht, hdepth.trans hd⟩

theorem toTouch_stable : beside.Stable ToTouch := by
  rintro s t ⟨ps, p, n, h, hd⟩ hs
  obtain ⟨ht, hdepth⟩ := h.env hs
  exact ⟨ps, p, n, ht, hdepth.trans hd⟩

theorem Looping.inv (h : Looping s) : beside.Inv s := ⟨h.beats, Or.inl h.depth⟩

/-- A poll whose touch has not been made. -/
theorem Polled.untouched {ps : List (ℕ × Option ℤ)} {p : ℕ} {n : ℤ} (h : Polled ps p n s) :
    Beats s.polls s.touches := h.polls ▸ h.beats.poll h.before _

theorem ToNote.inv {n : ℤ} (h : ToNote n s) : beside.Inv s := by
  obtain ⟨ps, p, h, hd⟩ := h
  exact ⟨h.untouched, Or.inr ⟨ps, p, n, h.polls, hd⟩⟩

theorem Polled.looping {ps : List (ℕ × Option ℤ)} {p : ℕ} {n : ℤ} (h : Polled ps p n s)
    (hd : s.depth = some n) : Looping s :=
  ⟨h.untouched, fun m hm => Nat.le_trans (h.before m hm) h.past, by rw [hd, h.polls, lastDepth_snoc]; rfl⟩

theorem ToTouch.looping (h : ToTouch s) : Looping s := by
  obtain ⟨ps, p, n, h, hd⟩ := h
  exact h.looping hd

end PollState

open PollState

section

variable {settings : PollSettings} {s : PollState}

/-- A call at the head of the loop. -/
theorem looping_call {op : PollOp} {Q : Except Exc op.Res → PollState → Prop} (h : Looping s)
    (hop : ∀ (s : PollState) x t, Looping s → sem op s x t → Q x t) : (pollCall op).Safe beside Q s :=
  safe_perform _ h looping_stable (fun _ => Looping.inv) hop

/-- A poll that came through is to be followed by a touch. -/
theorem pollOnce_safe (h : Looping s) :
    (pollOnce settings).Safe beside (fun x t => (x = .ok true ∧ ToTouch t) ∨ (x = .ok false ∧ Looping t)) s := by
  refine safe_tryCatch (safe_bind (looping_call h ?_))
  rintro s x t hs (⟨pending, rfl, rfl⟩ | ⟨⟨e, rfl⟩, rfl⟩)
  · cases pending with
    | none =>
      refine Or.inr ⟨rfl, hs.beats.poll hs.past none, hs.past, ?_⟩
      rw [lastDepth_snoc]
      exact hs.depth
    | some n =>
      have hnote : ToNote n { s with polls := s.polls ++ [(s.now, some n)] } :=
        ⟨s.polls, s.now, ⟨rfl, hs.beats, hs.past, Nat.le_refl _⟩, hs.depth⟩
      show (((pollCall (.setDepth settings.requestSubject n)).bind fun _ => .ret true :
        Coroutine pollSig Bool)).Safe beside _ _
      refine safe_bind (safe_perform _ hnote (toNote_stable n) (fun _ => ToNote.inv) ?_)
      rintro s x t ⟨ps, p, hp, -⟩ ⟨rfl, rfl⟩
      exact Or.inl ⟨rfl, ps, p, n, ⟨hp.polls, hp.beats, hp.before, hp.past⟩, rfl⟩
  · refine Or.inr ⟨rfl, hs.beats.poll hs.past none, hs.past, ?_⟩
    rw [lastDepth_snoc]
    exact hs.depth

/-- Only an exception that is no `OSError` gets out. -/
theorem touchHeartbeat_safe (h : ToTouch s) : touchHeartbeat.Safe beside
    (fun x t => Looping t ∧ ∀ e, x = .error e → e.isOSError = false) s := by
  refine safe_tryCatch (safe_perform _ h toTouch_stable (fun _ h => h.looping.inv) ?_)
  rintro s x t hs (⟨rfl, rfl⟩ | ⟨⟨e, rfl⟩, rfl⟩)
  · obtain ⟨ps, p, n, hp, hd⟩ := hs
    have hpast : ∀ m ∈ s.touches ++ [s.now], m ≤ s.now := by
      intro m hm
      rcases List.mem_append.mp hm with hm | hm
      · exact Nat.le_trans (hp.before m hm) hp.past
      · exact Nat.le_of_eq (List.mem_singleton.mp hm)
    have hbeats : Beats s.polls (s.touches ++ [s.now]) := hp.polls ▸ hp.beats.beat hp.before n hp.past
    exact ⟨⟨hbeats, hpast, (hp.looping hd).depth⟩, fun e he => nomatch he⟩
  · show (ite _ _ _ : Coroutine pollSig Unit).Safe beside _ t
    split
    · exact ⟨hs.looping, fun e he => nomatch he⟩
    · rename_i hos
      refine ⟨hs.looping, fun e' he => ?_⟩
      obtain rfl := Except.error.inj he
      simpa using hos

def Exc.isTimeout : Exc → Bool
  | .transport .timeoutError _ => true
  | _ => false

/-- Only an exception that is no time-out gets out. -/
theorem waitRound_safe (h : Looping s) : waitRound.Safe beside
    (fun x t => Looping t ∧ ∀ e, x = .error e → e.isTimeout = false) s := by
  refine safe_tryCatch (looping_call h ?_)
  rintro s x t hs ⟨-, rfl⟩
  cases x with
  | ok _ => exact ⟨hs, fun e he => nomatch he⟩
  | error e =>
    show (Prog.Safe beside _ (match e with | .transport .timeoutError _ => return () | exc => .raise exc) t)
    split
    · exact ⟨hs, fun e he => nomatch he⟩
    · rename_i hne
      refine ⟨hs, fun e' he => ?_⟩
      obtain rfl := Except.error.inj he
      unfold Exc.isTimeout
      split
      · exact absurd rfl (hne _)
      · rfl

/-- How the poller ends. -/
structure PollEnded (x : Except Exc Bool) (s : PollState) : Prop where
  looping : Looping s
  shutdown : x = .ok true → s.shutdown = true
  raised : ∀ e, x = .error e → e.isTimeout = false

theorem pollEnded_stable (x : Except Exc Bool) : beside.Stable (PollEnded x) := by
  rintro s t ⟨hl, hsd, hr⟩ hs
  refine ⟨looping_stable s t hl hs, fun hx => ?_, hr⟩
  cases hs with
  | tick => exact hsd hx
  | signal => rfl

theorem pollQueueDepth_safe : ∀ (rounds : ℕ) {s : PollState}, Looping s →
    (pollQueueDepth settings rounds).Safe beside PollEnded s
  | 0, s, h => ⟨h, (fun hx => nomatch hx), fun _ hx => nomatch hx⟩
  | rounds + 1, s, h => by
    refine safe_bind (looping_call h ?_)
    rintro s x t hs ⟨rfl, rfl⟩
    show (ite _ _ _ : Coroutine pollSig Bool).Safe beside _ t
    split
    · rename_i hstop
      exact ⟨hs, fun _ => hstop, fun _ hx => nomatch hx⟩
    · have hnext : ∀ {t : PollState}, Looping t →
          (waitRound.bind fun _ => pollQueueDepth settings rounds).Safe beside PollEnded t := by
        intro t ht
        refine safe_bind ((waitRound_safe ht).mono fun x u hu => ?_)
        cases x with
        | ok _ => exact pollQueueDepth_safe rounds hu.1
        | error e =>
          refine ⟨hu.1, (fun hx => nomatch hx), fun e' he => ?_⟩
          exact hu.2 e' (congrArg Except.error (Except.error.inj he))
      refine safe_bind ((pollOnce_safe hs).mono ?_)
      rintro x u (⟨rfl, hu⟩ | ⟨rfl, hu⟩)
      · refine safe_bind ((touchHeartbeat_safe hu).mono fun x v hv => ?_)
        cases x with
        | ok _ => exact hnext hv.1
        | error e =>
          refine ⟨hv.1, (fun hx => nomatch hx), fun e' he => ?_⟩
          have hos := hv.2 e' (congrArg Except.error (Except.error.inj he))
          revert hos
          unfold Exc.isTimeout Exc.isOSError
          split <;> simp
      · exact hnext hu

/-- **The heartbeat follows the polls.** At every moment of any number of
rounds, beside any clock and signal: each touch comes after a poll of its own
that came through and before the next poll, and the metric is that of the last
poll that came through, up to the one just answered. So the check of the
container passes only when such a poll came before a touch less than 60 seconds
ago, unless the file is an earlier process's. And the poller ends only at the
shutdown, or by an exception that is no time-out. -/
theorem heartbeat_follows_polls {now : ℕ} {rounds : ℕ} {q : Coroutine pollSig Bool}
    (h : beside.Reach (pollQueueDepth settings rounds) (start now) q s) :
    Beats s.polls s.touches ∧ Noted s ∧
    (∀ before, Healthy before s → (∃ m ∈ s.touches, s.now - m < 60 ∧ ∃ p n, (p, some n) ∈ s.polls ∧ p ≤ m) ∨
      (s.touches = [] ∧ ∃ m, before = some m ∧ s.now - m < 60)) ∧
    (q = .ret true → s.shutdown = true) ∧ ∀ e, q = .raise e → e.isTimeout = false := by
  have hstart : Looping (start now) := ⟨.start, (fun _ hm => nomatch hm), rfl⟩
  have hq : q.Safe beside PollEnded s := safe_reach pollEnded_stable (pollQueueDepth_safe rounds hstart) h
  obtain ⟨hbeats, hnoted⟩ := hq.inv fun _ _ hr => hr.looping.inv
  refine ⟨hbeats, hnoted, fun before hhealthy => ?_, fun hret => ?_, fun e hraise => ?_⟩
  · obtain ⟨m, hm, hlt⟩ := hhealthy
    cases hlast : s.touches.getLast? with
    | none =>
      rw [hlast, Option.none_or] at hm
      exact Or.inr ⟨List.getLast?_eq_none_iff.mp hlast, m, hm, hlt⟩
    | some m' =>
      rw [hlast, Option.some_or] at hm
      obtain rfl := Option.some.inj hm
      have hmem := List.mem_of_getLast? hlast
      exact Or.inl ⟨m', hmem, hlt, hbeats.mem hmem⟩
  · subst hret
    exact hq.shutdown rfl
  · subst hraise
    exact hq.raised e rfl

end

/-! ### A broker that goes away -/

def docgenPoll : PollSettings := ⟨"DOCGEN_REQUESTS", "worker-docgen", "docgen.request"⟩

/-- One poll that came through at 100, and one that did not at 101. -/
def polledOnce : PollState := ⟨101, true, [(100, some 3), (101, none)], some 3, [100]⟩

theorem polledOnce_reach : beside.Reach (pollQueueDepth docgenPoll 3) (start 100) (.ret true) polledOnce := by
  have hstart : beside.Reach (pollQueueDepth docgenPoll 3) (start 100) (pollQueueDepth docgenPoll 3) (start 100) :=
    .refl
  have hpoll := (hstart.call (.ok false) ⟨rfl, rfl⟩).call (.ok (some 3)) (Or.inl ⟨_, rfl, rfl⟩)
  have htouch := (hpoll.call (.ok ()) ⟨rfl, rfl⟩).call (.ok ()) (Or.inl ⟨rfl, rfl⟩)
  have hround := (htouch.call (.error (.transport .timeoutError "")) ⟨nofun, rfl⟩).env .tick
  have hmissed := (hround.call (.ok false) ⟨rfl, rfl⟩).call (.error (.other "ConnectionClosedError" "nats"))
    (Or.inr ⟨⟨_, rfl⟩, rfl⟩)
  have hsignal := (hmissed.env .signal).call (.ok ()) ⟨fun _ => rfl, rfl⟩
  exact hsignal.call (.ok true) ⟨rfl, rfl⟩

theorem heartbeat_follows_polls_once : Beats [(100, some 3), (101, none)] [100] ∧
    (Healthy none polledOnce → ∃ m ∈ [100], 101 - m < 60) ∧ polledOnce.shutdown = true := by
  obtain ⟨hbeats, -, hhealthy, hret, -⟩ := heartbeat_follows_polls polledOnce_reach
  refine ⟨hbeats, fun h => ?_, hret rfl⟩
  rcases hhealthy none h with ⟨m, hm, hlt, -⟩ | ⟨-, m, hm, -⟩
  · exact ⟨m, hm, hlt⟩
  · cases hm

end DocGen
