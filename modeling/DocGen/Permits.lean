/-
# The permits of the render semaphore

Every render of a worker waits for a permit of one semaphore, of which there are
as many as the pool has processes (`worker/main.py`). A handling takes a permit
for one render at a time and gives it back whatever the render ends with
(`semaphoreProtocol`, `handle_message_restores`). So over any order of
deliveries, calls, renders and deaths no permit is lost and the pool never has
more renders to answer than permits (`permits_conserved`); and a worker that is
delivered nothing more comes to rest, whatever the order of its steps, with
every handling at its end and all permits back (`worker_settles`).
-/
import DocGen.Lib.Protocol
import DocGen.SharedPool
import Mathlib.Data.Finset.Card
import Mathlib.Logic.Hydra
import Mathlib.Order.RelClasses
import Mathlib.Tactic.Abel

namespace DocGen

open Prog

/-- `_render_pool_size`, of the setting and of the CPUs detected. -/
def renderPoolSize (setting : ℤ) (availableCpus : ℕ) : ℕ :=
  if 0 < setting then setting.toNat else max 1 (availableCpus - 1)

theorem renderPoolSize_pos (setting : ℤ) (availableCpus : ℕ) : 0 < renderPoolSize setting availableCpus := by
  unfold renderPoolSize
  split <;> omega

/-! ### A handling and its permit -/

/-- A handling acquires with no permit in hand, and with one it only renders
and releases. -/
def semaphoreProtocol (ρ : Type) : Protocol (handlingSig ρ) Exc Bool where
  allows
    | held, .inr (.inl .acquire) => held = false
    | held, .inr (.inl .release) => held = true
    | held, .inr (.inl (.runInExecutor _)) => held = true
    | held, _ => held = false
  answers
    | .inr (.inl .acquire), x => x = .ok ()
    | .inr (.inl .release), x => x = .ok ()
    | _, _ => True
  next
    | _, .inr (.inl .acquire), _ => true
    | _, .inr (.inl .release), _ => false
    | held, _, _ => held

section

variable {ρ : Type}

/-- A render takes one permit and gives it back. -/
theorem process_pool_run_restores (job : Job ρ) :
    ((processPoolRun true job).inl : Coroutine (workerSig ρ) RenderedArtifact).Restores
      (semaphoreProtocol ρ).right false := by
  refine follows_inl (follows_tryCatch ?_)
  refine follows_bind (follows_perform rfl ?_)
  rintro x rfl
  refine follows_tryFinally (follows_perform rfl fun art _ => ?_)
  refine follows_bind (follows_perform rfl ?_)
  rintro x rfl
  refine follows_ofExcept ?_
  cases art <;> rfl

/-- So does any call of a port. -/
theorem pool_port_restores (op : PortOp ρ) :
    ((poolPorts ρ true).impl op).Restores (semaphoreProtocol ρ).right false := by
  have hcall : ∀ op : PortOp ρ, ((Prog.perform (S := portSig ρ) op).inr :
      Coroutine (workerSig ρ) op.Res).Restores (semaphoreProtocol ρ).right false := by
    intro op
    exact follows_inr (follows_perform rfl fun _ _ => rfl)
  cases op with
  | run renderer bundle data fmt locale => exact process_pool_run_restores _
  | fetch uri => exact hcall (.fetch uri)
  | get engine fmt => exact hcall (.get engine fmt)
  | validate data schema => exact hcall (.validate data schema)
  | put key content contentType presignTtl => exact hcall (.put key content contentType presignTtl)

/-- The broker's calls touch no permit. -/
theorem broker_restores {α : Type} : ∀ p : Coroutine msgSig α,
    (p.inl : Coroutine (handlingSig ρ) α).Restores (semaphoreProtocol ρ) false
  | .ret _ => rfl
  | .raise _ => rfl
  | .call _ k => ⟨rfl, fun x _ => broker_restores (k x)⟩

/-- A handling begins and ends without a permit. -/
theorem handle_message_restores {deps : HandlerDeps (workerSig ρ) ρ} (hports : deps.ports = poolPorts ρ true)
    (msg : Msg) : (handleMessage deps msg).Restores (semaphoreProtocol ρ) false := by
  unfold handleMessage
  split
  · exact broker_restores _
  · rename_i request _
    have hbuild : (buildResult deps request).Restores (semaphoreProtocol ρ).right false := by
      unfold buildResult
      rw [hports, ← processRequest_interp]
      exact restores_tryCatch (restores_interp pool_port_restores _) fun _ => restores_ret
    exact restores_tryCatch (restores_bind (follows_inr hbuild) fun _ => broker_restores _)
      fun _ => broker_restores _

end

/-! ### The permits of a worker -/

section

variable {ρ : Type}

/-- The handling has a permit, by the calls it has made. -/
def Handling.holds (h : Handling ρ) : Bool := (semaphoreProtocol ρ).after false h.history

/-- The handling has come to its end. -/
def Handling.Ended (h : Handling ρ) : Prop := ∃ r, h.rest = ofExcept r

end

namespace Worker

variable {ρ : Type}

/-- The handlings with a permit. -/
def holders (s : Worker ρ) : Finset ℕ :=
  (Finset.range s.handlings.length).filter fun i => s.handlings[i]?.elim false Handling.holds

/-- The renders that have no answer. -/
def pending (s : Worker ρ) : Finset ℕ :=
  (Finset.range s.pool.renders.length).filter fun f => s.pool.renders[f]?.elim false (·.ended.isNone)

theorem mem_holders {s : Worker ρ} {i : ℕ} :
    i ∈ s.holders ↔ ∃ h, s.handlings[i]? = some h ∧ h.holds = true := by
  unfold holders
  rw [Finset.mem_filter, Finset.mem_range]
  rcases hi : s.handlings[i]? with _ | h
  · simp
  · have hlt : i < s.handlings.length := (List.getElem?_eq_some_iff.mp hi).1
    simp [hlt]

theorem mem_pending {s : Worker ρ} {f : ℕ} :
    f ∈ s.pending ↔ ∃ r, s.pool.renders[f]? = some r ∧ r.ended = none := by
  unfold pending
  rw [Finset.mem_filter, Finset.mem_range]
  rcases hf : s.pool.renders[f]? with _ | r
  · simp
  · have hlt : f < s.pool.renders.length := (List.getElem?_eq_some_iff.mp hf).1
    simp [hlt]

/-- A handling that goes on counts by what it held and what it holds. -/
theorem card_holders_set {s : Worker ρ} {p : PoolState} {i : ℕ} {h h' : Handling ρ}
    (hi : s.handlings[i]? = some h) :
    (⟨p, s.handlings.set i h'⟩ : Worker ρ).holders.card + h.holds.toNat =
      s.holders.card + h'.holds.toNat := by
  have hmem : i ∈ s.holders ↔ h.holds = true := by
    rw [mem_holders, hi]
    simp
  have hother : ∀ j, j ≠ i → (j ∈ (⟨p, s.handlings.set i h'⟩ : Worker ρ).holders ↔ j ∈ s.holders) := by
    intro j hj
    simp [mem_holders, List.getElem?_set_ne (Ne.symm hj)]
  have hself : i ∈ (⟨p, s.handlings.set i h'⟩ : Worker ρ).holders ↔ h'.holds = true := by
    simp [mem_holders, List.getElem?_set_self (List.getElem?_eq_some_iff.mp hi).1]
  have herase : (⟨p, s.handlings.set i h'⟩ : Worker ρ).holders.erase i = s.holders.erase i := by
    ext j
    by_cases hj : j = i
    · simp [hj]
    · simp [hj, hother j hj]
  have hcard : ∀ {t : Finset ℕ} {b : Bool}, (i ∈ t ↔ b = true) → t.card = (t.erase i).card + b.toNat := by
    intro t b hb
    rcases b with _ | _
    · rw [Finset.erase_eq_of_notMem fun hit => Bool.noConfusion (hb.mp hit)]
      rfl
    · exact (Finset.card_erase_add_one (hb.mpr rfl)).symm
  rw [hcard hself, hcard hmem, herase]
  omega

/-- The invariant: the permits that are out are in the hands of handlings; each
handling keeps the protocol; one that waits has submitted, and a render without
an answer is in a pool that works, and is waited for. -/
structure Permitted (permits : ℕ) (s : Worker ρ) : Prop where
  total : s.pool.permits + s.holders.card = permits
  follows : ∀ (i : ℕ) (h : Handling ρ), s.handlings[i]? = some h →
    h.rest.Follows (semaphoreProtocol ρ) (fun _ held => held = false) h.holds
  waits : ∀ (i : ℕ) (h : Handling ρ) (f : ℕ), s.handlings[i]? = some h → h.future = some f →
    ∃ job k, h.rest = .call (.inr (.inl (.runInExecutor job))) k
  answered : ∀ (f : ℕ) (r : Render), s.pool.renders[f]? = some r → r.ended = none →
    r.pool ∉ s.pool.broken ∧ ∃ h : Handling ρ, s.handlings[r.handling]? = some h ∧ h.future = some f

theorem permitted_start (permits : ℕ) : Permitted permits (start permits : Worker ρ) where
  total := rfl
  follows i h hi := by simp [start] at hi
  waits i h f hi := by simp [start] at hi
  answered f r hf := by simp [start, PoolState.start] at hf

/-- One handling goes on. -/
theorem Permitted.set {permits : ℕ} {s : Worker ρ} (hP : Permitted permits s) {p : PoolState} {i : ℕ}
    {h h' : Handling ρ} (hi : s.handlings[i]? = some h)
    (htotal : p.permits + h'.holds.toNat = s.pool.permits + h.holds.toNat)
    (hfollows : h'.rest.Follows (semaphoreProtocol ρ) (fun _ held => held = false) h'.holds)
    (hwaits : ∀ f, h'.future = some f → ∃ job k, h'.rest = .call (.inr (.inl (.runInExecutor job))) k)
    (hanswered : ∀ (f : ℕ) (r : Render), p.renders[f]? = some r → r.ended = none → r.pool ∉ p.broken ∧
      ∃ h : Handling ρ, (s.handlings.set i h')[r.handling]? = some h ∧ h.future = some f) :
    Permitted permits ⟨p, s.handlings.set i h'⟩ where
  total := by
    have hcard : (⟨p, s.handlings.set i h'⟩ : Worker ρ).holders.card + h.holds.toNat =
        s.holders.card + h'.holds.toNat := card_holders_set hi
    have htot := hP.total
    show p.permits + _ = permits
    omega
  follows j k hj := by
    rcases getElem?_set_cases hj with ⟨-, rfl⟩ | ⟨-, hj⟩
    · exact hfollows
    · exact hP.follows j k hj
  waits j k f hj hf := by
    rcases getElem?_set_cases hj with ⟨-, rfl⟩ | ⟨-, hj⟩
    · exact hwaits f hf
    · exact hP.waits j k f hj hf
  answered := hanswered

/-- The renders of the other handlings are waited for as before. -/
theorem Permitted.others {permits : ℕ} {s : Worker ρ} (hP : Permitted permits s) {i : ℕ} {h' : Handling ρ}
    {f : ℕ} {r : Render} (hr : s.pool.renders[f]? = some r) (ha : r.ended = none)
    (hi : ∀ h, s.handlings[i]? = some h → h.future ≠ some f) :
    r.pool ∉ s.pool.broken ∧
      ∃ h, (s.handlings.set i h')[r.handling]? = some h ∧ h.future = some f := by
  obtain ⟨hb, h, hh, hf⟩ := hP.answered f r hr ha
  have hne : i ≠ r.handling := fun he => hi h (he ▸ hh) hf
  exact ⟨hb, h, by rw [List.getElem?_set_ne hne]; exact hh, hf⟩

section

variable {deps : HandlerDeps (workerSig ρ) ρ} {body : ℕ → Bytes} {steady : ℕ → Prop} {permits : ℕ}
  {s t : Worker ρ}

/-- What a call but `run_in_executor` does to the permits. -/
theorem permits_of_call {op : (handlingSig ρ).Op} {x : (handlingSig ρ).Ans Exc op} {p p' : PoolState}
    {held : Bool} (h : CallPool op x p p') (hallows : (semaphoreProtocol ρ).allows held op) :
    (semaphoreProtocol ρ).answers op x ∧ p'.renders = p.renders ∧ p'.broken = p.broken ∧
      p'.permits + ((semaphoreProtocol ρ).next held op x).toNat = p.permits + held.toNat := by
  rcases op with op | op | op
  · obtain rfl : p' = p := h
    exact ⟨trivial, rfl, rfl, rfl⟩
  · cases op with
    | acquire =>
      obtain ⟨hpos, hx, rfl⟩ := h
      obtain rfl : held = false := hallows
      refine ⟨hx, rfl, rfl, ?_⟩
      show p.permits - 1 + 1 = p.permits + 0
      omega
    | release =>
      obtain ⟨hx, rfl⟩ := h
      obtain rfl : held = true := hallows
      exact ⟨hx, rfl, rfl, rfl⟩
    | runInExecutor job => exact h.elim
  · obtain rfl : p' = p := h
    exact ⟨trivial, rfl, rfl, rfl⟩

theorem permitted_step (hports : deps.ports = poolPorts ρ true) (hP : Permitted permits s)
    (hs : Step deps body steady s t) : Permitted permits t := by
  cases hs with
  | deliver m hacked hn =>
    have hrest := handle_message_restores hports ⟨body m, some (s.deliveries m + 1)⟩
    have hholders : (⟨s.pool, s.handlings ++ [⟨m, s.deliveries m + 1, [],
        handleMessage deps ⟨body m, some (s.deliveries m + 1)⟩, none⟩]⟩ : Worker ρ).holders = s.holders := by
      ext i
      rw [mem_holders, mem_holders]
      constructor
      · rintro ⟨h, hi, hh⟩
        rcases getElem?_concat_some hi with hi | ⟨-, rfl⟩
        · exact ⟨h, hi, hh⟩
        · cases hh
      · rintro ⟨h, hi, hh⟩
        exact ⟨h, by rw [List.getElem?_append_left (List.getElem?_eq_some_iff.mp hi).1]; exact hi, hh⟩
    refine ⟨by rw [hholders]; exact hP.total, fun i h hi => ?_, fun i h f hi hf => ?_, fun f r hr ha => ?_⟩
    · rcases getElem?_concat_some hi with hi | ⟨-, rfl⟩
      · exact hP.follows i h hi
      · exact hrest
    · rcases getElem?_concat_some hi with hi | ⟨-, rfl⟩
      · exact hP.waits i h f hi hf
      · cases hf
    · obtain ⟨hb, h, hi, hf⟩ := hP.answered f r hr ha
      exact ⟨hb, h, by rw [List.getElem?_append_left (List.getElem?_eq_some_iff.mp hi).1]; exact hi, hf⟩
  | @call i m n hist op k hi x p hp _ =>
    obtain ⟨hallows, hnext⟩ := hP.follows i _ hi
    obtain ⟨hx, hrenders, hbroken, hpermits⟩ := permits_of_call hp hallows
    have hholds : Handling.holds ⟨m, n, hist ++ [⟨op, x⟩], k x, none⟩ =
        (semaphoreProtocol ρ).next (Handling.holds ⟨m, n, hist, .call op k, none⟩) op x := by
      simp [Handling.holds]
    refine hP.set hi (by rw [hholds]; exact hpermits) (by rw [hholds]; exact hnext x hx) nofun ?_
    intro f r hr ha
    rw [hrenders] at hr
    rw [hbroken]
    refine hP.others hr ha fun h hh => ?_
    cases hi.symm.trans hh
    exact nofun
  | @submit i m n hist job k hi f p hp =>
    obtain ⟨hf, rfl⟩ := PoolState.exec_renderPoolSubmit.mp hp
    obtain rfl := Except.ok.inj hf
    have hbroken : s.pool.usable.broken = s.pool.broken := by
      unfold PoolState.usable
      split <;> rfl
    have hfollows := hP.follows i _ hi
    refine hP.set hi ?_ hfollows (fun _ _ => ⟨job, k, rfl⟩) ?_
    · show s.pool.usable.permits + _ = _
      rw [PoolState.permits_usable]
      rfl
    · intro g r hr ha
      rw [PoolState.renders_add, PoolState.renders_usable] at hr
      show r.pool ∉ s.pool.usable.broken ∧ _
      rcases getElem?_concat_some hr with hr | ⟨rfl, rfl⟩
      · rw [hbroken]
        refine hP.others hr ha fun h hh => ?_
        cases hi.symm.trans hh
        exact nofun
      · exact ⟨s.pool.usable_not_broken, _, List.getElem?_set_self (List.getElem?_eq_some_iff.mp hi).1, rfl⟩
  | @finish f r hr ha hb x _ =>
    refine ⟨hP.total, hP.follows, hP.waits, fun g r' hg ha' => ?_⟩
    rw [PoolState.renders_settle] at hg
    by_cases hfg : f = g
    · subst hfg
      rw [List.getElem?_modify_eq, hr] at hg
      cases hg
      cases ha'
    · rw [List.getElem?_modify_ne _ _ hfg] at hg
      exact hP.answered g r' hg ha'
  | @die r hr ha hb hcurrent _ =>
    refine ⟨hP.total, hP.follows, hP.waits, fun g r' hg ha' => ?_⟩
    rw [PoolState.renders_die, List.getElem?_map] at hg
    obtain ⟨r₀, hr₀, rfl⟩ := Option.map_eq_some_iff.mp hg
    by_cases hpool : r₀.pool = s.pool.current
    · -- a render of the pool that broke has its answer
      rw [if_pos hpool] at ha'
      rcases r₀.fail_cases r.message with ⟨-, hfail⟩ | hfail
      · rw [hfail] at ha'
        cases ha'
      · unfold Render.fail at ha'
        split at ha' <;> simp_all
    · rw [if_neg hpool] at ha' ⊢
      obtain ⟨hb₀, hh⟩ := hP.answered g r₀ hr₀ ha'
      refine ⟨fun hmem => ?_, hh⟩
      rcases List.mem_cons.mp hmem with he | hmem
      · exact hpool he
      · exact hb₀ hmem
  | @resume i m n hist job k f r a hi hr ha =>
    have hholds : Handling.holds ⟨m, n, hist ++ [⟨.inr (.inl (.runInExecutor job)), a.answer⟩], k a.answer, none⟩ =
        Handling.holds ⟨m, n, hist, .call (.inr (.inl (.runInExecutor job))) k, some f⟩ := by
      simp [Handling.holds, semaphoreProtocol]
    have hfollows := follows_call (hP.follows i _ hi) (x := a.answer) trivial
    refine hP.set hi (by rw [hholds]) (by rw [hholds]; exact hfollows) nofun ?_
    intro g r' hg ha'
    refine hP.others hg ha' fun h hh hf => ?_
    cases hi.symm.trans hh
    cases hf
    cases hr.symm.trans hg
    cases ha.symm.trans ha'

theorem permitted_reach (hports : deps.ports = poolPorts ρ true) (h : Reach deps body steady permits s) :
    Permitted permits s := by
  induction h with
  | refl => exact permitted_start permits
  | tail _ hs ih => exact permitted_step hports ih hs

/-- A handling at its end holds no permit. -/
theorem Permitted.ended (hP : Permitted permits s) {i : ℕ} {h : Handling ρ} (hi : s.handlings[i]? = some h)
    (he : h.Ended) : h.holds = false := by
  obtain ⟨r, hr⟩ := he
  have hfollows := hP.follows i h hi
  rw [hr] at hfollows
  cases r <;> exact hfollows

/-- A handling that waits for a render has a permit. -/
theorem Permitted.waiting (hP : Permitted permits s) {i f : ℕ} {h : Handling ρ} (hi : s.handlings[i]? = some h)
    (hf : h.future = some f) : h.holds = true := by
  obtain ⟨job, k, hrest⟩ := hP.waits i h f hi hf
  have hfollows := hP.follows i h hi
  rw [hrest] at hfollows
  exact hfollows.1

/-- Each render without an answer has a permit of its own. -/
theorem Permitted.pending_le (hP : Permitted permits s) : s.pending.card ≤ s.holders.card := by
  have hwaited : ∀ f ∈ s.pending, ∃ i ∈ s.holders, s.handlings[i]?.bind Handling.future = some f := by
    intro f hf
    obtain ⟨r, hr, ha⟩ := mem_pending.mp hf
    obtain ⟨-, h, hi, hfut⟩ := hP.answered f r hr ha
    refine ⟨r.handling, mem_holders.mpr ⟨h, hi, hP.waiting hi hfut⟩, ?_⟩
    rw [hi]
    exact hfut
  choose! g hg hfut using hwaited
  refine Finset.card_le_card_of_injOn g hg fun f hf f' hf' he => ?_
  exact Option.some.inj ((hfut f hf).symm.trans (he ▸ hfut f' hf'))

/-- **No permit is lost.** In every state that any order of deliveries, calls,
renders and deaths reaches, the permits that are not in the semaphore are in
the hands of handlings that have not ended, one each; and the renders without
an answer are no more than the permits of the pool. -/
theorem permits_conserved (hports : deps.ports = poolPorts ρ true) (h : Reach deps body steady permits s) :
    s.pool.permits + s.holders.card = permits ∧ s.pending.card ≤ permits ∧
      ∀ i h, s.handlings[i]? = some h → h.Ended → i ∉ s.holders := by
  have hP := permitted_reach hports h
  have htotal := hP.total
  have hpending := hP.pending_le
  refine ⟨htotal, by omega, fun i k hi hk hmem => ?_⟩
  obtain ⟨k', hi', hholds⟩ := mem_holders.mp hmem
  cases hi.symm.trans hi'
  rw [hP.ended hi hk] at hholds
  cases hholds

end

/-- One handling waits for its render with one of two permits. -/
theorem permits_conserved_render : ∃ s : Worker Unit, s.pool.permits = 1 ∧
    s.pool.permits + s.holders.card = 2 ∧ s.pending.card ≤ 2 ∧
      ∀ i h, s.handlings[i]? = some h → h.Ended → i ∉ s.holders := by
  obtain ⟨p, h, hs, -, hpermits, -⟩ := reach_submit (p := .start 2) (l := []) (M := 4) (m := 0) (n := 0)
    (Or.inl rfl) rfl (fun ⟨_, hmem, _⟩ => (List.not_mem_nil hmem).elim) rfl (by decide) (by decide)
  exact ⟨⟨p, [h]⟩, hpermits, @permits_conserved Unit (crowded 4) numbered (· = 0) 2 _ rfl hs⟩

/-! ### A worker that is delivered nothing more -/

/-- The handling has gone on, or has come to wait for its render. -/
def Nearer : Handling ρ → Handling ρ → Prop :=
  InvImage (Prod.Lex Next (· < ·)) fun h => (h.rest, if h.future.isSome then 0 else 1)

theorem nearer_wellFounded : WellFounded (Nearer : Handling ρ → Handling ρ → Prop) :=
  InvImage.wf _ (next_wellFounded.prod_lex Nat.lt_wfRel.wf)

/-- One of several handlings is nearer to its end. -/
theorem cutExpand_set {l : List (Handling ρ)} {i : ℕ} {h h' : Handling ρ} (hi : l[i]? = some h)
    (hn : Nearer h' h) : Relation.CutExpand Nearer (l.set i h' : Multiset (Handling ρ)) l := by
  obtain ⟨hlt, rfl⟩ := List.getElem?_eq_some_iff.mp hi
  have hset : (l.set i h' : Multiset (Handling ρ)) = h' ::ₘ (l.take i ++ l.drop (i + 1) : List (Handling ρ)) := by
    rw [List.set_eq_take_append_cons_drop, if_pos hlt]
    exact Multiset.coe_eq_coe.mpr List.perm_middle
  have hsame : (l : Multiset (Handling ρ)) = l[i] ::ₘ (l.take i ++ l.drop (i + 1) : List (Handling ρ)) := by
    conv_lhs => rw [← List.take_append_drop i l, List.drop_eq_getElem_cons hlt]
    exact Multiset.coe_eq_coe.mpr List.perm_middle
  refine ⟨{h'}, l[i], fun a ha => Multiset.mem_singleton.mp ha ▸ hn, ?_⟩
  rw [hset, hsame, ← Multiset.singleton_add, ← Multiset.singleton_add]
  abel

section

variable {deps : HandlerDeps (workerSig ρ) ρ} {body : ℕ → Bytes} {permits : ℕ} {s t : Worker ρ}

/-- A step of a worker, with any messages, that delivers none. -/
def Internal (deps : HandlerDeps (workerSig ρ) ρ) (body : ℕ → Bytes) (s t : Worker ρ) : Prop :=
  Step deps body (fun _ => False) s t ∧ t.handlings.length = s.handlings.length

theorem pending_ssubset {p : PoolState} (hsub : ∀ (f : ℕ) (r : Render), p.renders[f]? = some r → r.ended = none →
      ∃ r', s.pool.renders[f]? = some r' ∧ r'.ended = none)
    {f : ℕ} (hf : f ∈ s.pending) (hp : ∀ r, p.renders[f]? = some r → r.ended ≠ none) :
    (⟨p, s.handlings⟩ : Worker ρ).pending ⊂ s.pending := by
  refine Finset.ssubset_iff_subset_ne.mpr ⟨fun g hg => ?_, fun he => ?_⟩
  · obtain ⟨r, hr, ha⟩ := mem_pending.mp hg
    exact mem_pending.mpr (hsub g r hr ha)
  · obtain ⟨r, hr, ha⟩ := mem_pending.mp (he ▸ hf)
    exact hp r hr ha

/-- Such a step brings one handling nearer to its end, or answers a render. -/
theorem internal_nearer (h : Internal deps body s t) :
    (∃ i h h', s.handlings[i]? = some h ∧ Nearer h' h ∧ t.handlings = s.handlings.set i h') ∨
      t.handlings = s.handlings ∧ t.pending ⊂ s.pending := by
  obtain ⟨hs, hlength⟩ := h
  cases hs with
  | deliver m hacked hn => simp at hlength
  | call i hi x hp _ => exact Or.inl ⟨i, _, _, hi, .left _ _ (.call _ x), rfl⟩
  | @submit i m n hist job k hi f p hp =>
    have hn : Nearer ⟨m, n, hist, .call (.inr (.inl (.runInExecutor job))) k, some f⟩
        ⟨m, n, hist, .call (.inr (.inl (.runInExecutor job))) k, none⟩ := .right _ Nat.zero_lt_one
    exact Or.inl ⟨i, _, _, hi, hn, rfl⟩
  | @resume i m n hist job k f r a hi hr ha => exact Or.inl ⟨i, _, _, hi, .left _ _ (.call k a.answer), rfl⟩
  | @finish f r hr ha hb x _ =>
    refine Or.inr ⟨rfl, pending_ssubset (fun g r' hg ha' => ?_) (mem_pending.mpr ⟨r, hr, ha⟩) fun r' hg => ?_⟩
    · rw [PoolState.renders_settle] at hg
      by_cases hfg : f = g
      · subst hfg
        exact ⟨r, hr, ha⟩
      · rw [List.getElem?_modify_ne _ _ hfg] at hg
        exact ⟨r', hg, ha'⟩
    · rw [PoolState.renders_settle, List.getElem?_modify_eq, hr] at hg
      cases hg
      exact nofun
  | @die r hr ha hb hcurrent _ =>
    obtain ⟨f, hf⟩ := List.mem_iff_getElem?.mp hr
    refine Or.inr ⟨rfl, pending_ssubset (fun g r' hg ha' => ?_) (mem_pending.mpr ⟨r, hf, ha⟩) fun r' hg => ?_⟩
    · rw [PoolState.renders_die, List.getElem?_map] at hg
      obtain ⟨r₀, hr₀, rfl⟩ := Option.map_eq_some_iff.mp hg
      refine ⟨r₀, hr₀, ?_⟩
      by_contra hne
      have hsame : (if r₀.pool = s.pool.current then r₀.fail r.message else r₀) = r₀ := by
        rcases r₀.fail_cases r.message with ⟨hnone, -⟩ | hfail
        · exact absurd hnone hne
        · rw [hfail, ite_self]
      exact hne (hsame ▸ ha')
    · rw [PoolState.renders_die, List.getElem?_map, hf] at hg
      obtain rfl := Option.some.inj hg
      show (if r.pool = s.pool.current then r.fail r.message else r).ended ≠ none
      rw [if_pos hb]
      rcases r.fail_cases r.message with ⟨-, hfail⟩ | hfail
      · rw [hfail]
        exact nofun
      · unfold Render.fail
        rw [ha]
        exact nofun

/-- No run of such steps goes on for ever. -/
theorem internal_acc (s : Worker ρ) : Acc (fun t s => Internal deps body s t) s := by
  have hnearer : WellFounded (Nearer : Handling ρ → Handling ρ → Prop) := nearer_wellFounded
  have hwf := hnearer.cutExpand.prod_lex Nat.lt_wfRel.wf
  refine Subrelation.accessible (r := InvImage _ fun s : Worker ρ =>
    ((s.handlings : Multiset (Handling ρ)), s.pending.card)) (fun {t s} h => ?_) (InvImage.accessible _ (hwf.apply _))
  rcases internal_nearer h with ⟨i, h, h', hi, hn, he⟩ | ⟨he, hsub⟩
  · refine Prod.Lex.left _ _ ?_
    rw [he]
    exact cutExpand_set hi hn
  · show Prod.Lex _ _ ((t.handlings : Multiset (Handling ρ)), t.pending.card) _
    rw [he]
    exact Prod.Lex.right _ (Finset.card_lt_card hsub)

/-- A handling that has not ended goes on, unless it waits for a permit. -/
theorem Permitted.goes_on (hP : Permitted permits s) (hI : Inv deps body (fun _ => False) s) {i : ℕ}
    {h : Handling ρ} (hi : s.handlings[i]? = some h) (hne : ¬ h.Ended)
    (hfree : 0 < s.pool.permits ∨ h.holds = true) : ∃ t, Internal deps body s t := by
  obtain ⟨m, n, hist, rest, future⟩ := h
  rcases future with _ | f
  · cases rest with
    | ret a => exact absurd ⟨.ok a, rfl⟩ hne
    | raise e => exact absurd ⟨.error e, rfl⟩ hne
    | call op k =>
      have hcall : ∀ {x p}, CallPool op x s.pool p → ∃ t, Internal deps body s t :=
        fun hp => ⟨_, .call i hi _ hp fun hs => hs.elim, List.length_set⟩
      have hallows := (hP.follows i _ hi).1
      rcases op with op | op | op
      · exact hcall (x := .error (.other "Exception" "")) rfl
      · cases op with
        | acquire =>
          have hpos : 0 < s.pool.permits := hfree.resolve_right fun hh => by
            cases hh.symm.trans hallows
          exact hcall (x := .ok ()) ⟨hpos, rfl, rfl⟩
        | release => exact hcall (x := .ok ()) ⟨rfl, rfl⟩
        | runInExecutor job =>
          exact ⟨_, .submit i hi (PoolState.exec_renderPoolSubmit.mpr ⟨rfl, rfl⟩), List.length_set⟩
      · exact hcall (x := .error (.other "Exception" "")) rfl
  · obtain ⟨job, k, rfl⟩ := hP.waits i _ f hi rfl
    obtain ⟨r, hr, -, -⟩ := (hI.traced i _ hi).future f rfl
    rcases ha : r.ended with _ | a
    · obtain ⟨hb, -⟩ := hP.answered f r hr ha
      exact ⟨_, .finish f hr ha hb (.error (.other "Exception" "")) fun hs => hs.elim, rfl⟩
    · exact ⟨_, .resume i hi hr ha, List.length_set⟩

/-- **The worker comes to rest.** From every reachable state, and whatever the
order of its steps, a worker that is delivered nothing more cannot go on for
ever; and where it cannot go on, every handling is at its end and every permit
is back in the semaphore. -/
theorem worker_settles {setting : ℤ} {availableCpus : ℕ} (hports : deps.ports = poolPorts ρ true)
    (h : Reach deps body (fun _ => False) (renderPoolSize setting availableCpus) s) :
    Acc (fun t s => Internal deps body s t) s ∧
      ∀ t, Relation.ReflTransGen (Internal deps body) s t → (∀ u, ¬ Internal deps body t u) →
        (∀ h ∈ t.handlings, h.Ended) ∧ t.pool.permits = renderPoolSize setting availableCpus := by
  refine ⟨internal_acc s, fun t ht hstuck => ?_⟩
  have hle : Internal deps body ≤ Step deps body fun _ => False := fun _ _ hs => hs.1
  have hreach : Reach deps body (fun _ => False) (renderPoolSize setting availableCpus) t :=
    h.trans (Relation.ReflTransGen.mono hle s t ht)
  have hP := permitted_reach hports hreach
  have hI := inv_reach hreach
  have hpos := renderPoolSize_pos setting availableCpus
  have htotal := hP.total
  have hholder : ∀ i ∈ t.holders, False := by
    intro i hi
    obtain ⟨k, hk, hholds⟩ := mem_holders.mp hi
    obtain ⟨u, hu⟩ := hP.goes_on hI hk (fun he => by rw [hP.ended hk he] at hholds; cases hholds) (Or.inr hholds)
    exact hstuck u hu
  have hnone : t.holders.card = 0 := Finset.card_eq_zero.mpr (Finset.eq_empty_of_forall_notMem hholder)
  refine ⟨fun k hk => ?_, by omega⟩
  obtain ⟨i, hi⟩ := List.mem_iff_getElem?.mp hk
  by_contra hne
  obtain ⟨u, hu⟩ := hP.goes_on hI hi hne (Or.inl (by omega))
  exact hstuck u hu

end

/-- A worker to which one message was delivered comes to rest. -/
theorem worker_settles_delivered :
    let s : Worker Unit := ⟨.start 2, [⟨0, 1, [], handleMessage (crowded 4) ⟨numbered 0, some 1⟩, none⟩]⟩
    Acc (fun t s => Internal (crowded 4) numbered s t) s ∧
      ∀ t, Relation.ReflTransGen (Internal (crowded 4) numbered) s t →
        (∀ u, ¬ Internal (crowded 4) numbered t u) → (∀ h ∈ t.handlings, h.Ended) ∧ t.pool.permits = 2 := by
  have hdeliver : Step (crowded 4) numbered (fun _ => False) (start 2)
      ⟨.start 2, [⟨0, 1, [], handleMessage (crowded 4) ⟨numbered 0, some 1⟩, none⟩]⟩ :=
    .deliver (s := start 2) 0 (fun ⟨_, hmem, _⟩ => (List.not_mem_nil hmem).elim) (by decide)
  exact @worker_settles Unit (crowded 4) numbered _ 2 0 rfl (.single hdeliver)

end Worker

end DocGen
