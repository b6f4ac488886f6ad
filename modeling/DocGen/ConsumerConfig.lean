/-
# Consumer settings on an existing durable

`core/queue/helper.py`: before it subscribes, a worker writes the settings it
declares onto the durable that an earlier build created. It reads the stored
config, and writes back all of it with the fields that differ, so that workers
that start at once write over each other. Each writes what it has read with all
it declares, so that the stored config is never a mixture
(`declarations_not_mixed`).

The fields of `ConsumerConfig`, their defaults and the values of them are
parameters: they are nats-py's.
-/
import DocGen.Lib.Coop
import DocGen.Dispatcher
import Mathlib.Data.List.Sort
import Mathlib.Data.String.Basic

namespace DocGen

open Prog

/-! ### The source -/

/-- What nats-py's `ConsumerConfig` is: the names of its fields, the value of
each in `ConsumerConfig()`, the values that are texts and those that are
numbers, and `repr`. -/
structure NatsApi (V : Type) where
  fields : List String
  default : String → V
  text : String → V
  number : ℕ → V
  repr : V → String

/-- A config, by `getattr`. -/
abbrev ConsumerConfig (V : Type) : Type := String → V

def reconciledConsumerFields : List String := ["ack_wait", "max_deliver", "max_ack_pending", "backoff"]

/-- The calls of `JetStreamContext`. -/
inductive JsOp (V : Type)
  | findStreamNameBySubject (subject : String)
  | consumerInfo (stream durable : String)
  | addConsumer (stream : String) (config : ConsumerConfig V)
  | subscribe (subject stream durable : String) (config : ConsumerConfig V)

abbrev JsOp.Res {V : Type} : JsOp V → Type
  | .findStreamNameBySubject _ => String
  | .consumerInfo _ _ => ConsumerConfig V
  | .addConsumer _ _ | .subscribe _ _ _ _ => Unit

abbrev jsSig (V : Type) : Sig := ⟨JsOp V, JsOp.Res⟩

/-- A call of `js`. -/
def js {V : Type} (op : JsOp V) : Coroutine (jsSig V) (JsOp.Res op) := Prog.perform (S := jsSig V) op

section

variable {V : Type} [DecidableEq V] (api : NatsApi V)

/-- `config.evolve(**values)`. -/
def ConsumerConfig.evolve (config : ConsumerConfig V) (values : List (String × V)) : ConsumerConfig V :=
  fun name => (values.lookup name).getD (config name)

/-- `_declared_consumer_fields`, with the text of its `ValueError`. -/
def declaredConsumerFields (config : ConsumerConfig V) : Except String (List (String × V)) :=
  let names := api.fields.filter fun name => config name ≠ api.default name
  let unsupported := (names.filter fun name => name ∉ reconciledConsumerFields).insertionSort (· ≤ ·)
  if unsupported ≠ [] then
    .error ("ConsumerConfig field(s) " ++ ", ".intercalate unsupported ++ " would only apply when the " ++
      "durable is first created; js.subscribe ignores them on an existing one")
  else .ok (names.map fun name => (name, config name))

/-- `repr` of a dict. -/
def dictRepr (values : List (String × V)) : String :=
  "\x7b" ++ ", ".intercalate (values.map fun d => pyRepr d.1 ++ ": " ++ api.repr d.2) ++ "\x7d"

/-- What the `except` clause of the update raises. -/
def updateError (stream durable : String) (drift : List (String × V)) (exc : Exc) : Exc :=
  match exc with
  | .apiError message | .notFoundError message =>
    .runtimeError ("JetStream consumer " ++ pyRepr durable ++ " on stream " ++ pyRepr stream ++
      " could not be updated to " ++ dictRepr api drift ++
      ". Delete it and let the worker recreate it, e.g. \x60nats consumer rm " ++ stream ++ " " ++ durable ++
      "\x60. Cause: " ++ message)
  | exc => exc

/-- The stored config of the durable, if there is one. -/
def storedConfig (stream durable : String) : Coroutine (jsSig V) (Option (ConsumerConfig V)) :=
  ((js (.consumerInfo stream durable)).bind fun config => .ret (some config)).tryCatch fun exc =>
    match exc with
    | .notFoundError _ => return none
    | exc => .raise exc

/-- `ensure_consumer_config`. -/
def ensureConsumerConfig (stream durable : String) (config : ConsumerConfig V) : Coroutine (jsSig V) Unit :=
  match declaredConsumerFields api config with
  | .error message => .raise (.valueError message)
  | .ok declared => do
    let stored : Option (ConsumerConfig V) ← storedConfig stream durable
    match stored with
    | none => return ()
    | some current =>
      let drift := declared.filter fun d => current d.1 ≠ d.2
      if drift = [] then return ()
      else (js (.addConsumer stream (current.evolve drift))).tryCatch fun exc =>
        .raise (updateError api stream durable drift exc)

/-- The stream of the subscription. -/
def streamOrFind (subject : String) : Option String → Coroutine (jsSig V) String
  | some stream => return stream
  | none => js (.findStreamNameBySubject subject)

/-- `subscribe_durable`. -/
def subscribeDurable (subject durable : String) (config : ConsumerConfig V) (stream : Option String) :
    Coroutine (jsSig V) Unit := do
  let stream ← streamOrFind subject stream
  ensureConsumerConfig api stream durable config
  js (.subscribe subject stream durable config)

/-- The config of the worker's subscription (`subscribe` of
`worker/dispatcher.py`). -/
def workerConfig (ackWait maxDeliver : ℕ) (maxAckPending : Option ℕ) : ConsumerConfig V :=
  ConsumerConfig.evolve api.default
    ([("ack_wait", api.number ackWait), ("max_deliver", api.number (serverMaxDeliver maxDeliver))] ++
      maxAckPending.toList.map fun n => ("max_ack_pending", api.number n))

end

/-! ### The broker -/

/-- The durables of a broker, by stream and name. A stored config has the name
it is stored under. -/
structure Broker (V : Type) where
  stored : String → V → Option (ConsumerConfig V)
  named : ∀ stream durable config, stored stream durable = some config → config "durable_name" = durable

section

variable {V : Type} [DecidableEq V] (api : NatsApi V)

/-- The config replaces what is stored under its name. -/
def Broker.put (b : Broker V) (stream : String) (config : ConsumerConfig V) : Broker V where
  stored := Function.update b.stored stream
    (Function.update (b.stored stream) (config "durable_name") (some config))
  named := by
    intro stream' durable config' h
    by_cases hs : stream' = stream
    · subst hs
      rw [Function.update_self] at h
      by_cases hd : durable = config "durable_name"
      · subst hd
        rw [Function.update_self, Option.some_inj] at h
        rw [h]
      · rw [Function.update_of_ne hd] at h
        exact b.named _ _ _ h
    · rw [Function.update_of_ne hs] at h
      exact b.named _ _ _ h

theorem Broker.stored_put (b : Broker V) {stream : String} {durable : V} {config : ConsumerConfig V}
    (h : config "durable_name" = durable) : (b.put stream config).stored stream durable = some config := by
  simp only [Broker.put, h, Function.update_self]

/-- What `subscribe` creates a durable from. -/
def createdConfig (subject durable inbox : String) (config : ConsumerConfig V) : ConsumerConfig V :=
  config.evolve [("durable_name", api.text durable), ("deliver_group", api.text durable),
    ("deliver_subject", api.text inbox), ("filter_subject", api.text subject)]

/-- What a call does, where a subject is that of the stream `streamOf` says.
Any call may fail, with an exception that does not say that there is no such
durable; an `add_consumer` that fails may have been applied. -/
def Broker.sem (streamOf : String → String) : Sem (jsSig V) Exc (Broker V)
  | .findStreamNameBySubject subject, b, x, b' => b' = b ∧ ∀ stream, x = .ok stream → stream = streamOf subject
  | .consumerInfo stream durable, b, x, b' => b' = b ∧
    match b.stored stream (api.text durable) with
    | some config => x = .ok config ∨ ∃ exc, x = .error exc ∧ ∀ message, exc ≠ .notFoundError message
    | none => ∃ exc, x = .error exc
  | .addConsumer stream config, b, x, b' =>
    b' = b.put stream config ∨ ∃ exc, x = .error exc ∧ b' = b
  | .subscribe subject stream durable config, b, x, b' =>
    match b.stored stream (api.text durable) with
    | some _ => b' = b
    | none => (∃ inbox, b' = b.put stream (createdConfig api subject durable inbox config)) ∨
      ∃ exc, x = .error exc ∧ b' = b

/-! ### What a replica writes -/

/-- The field is one that `config` sets. -/
def Sets (config : ConsumerConfig V) (name : String) : Prop :=
  name ∈ api.fields ∧ config name ≠ api.default name

instance (config : ConsumerConfig V) (name : String) : Decidable (Sets api config name) :=
  inferInstanceAs (Decidable (_ ∧ _))

omit [DecidableEq V] in
/-- To evolve with fields that all have their values in `f` takes these from
`f`. -/
theorem evolve_apply {config f : ConsumerConfig V} {name : String} : ∀ {values : List (String × V)},
    (∀ d ∈ values, d.2 = f d.1) →
    config.evolve values name = if name ∈ values.map Prod.fst then f name else config name
  | [], _ => rfl
  | d :: values, h => by
    have ih : config.evolve values name = if name ∈ values.map Prod.fst then f name else config name :=
      evolve_apply fun e he => h e (List.mem_cons_of_mem d he)
    have hd := h d List.mem_cons_self
    rw [ConsumerConfig.evolve, List.lookup_cons]
    by_cases hn : name = d.1
    · subst hn
      simp [hd]
    · rw [beq_false_of_ne hn, List.map_cons]
      simp only [List.mem_cons, hn, false_or]
      exact ih

variable {api} {config current : ConsumerConfig V} {declared : List (String × V)}

theorem declared_eq (h : declaredConsumerFields api config = .ok declared) :
    declared = (api.fields.filter fun name => config name ≠ api.default name).map
      fun name => (name, config name) := by
  rw [declaredConsumerFields] at h
  split at h
  · cases h
  · exact (Except.ok.inj h).symm

theorem mem_declared (h : declaredConsumerFields api config = .ok declared) {d : String × V} :
    d ∈ declared ↔ Sets api config d.1 ∧ d.2 = config d.1 := by
  obtain ⟨name, value⟩ := d
  rw [declared_eq h]
  simp only [List.mem_map, List.mem_filter, decide_eq_true_eq, Prod.mk.injEq, Sets]
  constructor
  · rintro ⟨_, hn, rfl, rfl⟩
    exact ⟨hn, rfl⟩
  · rintro ⟨hn, hv⟩
    exact ⟨name, hn, rfl, hv.symm⟩

/-- A config that sets another field is refused. -/
theorem declared_reconciled (h : declaredConsumerFields api config = .ok declared) {name : String}
    (hn : Sets api config name) : name ∈ reconciledConsumerFields := by
  rw [declaredConsumerFields] at h
  split at h
  · cases h
  next hu =>
    by_contra hr
    have hmem : name ∈ ((api.fields.filter fun name => config name ≠ api.default name).filter
        fun name => name ∉ reconciledConsumerFields).insertionSort (· ≤ ·) := by
      rw [List.mem_insertionSort]
      simpa [Sets, and_assoc, and_left_comm, and_comm] using And.intro hn hr
    rw [not_ne_iff.mp hu] at hmem
    cases hmem

/-- The config of the worker sets no other field. -/
theorem declared_workerConfig (ackWait maxDeliver : ℕ) (maxAckPending : Option ℕ) :
    ∃ declared, declaredConsumerFields api (workerConfig api ackWait maxDeliver maxAckPending) = .ok declared := by
  have hsub : ∀ name, workerConfig api ackWait maxDeliver maxAckPending name ≠ api.default name →
      name ∈ reconciledConsumerFields := by
    intro name h
    by_contra hn
    refine h ?_
    cases maxAckPending <;>
      simp_all [workerConfig, ConsumerConfig.evolve, List.lookup_cons, reconciledConsumerFields,
        beq_false_of_ne]
  rw [declaredConsumerFields]
  split
  next hu =>
    refine absurd (List.eq_nil_iff_forall_not_mem.mpr fun name hname => ?_) hu
    rw [List.mem_insertionSort] at hname
    simp only [List.mem_filter, decide_eq_true_eq] at hname
    exact hname.2 (hsub name hname.1.2)
  · exact ⟨_, rfl⟩

/-- What is written back: the declared fields, and the rest as it was read. -/
theorem evolve_drift (h : declaredConsumerFields api config = .ok declared) (name : String) :
    current.evolve (declared.filter fun d => current d.1 ≠ d.2) name =
      if Sets api config name then config name else current name := by
  rw [evolve_apply (f := config) fun d hd => ((mem_declared h).mp (List.mem_of_mem_filter hd)).2]
  by_cases hn : Sets api config name
  · by_cases hc : current name = config name
    · simp [hn, hc]
    · have hmem : (name, config name) ∈ declared := (mem_declared h).mpr ⟨hn, rfl⟩
      have hdrift : name ∈ (declared.filter fun d => current d.1 ≠ d.2).map Prod.fst :=
        List.mem_map.mpr ⟨(name, config name), List.mem_filter.mpr ⟨hmem, by simpa using hc⟩, rfl⟩
      rw [if_pos hdrift, if_pos hn]
  · have hdrift : name ∉ (declared.filter fun d => current d.1 ≠ d.2).map Prod.fst := by
      intro hmem
      obtain ⟨d, hd, rfl⟩ := List.mem_map.mp hmem
      exact hn ((mem_declared h).mp (List.mem_of_mem_filter hd)).1
    rw [if_neg hdrift, if_neg hn]

/-- Without drift the declared fields are stored. -/
theorem of_drift_nil (h : declaredConsumerFields api config = .ok declared)
    (hd : (declared.filter fun d => current d.1 ≠ d.2) = []) {name : String}
    (hn : Sets api config name) : current name = config name := by
  by_contra hc
  have hmem : (name, config name) ∈ declared.filter fun d => current d.1 ≠ d.2 :=
    List.mem_filter.mpr ⟨(mem_declared h).mpr ⟨hn, rfl⟩, by simpa using hc⟩
  rw [hd] at hmem
  cases hmem

/-! ### The durable while workers start -/

variable {ι : Type} (api) (config : ι → ConsumerConfig V) (initial : ConsumerConfig V)

/-- The declared fields are all as they were, or all those of one replica, and
the others are as they were. -/
structure Untorn (c : ConsumerConfig V) : Prop where
  kept : ∀ name, (∀ i, ¬ Sets api (config i) name) → c name = initial name
  whole : (∀ i name, Sets api (config i) name → c name = initial name) ∨
    ∃ i, ∀ name, Sets api (config i) name → c name = config i name

/-- The declared fields are those of every replica. -/
def Settled (c : ConsumerConfig V) : Prop := ∀ i name, Sets api (config i) name → c name = config i name

/-- The replicas declare the same values. -/
def Agree : Prop := ∀ i j name, Sets api (config i) name → config i name = config j name

variable {api} {config} {initial}

omit [DecidableEq V] in
theorem untorn_initial : Untorn api config initial initial :=
  ⟨fun _ _ => rfl, .inl fun _ _ _ => rfl⟩

/-- What a replica writes is untorn, however stale what it has read is. -/
theorem untorn_evolve {i : ι} (h : declaredConsumerFields api (config i) = .ok declared)
    (hc : Untorn api config initial current) :
    Untorn api config initial (current.evolve (declared.filter fun d => current d.1 ≠ d.2)) := by
  refine ⟨fun name hn => ?_, .inr ⟨i, fun name hn => ?_⟩⟩
  · rw [evolve_drift h, if_neg (hn i)]
    exact hc.kept name hn
  · rw [evolve_drift h, if_pos hn]

section

variable (hsame : ∀ i j name, Sets api (config i) name → Sets api (config j) name)
include hsame

theorem settled_evolve {i : ι} (h : declaredConsumerFields api (config i) = .ok declared)
    (ha : Agree api config) : Settled api config (current.evolve (declared.filter fun d => current d.1 ≠ d.2)) := by
  intro j name hn
  have hi := hsame j i name hn
  rw [evolve_drift h, if_pos hi]
  exact ha i j name hi

theorem settled_of_drift_nil {i : ι} (h : declaredConsumerFields api (config i) = .ok declared)
    (hd : (declared.filter fun d => current d.1 ≠ d.2) = []) (ha : Agree api config) :
    Settled api config current := by
  intro j name hn
  have hi := hsame j i name hn
  rw [of_drift_nil h hd hi]
  exact ha i j name hi

end

variable (api) (config) (initial) (streamOf : String → String) (stream durable : String)

/-- The durable is there and untorn. A replica owns, once it has seen or
written its declaration, that this stays stored. -/
def durableCoop : Coop (jsSig V) Exc (Broker V) Bool where
  sem := Broker.sem api streamOf
  sync _ := false
  Inv b := ∃ c, b.stored stream (api.text durable) = some c ∧ Untorn api config initial c
  Own done b := done = true → Agree api config → ∀ c, b.stored stream (api.text durable) = some c →
    Settled api config c
  Apart _ _ := True
  apart_symm _ _ := id

variable {api} {config} {initial} {streamOf} {stream} {durable}

/-- A write of an untorn config that settles the declaration disturbs no
replica. -/
theorem ready_put {g : Bool} {b : Broker V} {next : ConsumerConfig V}
    (hname : next "durable_name" = api.text durable) (hu : Untorn api config initial next)
    (hs : Agree api config → Settled api config next) :
    (durableCoop api config initial streamOf stream durable).Ready true g b (b.put stream next) := by
  have hput : (b.put stream next).stored stream (api.text durable) = some next := b.stored_put hname
  have hown : Agree api config → ∀ c, (b.put stream next).stored stream (api.text durable) = some c →
      Settled api config c := by
    intro ha c hc
    rw [hput, Option.some_inj] at hc
    rw [← hc]
    exact hs ha
  exact ⟨fun _ _ _ => ⟨fun _ => hown, trivial⟩, ⟨_, hput, hu⟩, fun _ => hown⟩

/-- A replica may always give up what it owns. -/
theorem ready_false {g g₀ : Bool} {b₀ b : Broker V}
    (h : (durableCoop api config initial streamOf stream durable).Ready g g₀ b₀ b) :
    (durableCoop api config initial streamOf stream durable).Ready false g₀ b₀ b :=
  ⟨h.frame, h.inv, Bool.noConfusion⟩

theorem wp_streamOrFind {subject : String} {given : Option String}
    (hstream : given.getD (streamOf subject) = stream) {g₀ : Bool} {b₀ b : Broker V}
    (h : (durableCoop api config initial streamOf stream durable).Ready false g₀ b₀ b) :
    (streamOrFind subject given : Coroutine (jsSig V) String).Wp
      (durableCoop api config initial streamOf stream durable)
      (fun r g b₀ b => (durableCoop api config initial streamOf stream durable).Ready false g b₀ b ∧
        ∀ found, r = .ok found → found = stream) g₀ b₀ b := by
  cases given with
  | some found => exact wp_ret ⟨h, fun _ hr => (Except.ok.inj hr).symm.trans hstream⟩
  | none =>
    refine wp_await rfl h fun b' hI ho x u hx => wp_ofExcept ?_
    obtain ⟨rfl, hx⟩ := hx
    exact ⟨Coop.ready_refl hI ho, fun found hr => (hx found hr).trans hstream⟩

/-- What a replica reads is the stored config. -/
theorem wp_storedConfig {g₀ : Bool} {b₀ b : Broker V}
    (h : (durableCoop api config initial streamOf stream durable).Ready false g₀ b₀ b) :
    (storedConfig stream durable).Wp (durableCoop api config initial streamOf stream durable)
      (fun r g b₀ b => (durableCoop api config initial streamOf stream durable).Ready false g b₀ b ∧
        ∀ stored, r = .ok stored → stored ≠ none ∧ stored = b.stored stream (api.text durable)) g₀ b₀ b := by
  refine wp_tryCatch (wp_bind (wp_await rfl h fun b' hI ho x u hx => wp_ofExcept ?_))
  have hr := Coop.ready_refl hI ho
  obtain ⟨current, hstored, hu⟩ := hI
  have hx : u = b' ∧ (x = .ok current ∨ ∃ exc, x = .error exc ∧ ∀ message, exc ≠ .notFoundError message) := by
    simpa only [durableCoop, Broker.sem, hstored] using hx
  obtain ⟨rfl, rfl | ⟨exc, rfl, hexc⟩⟩ := hx
  · refine ⟨hr, fun stored hok => ?_⟩
    rw [← Except.ok.inj hok]
    exact ⟨Option.some_ne_none _, hstored.symm⟩
  · cases exc with
    | notFoundError message => exact absurd rfl (hexc message)
    | _ => exact ⟨hr, fun _ hok => by cases hok⟩

section

variable (hsame : ∀ i j name, Sets api (config i) name → Sets api (config j) name)
include hsame

/-- A replica that gets through has seen or written what it declares. -/
theorem wp_ensureConsumerConfig (i : ι) {g₀ : Bool} {b₀ b : Broker V}
    (h : (durableCoop api config initial streamOf stream durable).Ready false g₀ b₀ b) :
    (ensureConsumerConfig api stream durable (config i)).Wp
      (durableCoop api config initial streamOf stream durable)
      (fun r g b₀ b => (durableCoop api config initial streamOf stream durable).Ready r.isOk g b₀ b)
      g₀ b₀ b := by
  rw [ensureConsumerConfig]
  cases hd : declaredConsumerFields api (config i) with
  | error message => exact wp_raise h
  | ok declared =>
    refine wp_bind (wp_mono ?_ (wp_storedConfig h))
    rintro (exc | stored) g b₀ b ⟨hr, hok⟩
    · exact hr
    obtain ⟨hsome, hstored⟩ := hok stored rfl
    obtain ⟨current, hcurrent, hu⟩ := hr.inv
    rw [hcurrent] at hstored
    subst hstored
    show Wp _ (if _ then _ else _) _ _ _ _
    split
    next hdrift =>
      -- what is stored is what it declares
      refine wp_ret ⟨hr.frame, hr.inv, fun _ ha c hc => ?_⟩
      rw [hcurrent, Option.some_inj] at hc
      rw [← hc]
      exact settled_of_drift_nil hsame hd hdrift ha
    next hdrift =>
      have hname : current.evolve (declared.filter fun d => current d.1 ≠ d.2) "durable_name" =
          api.text durable := by
        have hn : ¬ Sets api (config i) "durable_name" := fun hn =>
          absurd (declared_reconciled hd hn) (by decide)
        rw [evolve_drift hd, if_neg hn]
        exact b.named _ _ _ hcurrent
      -- by the time of the write others may have written
      refine wp_tryCatch (wp_await rfl hr fun b' hI ho x u hx => wp_ofExcept ?_)
      have hwrote : (durableCoop api config initial streamOf stream durable).Ready true false b'
          (b'.put stream (current.evolve (declared.filter fun d => current d.1 ≠ d.2))) :=
        ready_put hname (untorn_evolve hd hu) (settled_evolve hsame hd)
      rcases hx with rfl | ⟨exc, rfl, rfl⟩
      · cases x with
        | ok _ => exact hwrote
        | error exc => exact ready_false hwrote
      · exact Coop.ready_refl hI ho

/-- A replica that has returned owns what it declares. -/
theorem wp_subscribeDurable (i : ι) {subject : String} {given : Option String}
    (hstream : given.getD (streamOf subject) = stream) {g₀ : Bool} {b₀ b : Broker V}
    (h : (durableCoop api config initial streamOf stream durable).Ready false g₀ b₀ b) :
    (subscribeDurable api subject durable (config i) given).Wp
      (durableCoop api config initial streamOf stream durable)
      (fun r g b₀ b => (durableCoop api config initial streamOf stream durable).Ready r.isOk g b₀ b)
      g₀ b₀ b := by
  refine wp_bind (wp_mono ?_ (wp_streamOrFind hstream h))
  rintro (exc | found) g b₀ b ⟨hr, hfound⟩
  · exact hr
  obtain rfl := hfound found rfl
  refine wp_bind (wp_mono ?_ (wp_ensureConsumerConfig hsame i hr))
  rintro (exc | _) g b₀ b hr
  · exact hr
  refine wp_await rfl hr fun b' hI ho x u hx => wp_ofExcept ?_
  have hr := Coop.ready_refl hI ho
  obtain ⟨current, hcurrent, -⟩ := hI
  have hx : u = b' := by simpa only [durableCoop, Broker.sem, hcurrent] using hx
  subst hx
  cases x with
  | ok _ => exact hr
  | error exc => exact ready_false hr

end

/-- **Declarations do not mix.** In every state that any interleaving of any
number of starting workers reaches, each with a config that sets the same
fields, the declared fields of the durable are all as they were or all those of
one worker, and the others are as they were. Where the workers declare the same
values, these are stored for ever once one has got through. -/
theorem declarations_not_mixed [DecidableEq ι] {subject : ι → String} {given : ι → Option String}
    {b : Broker V} {c : Threads (jsSig V) Exc ι (Broker V) Unit}
    (hsame : ∀ i j name, Sets api (config i) name → Sets api (config j) name)
    (hstream : ∀ i, (given i).getD (streamOf (subject i)) = stream)
    (hinitial : b.stored stream (api.text durable) = some initial)
    (h : Threads.Reach (Broker.sem api streamOf) (fun _ => false)
      ⟨b, fun i => subscribeDurable api (subject i) durable (config i) (given i)⟩ c) :
    (∃ stored, c.shared.stored stream (api.text durable) = some stored ∧
      (∀ name, (∀ i, ¬ Sets api (config i) name) → stored name = initial name) ∧
      ((∀ i name, Sets api (config i) name → stored name = initial name) ∨
        ∃ i, ∀ name, Sets api (config i) name → stored name = config i name)) ∧
    ((∀ i j name, Sets api (config i) name → config i name = config j name) →
      ∀ i, c.thread i = .ret () → ∀ c', Threads.Reach (Broker.sem api streamOf) (fun _ => false) c c' →
        ∃ stored, c'.shared.stored stream (api.text durable) = some stored ∧
          ∀ name, Sets api (config i) name → stored name = config i name) := by
  have hinv : (durableCoop api config initial streamOf stream durable).Inv b :=
    ⟨initial, hinitial, untorn_initial⟩
  have hrest : ∀ i, ∃ g, (durableCoop api config initial streamOf stream durable).Ready g false b b ∧
      (durableCoop api config initial streamOf stream durable).Rest
        (fun r b => r = .ok () → Agree api config →
          ∀ c, b.stored stream (api.text durable) = some c → Settled api config c)
        (subscribeDurable api (subject i) durable (config i) (given i)) g := by
    intro i
    refine Coop.rest_of_wp (wp_mono ?_ (wp_subscribeDurable hsame i (hstream i)
      (Coop.ready_refl hinv Bool.noConfusion))) fun _ _ _ => rfl
    intro r g b₀ b hr
    refine ⟨r.isOk, hr, fun b' _ ho hok => ?_⟩
    rw [hok] at ho
    exact ho rfl
  choose g hready hrest using hrest
  have hsound : ∀ {c}, Threads.Reach (Broker.sem api streamOf) (fun _ => false)
      ⟨b, fun i => subscribeDurable api (subject i) durable (config i) (given i)⟩ c → _ :=
    fun h => Coop.coop_sound (C := durableCoop api config initial streamOf stream durable) _ g hinv
      (fun i => (hready i).own) (fun _ _ _ => trivial) hrest h
  obtain ⟨⟨stored, hstored, hu⟩, -⟩ := hsound h
  refine ⟨⟨stored, hstored, hu.kept, hu.whole⟩, fun ha i hi c' h' => ?_⟩
  obtain ⟨⟨stored', hstored', -⟩, hend⟩ := hsound (h.trans h')
  exact ⟨stored', hstored', fun name hn =>
    hend i (.ok ()) (Threads.ret_of_reach h' hi) rfl ha stored' hstored' i name hn⟩

end

/-! ### Two workers -/

/-- Fields with texts as values. -/
def textApi : NatsApi String where
  fields := ["durable_name", "ack_wait", "max_deliver"]
  default _ := ""
  text := id
  number := toString
  repr := pyRepr

/-- A config that sets both fields. -/
def waitDeliver (wait deliver : String) : ConsumerConfig String :=
  ConsumerConfig.evolve textApi.default [("ack_wait", wait), ("max_deliver", deliver)]

/-- What an earlier build has stored. -/
def earlier : ConsumerConfig String := (waitDeliver "10" "4").evolve [("durable_name", "worker")]

def earlierBroker : Broker String where
  stored stream durable := if stream = "DOCGEN" ∧ durable = "worker" then some earlier else none
  named := by
    intro stream durable config h
    split at h
    next hd =>
      rw [← Option.some.inj h, hd.2]
      rfl
    · cases h

theorem exec_subscribeDurable_earlier :
    (subscribeDurable textApi "docgen.request" "worker" (waitDeliver "30" "5") (some "DOCGEN")).Exec
      (Broker.sem textApi fun _ => "DOCGEN") earlierBroker (.ok ())
      (earlierBroker.put "DOCGEN" (earlier.evolve [("ack_wait", "30"), ("max_deliver", "5")])) := by
  have hd : declaredConsumerFields textApi (waitDeliver "30" "5") =
      .ok [("ack_wait", "30"), ("max_deliver", "5")] := by rfl
  have hensure : (ensureConsumerConfig textApi "DOCGEN" "worker" (waitDeliver "30" "5")).Exec
      (Broker.sem textApi fun _ => "DOCGEN") earlierBroker (.ok ())
      (earlierBroker.put "DOCGEN" (earlier.evolve [("ack_wait", "30"), ("max_deliver", "5")])) := by
    rw [ensureConsumerConfig, hd]
    exact exec_bind.mpr (.inr ⟨some earlier, earlierBroker, ⟨.ok earlier, _, ⟨rfl, .inl rfl⟩, rfl, rfl⟩,
      ⟨.ok (), _, .inl rfl, rfl, rfl⟩⟩)
  have hsubscribe : Broker.sem textApi (fun _ => "DOCGEN")
      (.subscribe "docgen.request" "DOCGEN" "worker" (waitDeliver "30" "5"))
      (earlierBroker.put "DOCGEN" (earlier.evolve [("ack_wait", "30"), ("max_deliver", "5")])) (.ok ())
      (earlierBroker.put "DOCGEN" (earlier.evolve [("ack_wait", "30"), ("max_deliver", "5")])) := by
    have hput : (earlierBroker.put "DOCGEN" (earlier.evolve [("ack_wait", "30"), ("max_deliver", "5")])).stored
        "DOCGEN" (textApi.text "worker") = some _ := earlierBroker.stored_put rfl
    rw [Broker.sem, hput]
  exact exec_bind.mpr (.inr ⟨"DOCGEN", earlierBroker, ⟨rfl, rfl⟩,
    exec_bind.mpr (.inr ⟨(), _, hensure, exec_perform.mpr hsubscribe⟩)⟩)

/-- Of two workers that start at once with different values, one has got
through. -/
theorem declarations_not_mixed_two : ∃ c : Threads (jsSig String) Exc Bool (Broker String) Unit,
    c.thread true = .ret () ∧ ∃ stored, c.shared.stored "DOCGEN" "worker" = some stored ∧
      (stored "ack_wait", stored "max_deliver") ∈ [("10", "4"), ("30", "5"), ("60", "7")] := by
  let config : Bool → ConsumerConfig String := fun i => if i then waitDeliver "30" "5" else waitDeliver "60" "7"
  have hsame : ∀ i j name, Sets textApi (config i) name → Sets textApi (config j) name := by
    have hfields : ∀ i j, ∀ name ∈ textApi.fields,
        Sets textApi (config i) name → Sets textApi (config j) name := by decide
    exact fun i j name hn => hfields i j name hn.1 hn
  have hwait : ∀ i, Sets textApi (config i) "ack_wait" := by decide
  have hdeliver : ∀ i, Sets textApi (config i) "max_deliver" := by decide
  let start : Threads (jsSig String) Exc Bool (Broker String) Unit :=
    ⟨earlierBroker, fun i => subscribeDurable textApi "docgen.request" "worker" (config i) (some "DOCGEN")⟩
  have hreach : Threads.Reach (Broker.sem textApi fun _ => "DOCGEN") (fun _ => false) start
      ⟨_, Function.update start.thread true (.ret ())⟩ :=
    Threads.reach_exec (fun _ => false) exec_subscribeDurable_earlier rfl
  obtain ⟨⟨stored, hstored, -, hwhole⟩, -⟩ := declarations_not_mixed hsame (fun _ => rfl) rfl hreach
  refine ⟨_, by simp, stored, hstored, ?_⟩
  rcases hwhole with hw | ⟨i, hw⟩
  · rw [hw true "ack_wait" (hwait true), hw true "max_deliver" (hdeliver true)]
    decide
  · rw [hw "ack_wait" (hwait i), hw "max_deliver" (hdeliver i)]
    cases i <;> decide

end DocGen
