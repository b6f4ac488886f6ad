/-
# Reconciling a durable consumer

What one `subscribe_durable` does over a broker that answers every call and
accepts or rejects an update. Nothing is written for a config that sets an
unsupported field, for a durable that does not exist yet and for one that has
what the config sets. Otherwise the stored record is written back with the
fields the config sets, and the others as they are; the same call again finds
nothing to write (`subscribe_durable_reconciles`).
-/
import DocGen.ConsumerConfig

namespace DocGen

open Prog

namespace JsOp

variable {V : Type}

def isAddConsumer : JsOp V → Bool
  | .addConsumer _ _ => true
  | _ => false

def isSubscribe : JsOp V → Bool
  | .subscribe _ _ _ _ => true
  | _ => false

end JsOp

/-- `except APIError`: what a rejected update raises. -/
def Exc.IsApiError (exc : Exc) : Prop :=
  (∃ message, exc = .apiError message) ∨ ∃ message, exc = .notFoundError message

section

variable {V : Type} [DecidableEq V] (api : NatsApi V)

/-- A broker that answers every call, and has a stream for every subject. It
stores a config as it is written, and says it as it is stored; an update that
it rejects changes nothing. -/
def Broker.answers (streamOf : String → String) : Sem (jsSig V) Exc (Broker V)
  | .findStreamNameBySubject subject, b, x, b' => x = .ok (streamOf subject) ∧ b' = b
  | .consumerInfo stream durable, b, x, b' => b' = b ∧
    match b.stored stream (api.text durable) with
    | some config => x = .ok config
    | none => ∃ message, x = .error (.notFoundError message)
  | .addConsumer stream config, b, x, b' =>
    (x = .ok () ∧ b' = b.put stream config) ∨ ∃ exc, exc.IsApiError ∧ x = .error exc ∧ b' = b
  | .subscribe subject stream durable config, b, x, b' => x = .ok () ∧
    match b.stored stream (api.text durable) with
    | some _ => b' = b
    | none => ∃ inbox, b' = b.put stream (createdConfig api subject durable inbox config)

/-- The calls and answers of a run. -/
abbrev JsTrace (V : Type) : Type := List (Event (jsSig V) Exc)

/-- The fields to be written: those set, with another value than the stored. -/
def driftOf (declared : List (String × V)) (current : ConsumerConfig V) : List (String × V) :=
  declared.filter fun d => current d.1 ≠ d.2

/-- The runs of `ensure_consumer_config` over a broker, with their calls, by
what they find. -/
inductive Ensured (b : Broker V) (stream durable : String) (config : ConsumerConfig V) :
    JsTrace V → Except Exc Unit → Broker V → Prop
  | refused {message : String} (hd : declaredConsumerFields api config = .error message) :
      Ensured b stream durable config [] (.error (.valueError message)) b
  | missing {declared : List (String × V)} (hd : declaredConsumerFields api config = .ok declared)
      (hb : b.stored stream (api.text durable) = none) (message : String) :
      Ensured b stream durable config [⟨.consumerInfo stream durable, .error (.notFoundError message)⟩]
        (.ok ()) b
  | inStep {declared : List (String × V)} (hd : declaredConsumerFields api config = .ok declared)
      {current : ConsumerConfig V} (hb : b.stored stream (api.text durable) = some current)
      (hdrift : driftOf declared current = []) :
      Ensured b stream durable config [⟨.consumerInfo stream durable, .ok current⟩] (.ok ()) b
  | updated {declared : List (String × V)} (hd : declaredConsumerFields api config = .ok declared)
      {current : ConsumerConfig V} (hb : b.stored stream (api.text durable) = some current)
      (hdrift : driftOf declared current ≠ []) :
      Ensured b stream durable config
        [⟨.consumerInfo stream durable, .ok current⟩,
          ⟨.addConsumer stream (current.evolve (driftOf declared current)), .ok ()⟩]
        (.ok ()) (b.put stream (current.evolve (driftOf declared current)))
  | rejected {declared : List (String × V)} (hd : declaredConsumerFields api config = .ok declared)
      {current : ConsumerConfig V} (hb : b.stored stream (api.text durable) = some current)
      (hdrift : driftOf declared current ≠ []) (exc : Exc) (message : String) :
      Ensured b stream durable config
        [⟨.consumerInfo stream durable, .ok current⟩,
          ⟨.addConsumer stream (current.evolve (driftOf declared current)), .error exc⟩]
        (.error (.runtimeError message)) b

variable {api} {streamOf : String → String} {stream durable : String} {config : ConsumerConfig V}
  {b b' : Broker V} {l l' : JsTrace V}

/-- The read of the stored config. -/
theorem exec_storedConfig {r : Except Exc (Option (ConsumerConfig V))}
    (h : (storedConfig stream durable).Exec (Broker.answers api streamOf).logged (b, l) r (b', l')) :
    b' = b ∧ ((∃ current, b.stored stream (api.text durable) = some current ∧ r = .ok (some current) ∧
        l' = l ++ [⟨.consumerInfo stream durable, .ok current⟩]) ∨
      b.stored stream (api.text durable) = none ∧ r = .ok none ∧
        ∃ message, l' = l ++ [⟨.consumerInfo stream durable, .error (.notFoundError message)⟩]) := by
  obtain ⟨x, ⟨u, l₁⟩, ⟨hx, hl⟩, h⟩ := h
  obtain ⟨rfl, hx⟩ : u = b ∧ _ := hx
  obtain rfl : l₁ = l ++ [⟨.consumerInfo stream durable, x⟩] := hl
  split at hx
  · rename_i current hstored
    subst hx
    obtain ⟨rfl, ht⟩ := h
    obtain ⟨rfl, rfl⟩ := Prod.mk.inj ht
    exact ⟨rfl, Or.inl ⟨current, hstored, rfl, rfl⟩⟩
  · rename_i hstored
    obtain ⟨message, rfl⟩ := hx
    obtain ⟨rfl, ht⟩ := h
    obtain ⟨rfl, rfl⟩ := Prod.mk.inj ht
    exact ⟨rfl, Or.inr ⟨hstored, rfl, message, rfl⟩⟩

/-- A run of `ensure_consumer_config` is one of these. -/
theorem exec_ensureConsumerConfig {r : Except Exc Unit}
    (h : (ensureConsumerConfig api stream durable config).Exec (Broker.answers api streamOf).logged
      (b, l) r (b', l')) :
    ∃ tr, l' = l ++ tr ∧ Ensured api b stream durable config tr r b' := by
  rw [ensureConsumerConfig] at h
  split at h
  · rename_i message hd
    obtain ⟨rfl, ht⟩ := h
    obtain ⟨rfl, rfl⟩ := Prod.mk.inj ht
    exact ⟨[], (List.append_nil _).symm, .refused hd⟩
  · rename_i declared hd
    rcases exec_bind.mp h with ⟨exc, rfl, hread⟩ | ⟨stored, ⟨u, l₁⟩, hread, hrest⟩
    · rcases (exec_storedConfig hread).2 with ⟨_, _, hr, _⟩ | ⟨_, hr, _⟩ <;> cases hr
    · obtain ⟨rfl, ⟨current, hb, hr, rfl⟩ | ⟨hb, hr, message, rfl⟩⟩ := exec_storedConfig hread
      · cases hr
        have hrest : (if driftOf declared current = [] then .ret ()
            else (js (.addConsumer stream (current.evolve (driftOf declared current)))).tryCatch fun exc =>
              .raise (updateError api stream durable (driftOf declared current) exc) :
            Coroutine (jsSig V) Unit).Exec (Broker.answers api streamOf).logged _ r (b', l') := hrest
        split at hrest
        · rename_i hdrift
          obtain ⟨rfl, ht⟩ := hrest
          obtain ⟨rfl, rfl⟩ := Prod.mk.inj ht
          exact ⟨_, rfl, .inStep hd hb hdrift⟩
        · rename_i hdrift
          obtain ⟨x, ⟨b₂, l₂⟩, ⟨hx, hl⟩, hrest⟩ := hrest
          obtain rfl : l₂ = _ := hl
          rcases hx with ⟨rfl, hb₂⟩ | ⟨exc, hexc, rfl, hb₂⟩
          · obtain ⟨rfl, ht⟩ := hrest
            obtain ⟨rfl, rfl⟩ := Prod.mk.inj ht
            obtain rfl : b' = _ := hb₂
            exact ⟨_, List.append_assoc .., .updated hd hb hdrift⟩
          · obtain ⟨rfl, ht⟩ := hrest
            obtain ⟨rfl, rfl⟩ := Prod.mk.inj ht
            obtain rfl : b' = _ := hb₂
            rcases hexc with ⟨message, rfl⟩ | ⟨message, rfl⟩
            · exact ⟨_, List.append_assoc .., .rejected hd hb hdrift _ _⟩
            · exact ⟨_, List.append_assoc .., .rejected hd hb hdrift _ _⟩
      · cases hr
        obtain ⟨rfl, ht⟩ := hrest
        obtain ⟨rfl, rfl⟩ := Prod.mk.inj ht
        exact ⟨_, rfl, .missing hd hb message⟩

/-! ### What is declared, and what differs -/

/-- Every field that the config sets can be reconciled. -/
def Supports (api : NatsApi V) (config : ConsumerConfig V) : Prop :=
  ∀ name, Sets api config name → name ∈ reconciledConsumerFields

theorem declared_error {message : String} (h : declaredConsumerFields api config = .error message) :
    ¬ Supports api config := by
  intro hs
  rw [declaredConsumerFields] at h
  split at h
  next hu =>
    refine hu (List.eq_nil_iff_forall_not_mem.mpr fun name hname => ?_)
    rw [List.mem_insertionSort] at hname
    simp only [List.mem_filter, decide_eq_true_eq] at hname
    exact hname.2 (hs name hname.1)
  · cases h

theorem declared_ok {declared : List (String × V)}
    (h : declaredConsumerFields api config = .ok declared) : Supports api config :=
  fun _ hn => declared_reconciled h hn

/-- There is drift exactly if a field that is set has another value stored. -/
theorem drift_ne_nil {declared : List (String × V)} {current : ConsumerConfig V}
    (h : declaredConsumerFields api config = .ok declared) :
    driftOf declared current ≠ [] ↔ ∃ name, Sets api config name ∧ current name ≠ config name := by
  constructor
  · intro hne
    obtain ⟨d, hd⟩ := List.exists_mem_of_ne_nil _ hne
    obtain ⟨hmem, hdiff⟩ := List.mem_filter.mp hd
    obtain ⟨hset, hvalue⟩ := (mem_declared h).mp hmem
    exact ⟨d.1, hset, hvalue ▸ of_decide_eq_true hdiff⟩
  · rintro ⟨name, hset, hdiff⟩ hnil
    exact hdiff (of_drift_nil h hnil hset)

/-- What is written back has the name of what is stored. -/
theorem durable_name_evolve {declared : List (String × V)} {current : ConsumerConfig V}
    (h : declaredConsumerFields api config = .ok declared)
    (hb : b.stored stream (api.text durable) = some current) :
    current.evolve (driftOf declared current) "durable_name" = api.text durable := by
  have hn : ¬ Sets api config "durable_name" := fun hn => absurd (declared_ok h _ hn) (by decide)
  rw [driftOf, evolve_drift h, if_neg hn]
  exact b.named _ _ _ hb

omit [DecidableEq V] in
/-- A created durable has its name, and what the config sets. -/
theorem createdConfig_apply (api : NatsApi V) (config : ConsumerConfig V) (subject durable inbox : String) :
    createdConfig api subject durable inbox config "durable_name" = api.text durable ∧
      ∀ name ∈ reconciledConsumerFields,
        createdConfig api subject durable inbox config name = config name := by
  refine ⟨rfl, ?_⟩
  simp only [reconciledConsumerFields, List.forall_mem_cons]
  exact ⟨rfl, rfl, rfl, rfl, List.forall_mem_nil _⟩

theorem Broker.stored_put_of_ne (b : Broker V) {stream s : String} {durable d : V}
    {config : ConsumerConfig V} (h : config "durable_name" = durable) (hne : ¬ (s = stream ∧ d = durable)) :
    (b.put stream config).stored s d = b.stored s d := by
  by_cases hs : s = stream
  · subst hs
    have hd : d ≠ config "durable_name" := fun hd => hne ⟨rfl, hd.trans h⟩
    simp only [Broker.put, Function.update_self, Function.update_of_ne hd]
  · simp only [Broker.put, Function.update_of_ne hs]

/-! ### One subscription -/

/-- A run of `subscribe_durable` over the broker `b`, with its calls. -/
def Subscribes (api : NatsApi V) (streamOf : String → String) (subject durable : String)
    (config : ConsumerConfig V) (given : Option String) (b : Broker V) (tr : JsTrace V)
    (r : Except Exc Unit) (b' : Broker V) : Prop :=
  (subscribeDurable api subject durable config given).Exec (Broker.answers api streamOf).logged
    (b, []) r (b', tr)

variable {subject : String} {given : Option String} {tr : JsTrace V} {r : Except Exc Unit}

/-- The stream is found, the durable is reconciled, and if that returns the
subscription is made. -/
theorem subscribes_cases (h : Subscribes api streamOf subject durable config given b tr r b') :
    ∃ pre tr₁ post b₁, (∀ e ∈ pre, ¬ e.op.isAddConsumer ∧ ¬ e.op.isSubscribe) ∧
      Ensured api b (given.getD (streamOf subject)) durable config tr₁ r b₁ ∧ tr = pre ++ tr₁ ++ post ∧
      ((∃ exc, r = .error exc) ∧ post = [] ∧ b' = b₁ ∨ r = .ok () ∧
        post = [⟨.subscribe subject (given.getD (streamOf subject)) durable config, .ok ()⟩] ∧
        Broker.answers api streamOf (.subscribe subject (given.getD (streamOf subject)) durable config)
          b₁ (.ok ()) b') := by
  have hfind : ∀ {r₀ : Except Exc String} {u : Broker V × JsTrace V},
      (streamOrFind subject given : Coroutine (jsSig V) String).Exec (Broker.answers api streamOf).logged
        (b, []) r₀ u → r₀ = .ok (given.getD (streamOf subject)) ∧ u.1 = b ∧
        ∀ e ∈ u.2, ¬ e.op.isAddConsumer ∧ ¬ e.op.isSubscribe := by
    intro r₀ u h₀
    cases given with
    | some stream =>
      obtain ⟨rfl, rfl⟩ := h₀
      exact ⟨rfl, rfl, List.forall_mem_nil _⟩
    | none =>
      obtain ⟨⟨hx, hb⟩, hl⟩ := exec_perform.mp h₀
      refine ⟨hx, hb, ?_⟩
      rw [hl]
      exact List.forall_mem_singleton.mpr ⟨Bool.false_ne_true, Bool.false_ne_true⟩
  rcases exec_bind.mp h with ⟨exc, -, h₀⟩ | ⟨found, ⟨u, pre⟩, h₀, h₁⟩
  · cases (hfind h₀).1
  obtain ⟨hfound, hu, hpre⟩ := hfind h₀
  obtain rfl : u = b := hu
  cases hfound
  rcases exec_bind.mp h₁ with ⟨exc, rfl, h₂⟩ | ⟨⟨⟩, ⟨b₁, l₁⟩, h₂, h₃⟩
  · obtain ⟨tr₁, rfl, he⟩ := exec_ensureConsumerConfig h₂
    exact ⟨pre, tr₁, [], _, hpre, he, (List.append_nil _).symm, Or.inl ⟨⟨exc, rfl⟩, rfl, rfl⟩⟩
  · obtain ⟨tr₁, rfl, he⟩ := exec_ensureConsumerConfig h₂
    obtain ⟨hsub, hl⟩ := exec_perform.mp h₃
    obtain rfl : r = .ok () := hsub.1
    exact ⟨pre, tr₁, _, _, hpre, he, hl, Or.inr ⟨rfl, rfl, hsub⟩⟩

/-! ### What is ensured -/

namespace Ensured

theorem not_subscribe (h : Ensured api b stream durable config tr r b') :
    ∀ e ∈ tr, ¬ e.op.isSubscribe := by
  cases h with
  | refused => exact List.forall_mem_nil _
  | missing | inStep => exact List.forall_mem_singleton.mpr Bool.false_ne_true
  | updated | rejected =>
    exact List.forall_mem_cons.mpr
      ⟨Bool.false_ne_true, List.forall_mem_singleton.mpr Bool.false_ne_true⟩

theorem of_not_supports (h : Ensured api b stream durable config tr r b')
    (hs : ¬ Supports api config) :
    tr = [] ∧ (∃ message, r = .error (.valueError message)) ∧ b' = b := by
  cases h with
  | refused => exact ⟨rfl, ⟨_, rfl⟩, rfl⟩
  | missing hd => exact absurd (declared_ok hd) hs
  | inStep hd => exact absurd (declared_ok hd) hs
  | updated hd => exact absurd (declared_ok hd) hs
  | rejected hd => exact absurd (declared_ok hd) hs

theorem of_missing (h : Ensured api b stream durable config tr r b') (hs : Supports api config)
    (hb : b.stored stream (api.text durable) = none) :
    r = .ok () ∧ b' = b ∧ ∀ e ∈ tr, ¬ e.op.isAddConsumer := by
  cases h with
  | refused hd => exact absurd hs (declared_error hd)
  | missing => exact ⟨rfl, rfl, List.forall_mem_singleton.mpr Bool.false_ne_true⟩
  | inStep hd hc => exact absurd (hc.symm.trans hb) (Option.some_ne_none _)
  | updated hd hc => exact absurd (hc.symm.trans hb) (Option.some_ne_none _)
  | rejected hd hc => exact absurd (hc.symm.trans hb) (Option.some_ne_none _)

variable {current : ConsumerConfig V}

theorem update_iff (h : Ensured api b stream durable config tr r b') (hs : Supports api config)
    (hb : b.stored stream (api.text durable) = some current) :
    (∃ e ∈ tr, e.op.isAddConsumer) ↔ ∃ name, Sets api config name ∧ current name ≠ config name := by
  cases h with
  | refused hd => exact absurd hs (declared_error hd)
  | missing hd hc => exact absurd (hb.symm.trans hc) (Option.some_ne_none _)
  | inStep hd hc hdrift =>
    obtain rfl := Option.some.inj (hb.symm.trans hc)
    rw [← drift_ne_nil hd]
    refine iff_of_false ?_ (not_not.mpr hdrift)
    rintro ⟨e, he, hadd⟩
    rw [List.mem_singleton.mp he] at hadd
    cases hadd
  | updated hd hc hdrift =>
    obtain rfl := Option.some.inj (hb.symm.trans hc)
    rw [← drift_ne_nil hd]
    exact iff_of_true ⟨_, List.mem_cons_of_mem _ List.mem_cons_self, rfl⟩ hdrift
  | rejected hd hc hdrift =>
    obtain rfl := Option.some.inj (hb.symm.trans hc)
    rw [← drift_ne_nil hd]
    exact iff_of_true ⟨_, List.mem_cons_of_mem _ List.mem_cons_self, rfl⟩ hdrift

theorem accepted (h : Ensured api b stream durable config tr r b') (hs : Supports api config)
    (hb : b.stored stream (api.text durable) = some current)
    (hok : ∀ e ∈ tr, e.op.isAddConsumer → e.Ok) :
    r = .ok () ∧ (∃ stored, b'.stored stream (api.text durable) = some stored ∧
      ∀ name, stored name = if Sets api config name then config name else current name) ∧
    ∀ s d, ¬ (s = stream ∧ d = api.text durable) → b'.stored s d = b.stored s d := by
  cases h with
  | refused hd => exact absurd hs (declared_error hd)
  | missing hd hc => exact absurd (hb.symm.trans hc) (Option.some_ne_none _)
  | inStep hd hc hdrift =>
    obtain rfl := Option.some.inj (hb.symm.trans hc)
    refine ⟨rfl, ⟨current, hb, fun name => ?_⟩, fun _ _ _ => rfl⟩
    split
    · rename_i hn
      exact of_drift_nil hd hdrift hn
    · rfl
  | updated hd hc hdrift =>
    obtain rfl := Option.some.inj (hb.symm.trans hc)
    have hname := durable_name_evolve hd hb
    exact ⟨rfl, ⟨_, b.stored_put hname, evolve_drift hd⟩, fun s d hne => b.stored_put_of_ne hname hne⟩
  | rejected => exact absurd (hok _ (List.mem_cons_of_mem _ List.mem_cons_self) rfl) Event.not_ok_mk

theorem of_rejected (h : Ensured api b stream durable config tr r b') {e : Event (jsSig V) Exc}
    (he : e ∈ tr) (hadd : e.op.isAddConsumer) (hnok : ¬ e.Ok) :
    (∃ message, r = .error (.runtimeError message)) ∧ b' = b := by
  cases h with
  | refused => cases he
  | missing | inStep =>
    rw [List.mem_singleton.mp he] at hadd
    cases hadd
  | updated =>
    rcases List.mem_cons.mp he with rfl | he
    · cases hadd
    · rw [List.mem_singleton.mp he] at hnok
      exact absurd Event.ok_mk hnok
  | rejected => exact ⟨⟨_, rfl⟩, rfl⟩

/-- A durable that has what the config sets is left as it is. -/
theorem of_settled (h : Ensured api b stream durable config tr r b') (hs : Supports api config)
    (hb : b.stored stream (api.text durable) = some current)
    (hset : ∀ name, Sets api config name → current name = config name) :
    r = .ok () ∧ b' = b ∧ ∀ e ∈ tr, ¬ e.op.isAddConsumer := by
  have hno : ¬ ∃ e ∈ tr, e.op.isAddConsumer := by
    rw [h.update_iff hs hb]
    rintro ⟨name, hn, hdiff⟩
    exact hdiff (hset name hn)
  have hadd : ∀ e ∈ tr, ¬ e.op.isAddConsumer := fun e he ha => hno ⟨e, he, ha⟩
  cases h with
  | refused hd => exact absurd hs (declared_error hd)
  | missing | inStep => exact ⟨rfl, rfl, hadd⟩
  | updated | rejected => exact absurd rfl (hadd _ (List.mem_cons_of_mem _ List.mem_cons_self))

end Ensured

/-! ### The contract -/

/-- What one `subscribe_durable` does to the durable of the stream. -/
structure Reconciled (api : NatsApi V) (streamOf : String → String) (subject durable : String)
    (config : ConsumerConfig V) (given : Option String) (stream : String) (b : Broker V)
    (tr : JsTrace V) (r : Except Exc Unit) (b' : Broker V) : Prop where
  /-- A config that sets another field is refused. -/
  refused : ¬ Supports api config → (∃ message, r = .error (.valueError message)) ∧ b' = b ∧
    ∀ e ∈ tr, ¬ e.op.isAddConsumer ∧ ¬ e.op.isSubscribe
  /-- An update is asked for exactly if a field that is set differs. -/
  update_iff : Supports api config → ∀ current, b.stored stream (api.text durable) = some current →
    ((∃ e ∈ tr, e.op.isAddConsumer) ↔ ∃ name, Sets api config name ∧ current name ≠ config name)
  /-- Unless it is rejected, the fields set are as requested, and the others,
  and the other durables, as they were. -/
  accepted : Supports api config → ∀ current, b.stored stream (api.text durable) = some current →
    (∀ e ∈ tr, e.op.isAddConsumer → e.Ok) → r = .ok () ∧
      (∃ stored, b'.stored stream (api.text durable) = some stored ∧
        ∀ name, stored name = if Sets api config name then config name else current name) ∧
      (∀ s d, ¬ (s = stream ∧ d = api.text durable) → b'.stored s d = b.stored s d) ∧
      ∃ pre, tr = pre ++ [⟨.subscribe subject stream durable config, .ok ()⟩]
  rejected : ∀ e ∈ tr, e.op.isAddConsumer → ¬ e.Ok →
    (∃ message, r = .error (.runtimeError message)) ∧ b' = b ∧ ∀ e ∈ tr, ¬ e.op.isSubscribe
  /-- A durable that does not exist is created by the subscription. -/
  missing : Supports api config → b.stored stream (api.text durable) = none → r = .ok () ∧
    ∃ pre inbox, tr = pre ++ [⟨.subscribe subject stream durable config, .ok ()⟩] ∧
      (∀ e ∈ pre, ¬ e.op.isAddConsumer ∧ ¬ e.op.isSubscribe) ∧
      b' = b.put stream (createdConfig api subject durable inbox config)
  /-- Once it has returned, the same call writes nothing. -/
  again : r = .ok () → ∀ tr' r' b'', Subscribes api streamOf subject durable config given b' tr' r' b'' →
    b'' = b' ∧ r' = .ok () ∧ ∀ e ∈ tr', ¬ e.op.isAddConsumer

/-- A subscription to a durable that is there writes nothing. -/
theorem subscribed_existing {current : ConsumerConfig V}
    (hb : b.stored stream (api.text durable) = some current)
    (h : Broker.answers api streamOf (.subscribe subject stream durable config) b (.ok ()) b') : b' = b := by
  obtain ⟨-, h⟩ := h
  rw [hb] at h
  exact h

/-- One to a durable that is not creates it. -/
theorem subscribed_missing (hb : b.stored stream (api.text durable) = none)
    (h : Broker.answers api streamOf (.subscribe subject stream durable config) b (.ok ()) b') :
    ∃ inbox, b' = b.put stream (createdConfig api subject durable inbox config) := by
  obtain ⟨-, h⟩ := h
  rw [hb] at h
  exact h

omit [DecidableEq V] in
/-- The updates of a subscription are those of its reconciliation. -/
theorem mem_updates {pre tr₁ tr₂ : JsTrace V}
    (hpre : ∀ e ∈ pre, ¬ e.op.isAddConsumer ∧ ¬ e.op.isSubscribe)
    (hpost : ∀ e ∈ tr₂, ¬ e.op.isAddConsumer) {e : Event (jsSig V) Exc} (he : e ∈ pre ++ tr₁ ++ tr₂)
    (hadd : e.op.isAddConsumer) : e ∈ tr₁ := by
  rcases List.mem_append.mp he with he | he
  · exact (List.mem_append.mp he).resolve_left fun he => (hpre e he).1 hadd
  · exact absurd hadd (hpost e he)

/-- Once it has returned, the durable has what the config sets. -/
theorem settled_of_returned
    (h : Subscribes api streamOf subject durable config given b tr (.ok ()) b') : Supports api config ∧
      ∃ current, b'.stored (given.getD (streamOf subject)) (api.text durable) = some current ∧
        ∀ name, Sets api config name → current name = config name := by
  obtain ⟨pre, tr₁, post, b₁, -, he, -, hend⟩ := subscribes_cases h
  obtain ⟨-, -, hsub⟩ := hend.resolve_left fun ⟨⟨exc, he⟩, _⟩ => by cases he
  cases he with
  | missing hd hb =>
    have hs := declared_ok hd
    obtain ⟨inbox, rfl⟩ := subscribed_missing hb hsub
    obtain ⟨hname, hfields⟩ := createdConfig_apply api config subject durable inbox
    exact ⟨hs, _, b.stored_put hname, fun name hn => hfields name (hs name hn)⟩
  | inStep hd hb hdrift =>
    obtain rfl := subscribed_existing hb hsub
    exact ⟨declared_ok hd, _, hb, fun name => of_drift_nil hd hdrift⟩
  | updated hd hb hdrift =>
    have hput : (b.put (given.getD (streamOf subject)) _).stored (given.getD (streamOf subject))
        (api.text durable) = some _ := b.stored_put (durable_name_evolve hd hb)
    obtain rfl := subscribed_existing hput hsub
    exact ⟨declared_ok hd, _, hput, fun name hn => (evolve_drift hd name).trans (if_pos hn)⟩

/-- **Reconciling a durable consumer.** -/
theorem subscribe_durable_reconciles
    (h : Subscribes api streamOf subject durable config given b tr r b') :
    Reconciled api streamOf subject durable config given (given.getD (streamOf subject)) b tr r b' := by
  obtain ⟨pre, tr₁, post, b₁, hpre, he, htr, hend⟩ := subscribes_cases h
  have hpost : ∀ e ∈ post, ¬ e.op.isAddConsumer := by
    rcases hend with ⟨-, rfl, -⟩ | ⟨-, rfl, -⟩
    · exact List.forall_mem_nil _
    · exact List.forall_mem_singleton.mpr Bool.false_ne_true
  have hadd : ∀ e ∈ tr, e.op.isAddConsumer → e ∈ tr₁ := fun e hmem =>
    mem_updates hpre hpost (htr ▸ hmem)
  have hin : ∀ e ∈ tr₁, e ∈ tr := fun e hmem => by
    rw [htr]
    exact List.mem_append_left _ (List.mem_append_right _ hmem)
  -- a reconciliation that raises is the end
  have hraise : (∃ exc, r = .error exc) → tr = pre ++ tr₁ ∧ b' = b₁ := by
    rintro ⟨exc, hr⟩
    rcases hend with ⟨-, rfl, hb⟩ | ⟨hok, -⟩
    · exact ⟨htr.trans (List.append_nil _), hb⟩
    · cases hr.symm.trans hok
  have hreturn : r = .ok () → _ := fun hr => hend.resolve_left fun ⟨⟨exc, he⟩, _⟩ => by
    cases hr.symm.trans he
  refine ⟨fun hs => ?_, fun hs current hb => ?_, fun hs current hb hok => ?_, fun e hmem ha hnok => ?_,
    fun hs hb => ?_, fun hr => ?_⟩
  · obtain ⟨rfl, ⟨message, hr⟩, rfl⟩ := he.of_not_supports hs
    obtain ⟨rfl, rfl⟩ := hraise ⟨_, hr⟩
    exact ⟨⟨message, hr⟩, rfl, List.forall_mem_append.mpr ⟨hpre, List.forall_mem_nil _⟩⟩
  · rw [← he.update_iff hs hb]
    exact ⟨fun ⟨e, hmem, ha⟩ => ⟨e, hadd e hmem ha, ha⟩, fun ⟨e, hmem, ha⟩ => ⟨e, hin e hmem, ha⟩⟩
  · obtain ⟨hr, ⟨stored, hstored, hfields⟩, hframe⟩ :=
      he.accepted hs hb fun e hmem ha => hok e (hin e hmem) ha
    obtain ⟨-, rfl, hsub⟩ := hreturn hr
    obtain rfl := subscribed_existing hstored hsub
    exact ⟨hr, ⟨stored, hstored, hfields⟩, hframe, _, htr⟩
  · obtain ⟨⟨message, hr⟩, rfl⟩ := he.of_rejected (hadd e hmem ha) ha hnok
    obtain ⟨rfl, rfl⟩ := hraise ⟨_, hr⟩
    exact ⟨⟨message, hr⟩, rfl, List.forall_mem_append.mpr ⟨fun e he => (hpre e he).2, he.not_subscribe⟩⟩
  · obtain ⟨hr, rfl, hcalls⟩ := he.of_missing hs hb
    obtain ⟨-, rfl, hsub⟩ := hreturn hr
    obtain ⟨inbox, rfl⟩ := subscribed_missing hb hsub
    exact ⟨hr, _, inbox, htr, List.forall_mem_append.mpr
      ⟨hpre, fun e he' => ⟨hcalls e he', he.not_subscribe e he'⟩⟩, rfl⟩
  · subst hr
    obtain ⟨hs, current, hcurrent, hset⟩ := settled_of_returned h
    intro tr' r' b'' h'
    obtain ⟨pre', tr₁', post', b₁', hpre', he', htr', hend'⟩ := subscribes_cases h'
    obtain ⟨hr', rfl, hcalls'⟩ := he'.of_settled hs hcurrent hset
    obtain ⟨-, rfl, hsub'⟩ := hend'.resolve_left fun ⟨⟨exc, he⟩, _⟩ => by cases hr'.symm.trans he
    have hpost' : ∀ e ∈ ([⟨.subscribe subject (given.getD (streamOf subject)) durable config, .ok ()⟩] :
        JsTrace V), ¬ e.op.isAddConsumer := List.forall_mem_singleton.mpr Bool.false_ne_true
    exact ⟨subscribed_existing hcurrent hsub', hr', fun e hmem ha =>
      hcalls' e (mem_updates hpre' hpost' (htr' ▸ hmem) ha) ha⟩

end

/-- The durable of an earlier build, brought in step. -/
def updatedBroker : Broker String :=
  earlierBroker.put "DOCGEN" (earlier.evolve [("ack_wait", "30"), ("max_deliver", "5")])

theorem subscribes_earlier : Subscribes textApi (fun _ => "DOCGEN") "docgen.request" "worker"
    (waitDeliver "30" "5") (some "DOCGEN") earlierBroker
    [⟨.consumerInfo "DOCGEN" "worker", .ok earlier⟩,
      ⟨.addConsumer "DOCGEN" (earlier.evolve [("ack_wait", "30"), ("max_deliver", "5")]), .ok ()⟩,
      ⟨.subscribe "docgen.request" "DOCGEN" "worker" (waitDeliver "30" "5"), .ok ()⟩]
    (.ok ()) updatedBroker := by
  have hd : declaredConsumerFields textApi (waitDeliver "30" "5") =
      .ok [("ack_wait", "30"), ("max_deliver", "5")] := by rfl
  have hensure : (ensureConsumerConfig textApi "DOCGEN" "worker" (waitDeliver "30" "5")).Exec
      (Broker.answers textApi fun _ => "DOCGEN").logged (earlierBroker, []) (.ok ()) (updatedBroker,
        [⟨.consumerInfo "DOCGEN" "worker", .ok earlier⟩,
          ⟨.addConsumer "DOCGEN" (earlier.evolve [("ack_wait", "30"), ("max_deliver", "5")]), .ok ()⟩]) := by
    rw [ensureConsumerConfig, hd]
    let read : Broker String × JsTrace String :=
      (earlierBroker, [⟨.consumerInfo "DOCGEN" "worker", .ok earlier⟩])
    exact exec_bind.mpr (.inr ⟨some earlier, read, ⟨.ok earlier, read, ⟨⟨rfl, rfl⟩, rfl⟩, rfl, rfl⟩,
      ⟨.ok (), (updatedBroker, _), ⟨.inl ⟨rfl, rfl⟩, rfl⟩, rfl, rfl⟩⟩)
  have hsubscribe : Broker.answers textApi (fun _ => "DOCGEN")
      (.subscribe "docgen.request" "DOCGEN" "worker" (waitDeliver "30" "5")) updatedBroker (.ok ())
      updatedBroker := by
    have hput : updatedBroker.stored "DOCGEN" (textApi.text "worker") = some _ :=
      earlierBroker.stored_put rfl
    rw [Broker.answers, hput]
    exact ⟨rfl, rfl⟩
  exact exec_bind.mpr (.inr ⟨"DOCGEN", (earlierBroker, []), ⟨rfl, rfl⟩,
    exec_bind.mpr (.inr ⟨(), _, hensure, exec_perform.mpr ⟨hsubscribe, rfl⟩⟩)⟩)

/-- Both fields are written, and the name stays. -/
theorem subscribe_durable_reconciles_earlier : ∃ stored, updatedBroker.stored "DOCGEN" "worker" = some stored ∧
    stored "ack_wait" = "30" ∧ stored "max_deliver" = "5" ∧ stored "durable_name" = "worker" := by
  have hs : Supports textApi (waitDeliver "30" "5") := by
    have hfields : ∀ name ∈ textApi.fields,
        Sets textApi (waitDeliver "30" "5") name → name ∈ reconciledConsumerFields := by decide
    exact fun name hn => hfields name hn.1 hn
  obtain ⟨-, ⟨stored, hstored, hfields⟩, -⟩ :=
    (subscribe_durable_reconciles subscribes_earlier).accepted hs earlier rfl (by
      simp only [List.forall_mem_cons]
      exact ⟨nofun, fun _ => Event.ok_mk, nofun, List.forall_mem_nil _⟩)
  refine ⟨stored, hstored, ?_, ?_, ?_⟩
  · rw [hfields, if_pos (by decide)]
    rfl
  · rw [hfields, if_pos (by decide)]
    rfl
  · rw [hfields, if_neg (by decide)]
    rfl

end DocGen
