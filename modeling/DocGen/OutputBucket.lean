/-
# Duplicate runs of one request and the output bucket

A message may be delivered again while an earlier handling of it still stores
its artifacts, so any number of runs of one request write the same keys. They
go on side by side, one port call or S3 request at a time (`Threads`), and
each may stop for good at any point. What the template and its renderers
answer is fixed (`World`); every call may also raise, an upload before or
after it took effect.

The assertion of a run is its trace: the uploads that returned are in the
bucket. It is stable, since every upload of any run writes the one object of
its format under a key of its own (`objectKey_injective`).
-/
import DocGen.Lib.Threads
import DocGen.Pipeline
import DocGen.Storage

namespace DocGen

open Prog

/-- An object of a bucket. -/
structure StoredObject where
  body : Bytes
  contentType : Option String
  deriving DecidableEq

/-- The objects of every bucket, by bucket and key. -/
abbrev ObjectStorage : Type := String → String → Option StoredObject

/-- The storage with one object written. -/
def ObjectStorage.put (s : ObjectStorage) (bucket key : String) (o : StoredObject) :
    ObjectStorage :=
  fun b k => if b = bucket ∧ k = key then some o else s b k

theorem ObjectStorage.put_self (s : ObjectStorage) (bucket key : String) (o : StoredObject) :
    s.put bucket key o bucket key = some o := by
  simp [ObjectStorage.put]

theorem ObjectStorage.put_of_ne (s : ObjectStorage) {bucket key b k : String} (o : StoredObject)
    (h : ¬ (b = bucket ∧ k = key)) : s.put bucket key o b k = s b k := by
  simp [ObjectStorage.put, h]

/-- The template, the registry and the renderers that the runs of one request
share. The renderers are functions of their arguments, and name an artifact
after its format. -/
structure World (ρ : Type) where
  bundle : TemplateBundle
  registry : Engine → OutputFormat → Option ρ
  render : ρ → TemplateBundle → JsonDict → OutputFormat → Option String → RenderedArtifact
  filename : ∀ renderer data fmt locale,
    (render renderer bundle data fmt locale).filename = bundle.manifest.filenameFor fmt

/-- The calls of a run: those of the ports but `put`, and S3 requests. -/
abbrev runSig (ρ : Type) : Sig := (portSig ρ).sum s3Sig

/-- The ports of a run: bare calls, with the adapter of the output bucket. -/
def storePorts (ρ : Type) (bucket : String) (sha256 : Bytes → String) : Ports (runSig ρ) ρ where
  fetch uri := ((Ports.calls ρ).fetch uri).inl
  get engine fmt := ((Ports.calls ρ).get engine fmt).inl
  validate data schema := ((Ports.calls ρ).validate data schema).inl
  run renderer bundle data fmt locale := ((Ports.calls ρ).run renderer bundle data fmt locale).inl
  put key content contentType presignTtl :=
    (objectStorePut bucket sha256 key content contentType presignTtl).inr

namespace World

variable {ρ : Type} (w : World ρ)

/-- The answers of the ports. A `put` is the adapter's: no run calls it. -/
def answers : ∀ op : PortOp ρ, Except Exc op.Res → Prop
  | .fetch _, x => ∀ b, x = .ok b → b = w.bundle
  | .get engine fmt, x => ∀ renderer, x = .ok renderer → renderer = w.registry engine fmt
  | .validate _ _, _ => True
  | .run renderer bundle data fmt locale, x =>
    ∀ art, x = .ok art → art = w.render renderer bundle data fmt locale
  | .put _ _ _ _, x => ∃ exc, x = .error exc

/-- What a call of a run does to the storage. -/
def sem : Sem (runSig ρ) Exc ObjectStorage
  | .inl op, s, x, t => w.answers op x ∧ t = s
  | .inr (.putObject bucket key body contentType), s, x, t =>
    t = s.put bucket key ⟨body, contentType⟩ ∨ ((∃ exc, x = .error exc) ∧ t = s)
  | .inr _, s, _, t => t = s

variable (request : GenerationRequest)

/-- The key of a format's artifact. -/
def key (fmt : OutputFormat) : String :=
  buildObjectKey request.keyPrefix (w.bundle.manifest.filenameFor fmt)

/-- The keys of a request are pairwise distinct. -/
theorem key_injective {f g : OutputFormat} (h : w.key request f = w.key request g) : f = g :=
  objectKey_injective request.keyPrefix w.bundle.manifest h

/-- The one artifact of a format, if the registry has a renderer for it. -/
def artifact (fmt : OutputFormat) : Option RenderedArtifact :=
  (w.registry w.bundle.manifest.engine fmt).map fun renderer =>
    w.render renderer w.bundle request.data fmt request.options.locale

/-- The object it is stored as. -/
def object (fmt : OutputFormat) : Option StoredObject :=
  (w.artifact request fmt).map fun art => ⟨art.content, some art.contentType⟩

end World

/-- What a result says of an artifact. -/
def Artifact.entry (a : Artifact) : OutputFormat × String × ℕ × String :=
  (a.format, a.uri, a.sizeBytes, a.sha256)

/-- The entries of every successful result of a request. -/
def World.entries {ρ : Type} (w : World ρ) (request : GenerationRequest) (bucket : String)
    (sha256 : Bytes → String) : List (OutputFormat × String × ℕ × String) :=
  request.requestedFormats.filterMap fun fmt => (w.artifact request fmt).map fun art =>
    (art.format, objectUri bucket (w.key request fmt), art.content.length, sha256 art.content)

/-- One run of the request. -/
def execution (ρ : Type) (request : GenerationRequest) (bucket : String) (sha256 : Bytes → String)
    (generatedAt : String) : Coroutine (runSig ρ) GenerationResult :=
  processRequest (storePorts ρ bucket sha256) request generatedAt

section

variable {ρ : Type} (w : World ρ) (request : GenerationRequest) (bucket : String)

/-- An upload of a format's object. -/
def uploadOp (fmt : OutputFormat) (o : StoredObject) : (runSig ρ).Op :=
  .inr (.putObject bucket (w.key request fmt) o.body o.contentType)

/-- An answer that the world can give to a call of a run. -/
def Admissible : Event (runSig ρ) Exc → Prop
  | ⟨.inl op, x⟩ => w.answers op x
  | ⟨.inr _, _⟩ => True

end

/-! ### The uploads of a run -/

section

variable {ρ : Type} {w : World ρ} {request : GenerationRequest} {bucket : String}
  {sha256 : Bytes → String} {generatedAt : String} {es : PortTrace ρ}
  {tr : List (Event (runSig ρ) Exc)}

/-- A call of a port other than `put` is a call of the run. -/
theorem impl_runs {op : PortOp ρ} {x : Except Exc op.Res} {t : List (Event (runSig ρ) Exc)}
    (hop : op.isPut = false) (h : ((storePorts ρ bucket sha256).impl op).Runs t x) :
    t = [⟨.inl op, x⟩] := by
  have hinl : ∀ {op : PortOp ρ} {x}, ((Prog.perform (S := portSig ρ) op).inl (T := s3Sig)).Runs t x →
      t = [⟨.inl op, x⟩] := by
    intro op x h
    obtain ⟨t', rfl, ht⟩ := runs_inl.mp h
    rw [runs_perform.mp ht]
    rfl
  cases op with
  | put => cases hop
  | _ => exact hinl h

theorem answer_of_mem (hi : Implements (storePorts ρ bucket sha256).impl es tr)
    (ha : ∀ e ∈ tr, Admissible w e) {e : Event (portSig ρ) Exc} (he : e ∈ es)
    (hop : e.op.isPut = false) : w.answers e.op e.ans := by
  obtain ⟨t, hsub, hr⟩ := hi.run he
  obtain rfl := impl_runs hop hr
  exact ha _ (hsub _ List.mem_cons_self)

/-- What a run renders for a format is the world's artifact for it. -/
theorem rendered_artifact (hi : Implements (storePorts ρ bucket sha256).impl es tr)
    (ha : ∀ e ∈ tr, Admissible w e) {bundle : TemplateBundle}
    {z : (OutputFormat × ρ) × RenderedArtifact} (hf : fetched request bundle ∈ es)
    (hx : found bundle z.1 ∈ es) (hz : rendered request bundle z ∈ es) :
    bundle = w.bundle ∧ w.artifact request z.1.1 = some z.2 ∧
      z.2.filename = w.bundle.manifest.filenameFor z.1.1 := by
  obtain rfl : bundle = w.bundle := answer_of_mem hi ha hf rfl _ rfl
  have hreg : some z.1.2 = w.registry w.bundle.manifest.engine z.1.1 :=
    answer_of_mem hi ha hx rfl _ rfl
  have hart : z.2 = w.render z.1.2 w.bundle request.data z.1.1 request.options.locale :=
    answer_of_mem hi ha hz rfl _ rfl
  refine ⟨rfl, ?_, ?_⟩
  · rw [World.artifact, ← hreg, hart]
    rfl
  · rw [hart, w.filename]

/-- The upload of an artifact. -/
def artUpload (request : GenerationRequest) (bucket : String) (art : RenderedArtifact) :
    (runSig ρ).Op :=
  .inr (.putObject bucket (buildObjectKey request.keyPrefix art.filename) art.content
    (some art.contentType))

theorem artUpload_eq {art : RenderedArtifact} {fmt : OutputFormat}
    (h : art.filename = w.bundle.manifest.filenameFor fmt) : artUpload request bucket art =
      uploadOp w request bucket fmt ⟨art.content, some art.contentType⟩ := by
  show (Sum.inr _ : PortOp ρ ⊕ S3Op) = Sum.inr _
  rw [World.key, h]

/-- A put of a run is its upload, then at most a presigning. -/
theorem put_runs {art : RenderedArtifact} {x : Except Exc StoredArtifact}
    {t : List (Event (runSig ρ) Exc)}
    (h : ((storePorts ρ bucket sha256).impl (putOp request art)).Runs t x) :
    ∃ y tl, t = ⟨artUpload request bucket art, y⟩ :: tl ∧
      (∀ e ∈ tl, ∃ k ttl, e.op = .inr (.generatePresignedUrl bucket k ttl)) ∧
      ((y = .ok () ∧ ∃ url, x = .ok ⟨objectUri bucket (buildObjectKey request.keyPrefix art.filename),
        art.content.length, sha256 art.content, url⟩) ∨ ∃ exc, x = .error exc) := by
  obtain ⟨t', rfl, ht⟩ := runs_inr.mp h
  rcases objectStorePut_runs (contentType_ne art.format) ht with ⟨url, tl, rfl, rfl, htl⟩ |
    ⟨exc, rfl, rfl⟩
  · refine ⟨.ok (), tl.map Event.inr, rfl, List.forall_mem_map.mpr fun e he => ?_,
      Or.inl ⟨rfl, url, rfl⟩⟩
    obtain ⟨⟨ttl, hop⟩, -⟩ := htl e he
    exact ⟨_, ttl, congrArg Sum.inr hop⟩
  · exact ⟨.error exc, [], rfl, List.forall_mem_nil _, Or.inr ⟨_, rfl⟩⟩

/-- Every upload of a run is of the one object of a requested format. -/
theorem upload_origin {r : Except Exc GenerationResult}
    (h : (execution ρ request bucket sha256 generatedAt).Runs tr r)
    (ha : ∀ e ∈ tr, Admissible w e) {e : Event (runSig ρ) Exc} (he : e ∈ tr) {b k body ct}
    (hop : e.op = .inr (.putObject b k body ct)) :
    ∃ fmt ∈ request.requestedFormats, ∃ o, w.object request fmt = some o ∧
      e.op = uploadOp w request bucket fmt o := by
  unfold execution at h
  rw [← processRequest_interp, runs_interp] at h
  obtain ⟨es, hi, hr⟩ := h
  obtain ⟨e₀, he₀, t, het, -, ht⟩ := hi.mem he
  rcases hput : e₀.op.isPut with _ | _
  · obtain rfl := impl_runs hput ht
    rw [List.mem_singleton.mp het] at hop
    cases hop
  rcases process_request_runs hr with ⟨exc, rfl, -⟩ | ⟨bundle, r', hb, -⟩
  · rw [List.mem_singleton.mp he₀] at hput
    cases hput
  obtain ⟨z, hzF, hf, hx, hz, hop₀⟩ := hb.put_origin he₀ hput
  obtain ⟨rfl, hart, hname⟩ := rendered_artifact hi ha hf hx hz
  refine ⟨z.1.1, hzF, ⟨z.2.content, some z.2.contentType⟩, by rw [World.object, hart]; rfl, ?_⟩
  obtain ⟨op₀, x₀⟩ := e₀
  obtain rfl : op₀ = putOp request z.2 := hop₀
  obtain ⟨y, tl, rfl, htl, -⟩ := put_runs ht
  rcases List.mem_cons.mp het with rfl | het
  · exact artUpload_eq hname
  · obtain ⟨k', ttl, hop'⟩ := htl e het
    rw [hop'] at hop
    cases hop

/-- A run that ends with SUCCESS has uploaded the object of every format, and
lists the world's entries. -/
theorem success_stored {result : GenerationResult}
    (h : (execution ρ request bucket sha256 generatedAt).Runs tr (.ok result))
    (ha : ∀ e ∈ tr, Admissible w e) (hs : result.status = .success) :
    (∀ fmt ∈ request.requestedFormats, ∃ o, w.object request fmt = some o ∧
      ∃ e ∈ tr, e.op = uploadOp w request bucket fmt o ∧ e.Ok) ∧
    result.artifacts.map Artifact.entry = w.entries request bucket sha256 := by
  unfold execution at h
  rw [← processRequest_interp, runs_interp] at h
  obtain ⟨es, hi, hr⟩ := h
  obtain ⟨bundle, arts, puts, hc, hA, rfl, hres⟩ := success_done hr hs
  have hz : ∀ z ∈ arts, bundle = w.bundle ∧ w.artifact request z.1.1 = some z.2 ∧
      z.2.filename = w.bundle.manifest.filenameFor z.1.1 := by
    intro z hz
    obtain ⟨hf, hx, hr⟩ := mem_phases hz (puts.map (stored request))
    exact rendered_artifact hi ha hf hx hr
  have hp : ∀ p ∈ puts, ∃ url, p.2 = ⟨objectUri bucket (buildObjectKey request.keyPrefix p.1.filename),
      p.1.content.length, sha256 p.1.content, url⟩ ∧
      ∃ e ∈ tr, e.op = artUpload request bucket p.1 ∧ e.Ok := by
    intro p hp
    have hmem : stored request p ∈ gate request bundle (arts.map Prod.fst) ++
        (arts.map (rendered request bundle) ++ puts.map (stored request)) :=
      List.mem_append_right _ (List.mem_append_right _ (List.mem_map_of_mem hp))
    obtain ⟨t, hsub, hr⟩ := hi.run hmem
    obtain ⟨y, tl, rfl, -, ⟨rfl, url, hx⟩ | ⟨_, hx⟩⟩ := put_runs hr
    · exact ⟨url, Except.ok.inj hx, _, hsub _ List.mem_cons_self, rfl, Event.ok_mk⟩
    · cases hx
  have hF : request.requestedFormats = arts.map fun z => z.1.1 := by
    rw [← hc.formats, List.map_map]
    rfl
  constructor
  · intro fmt hfmt
    rw [hF] at hfmt
    obtain ⟨z, hzm, rfl⟩ := List.mem_map.mp hfmt
    obtain ⟨rfl, hart, hname⟩ := hz z hzm
    obtain ⟨p, hpm, hpz⟩ := List.mem_map.mp (hA ▸ List.mem_map_of_mem hzm : z.2 ∈ puts.map Prod.fst)
    obtain ⟨url, -, e, he, hop, hok⟩ := hp p hpm
    refine ⟨⟨z.2.content, some z.2.contentType⟩, by rw [World.object, hart]; rfl, e, he, ?_, hok⟩
    rw [hop, hpz, artUpload_eq hname]
  · let g : RenderedArtifact → OutputFormat × String × ℕ × String := fun art =>
      (art.format, objectUri bucket (buildObjectKey request.keyPrefix art.filename),
        art.content.length, sha256 art.content)
    have hleft : ∀ p ∈ puts, (resultArtifact p).entry = g p.1 := by
      intro p hpm
      obtain ⟨url, hx, -⟩ := hp p hpm
      simp [resultArtifact, Artifact.entry, hx, g]
    have hright : ∀ z ∈ arts, ((w.artifact request z.1.1).map fun art =>
        (art.format, objectUri bucket (w.key request z.1.1), art.content.length, sha256 art.content)) =
        some (g z.2) := by
      intro z hzm
      obtain ⟨rfl, hart, hname⟩ := hz z hzm
      simp [hart, g, World.key, hname]
    calc result.artifacts.map Artifact.entry
        = puts.map fun p => (resultArtifact p).entry := by rw [hres, List.map_map]; rfl
      _ = (puts.map Prod.fst).map g := by rw [List.map_map]; exact List.map_congr_left hleft
      _ = arts.filterMap fun z => some (g z.2) := by
        rw [hA, List.map_map, List.filterMap_eq_map']; rfl
      _ = w.entries request bucket sha256 := by
        rw [World.entries, hF, List.filterMap_map]
        exact (List.filterMap_congr hright).symm

/-! ### Any interleaving of the runs -/

/-- Any call of a run may raise. -/
theorem admissible_error {e : Event (runSig ρ) Exc} {exc : Exc} (h : e.ans = .error exc) :
    Admissible w e := by
  obtain ⟨op, x⟩ := e
  obtain rfl : x = .error exc := h
  rcases op with op | op
  · cases op with
    | put => exact ⟨exc, rfl⟩
    | validate => trivial
    | _ => intro _ h; cases h
  · trivial

/-- A call of a run changes nothing, or writes the object of one format. -/
theorem sem_upload {op : (runSig ρ).Op} {k : (runSig ρ).Ans Exc op → Coroutine (runSig ρ) GenerationResult}
    {s u : ObjectStorage} {x : (runSig ρ).Ans Exc op}
    (h : Steps (execution ρ request bucket sha256 generatedAt) tr (.call op k))
    (ha : ∀ e ∈ tr, Admissible w e) (hx : w.sem op s x u) :
    Admissible w ⟨op, x⟩ ∧ ((u = s ∧ ∀ fmt o, op = uploadOp w request bucket fmt o → ∃ exc, x = .error exc) ∨
      ∃ fmt ∈ request.requestedFormats, ∃ o, w.object request fmt = some o ∧
        op = uploadOp w request bucket fmt o ∧ u = s.put bucket (w.key request fmt) o) := by
  cases op with
  | inl op => exact ⟨hx.1, Or.inl ⟨hx.2, fun fmt o hop => by cases hop⟩⟩
  | inr op =>
    refine ⟨trivial, ?_⟩
    cases op with
    | putObject b key body ct =>
      rcases hx with rfl | ⟨hexc, rfl⟩
      · -- the run goes on to a complete one, with an error for every further call
        obtain ⟨tr', r, hr, ha'⟩ := (h.snoc x).extend fun _ => .error (.other "Exception" "")
        have hall : ∀ e ∈ (tr ++ [⟨.inr (.putObject b key body ct), x⟩]) ++ tr', Admissible w e := by
          intro e he
          rcases List.mem_append.mp he with he | he
          · rcases List.mem_append.mp he with he | he
            · exact ha e he
            · rw [List.mem_singleton.mp he]; trivial
          · exact admissible_error (ha' e he)
        obtain ⟨fmt, hF, o, ho, hop⟩ := upload_origin hr hall
          (List.mem_append_left _ (List.mem_append_right _ List.mem_cons_self)) rfl
        refine Or.inr ⟨fmt, hF, o, ho, hop, ?_⟩
        cases hop
        rfl
      · exact Or.inl ⟨rfl, fun _ _ _ => hexc⟩
    | _ => exact Or.inl ⟨hx, fun fmt o hop => by cases hop⟩

/-- The bucket has only been written by runs of the request. -/
structure Bucketed (w : World ρ) (request : GenerationRequest) (bucket : String)
    (s₀ s : ObjectStorage) : Prop where
  outside : ∀ b k, (b = bucket → ∀ fmt ∈ request.requestedFormats, k ≠ w.key request fmt) →
    s b k = s₀ b k
  inside : ∀ fmt ∈ request.requestedFormats,
    s bucket (w.key request fmt) = s₀ bucket (w.key request fmt) ∨
      ∃ o, w.object request fmt = some o ∧ s bucket (w.key request fmt) = some o

/-- What a run has uploaded is in the bucket. -/
structure Progress (w : World ρ) (request : GenerationRequest) (bucket : String)
    (sha256 : Bytes → String) (generatedAt : String) (tr : List (Event (runSig ρ) Exc))
    (p : Coroutine (runSig ρ) GenerationResult) (s : ObjectStorage) : Prop where
  steps : Steps (execution ρ request bucket sha256 generatedAt) tr p
  admissible : ∀ e ∈ tr, Admissible w e
  uploaded : ∀ fmt o, w.object request fmt = some o →
    (∃ e ∈ tr, e.op = uploadOp w request bucket fmt o ∧ e.Ok) →
      s bucket (w.key request fmt) = some o

variable {s₀ s u : ObjectStorage} {p : Coroutine (runSig ρ) GenerationResult}

theorem Bucketed.put (h : Bucketed w request bucket s₀ s) {fmt : OutputFormat}
    (hF : fmt ∈ request.requestedFormats) {o : StoredObject} (ho : w.object request fmt = some o) :
    Bucketed w request bucket s₀ (s.put bucket (w.key request fmt) o) where
  outside b k hk := by
    rw [ObjectStorage.put_of_ne _ _ fun hbk => hk hbk.1 fmt hF hbk.2]
    exact h.outside b k hk
  inside f hf := by
    by_cases hff : f = fmt
    · subst hff
      exact Or.inr ⟨o, ho, s.put_self ..⟩
    · rw [ObjectStorage.put_of_ne _ _ fun hbk => hff (w.key_injective request hbk.2)]
      exact h.inside f hf

/-- Another upload of a format's object leaves what is uploaded. -/
theorem Progress.put (h : Progress w request bucket sha256 generatedAt tr p s) {fmt : OutputFormat}
    {o : StoredObject} (ho : w.object request fmt = some o) :
    Progress w request bucket sha256 generatedAt tr p (s.put bucket (w.key request fmt) o) where
  steps := h.steps
  admissible := h.admissible
  uploaded f o' ho' he := by
    by_cases hff : f = fmt
    · subst hff
      rw [s.put_self, ← ho, ho']
    · rw [ObjectStorage.put_of_ne _ _ fun hbk => hff (w.key_injective request hbk.2)]
      exact h.uploaded f o' ho' he

/-- A call of a run keeps the invariant, leads to the run's next point, and
disturbs no other run. -/
theorem progress_step {op : (runSig ρ).Op}
    {k : (runSig ρ).Ans Exc op → Coroutine (runSig ρ) GenerationResult} {x : (runSig ρ).Ans Exc op}
    (hI : Bucketed w request bucket s₀ s)
    (h : Progress w request bucket sha256 generatedAt tr (.call op k) s) (hx : w.sem op s x u) :
    Bucketed w request bucket s₀ u ∧
      Progress w request bucket sha256 generatedAt (tr ++ [⟨op, x⟩]) (k x) u ∧
      ∀ at' tr' p', Progress w request bucket sha256 at' tr' p' s →
        Progress w request bucket sha256 at' tr' p' u := by
  obtain ⟨hadm, hu⟩ := sem_upload h.steps h.admissible hx
  have hall : ∀ e ∈ tr ++ [⟨op, x⟩], Admissible w e := by
    intro e he
    rcases List.mem_append.mp he with he | he
    · exact h.admissible e he
    · rw [List.mem_singleton.mp he]; exact hadm
  rcases hu with ⟨rfl, hno⟩ | ⟨fmt, hF, o, ho, hop, rfl⟩
  · refine ⟨hI, ⟨h.steps.snoc x, hall, fun f o hfo ⟨e, he, heop, hok⟩ => ?_⟩, fun _ _ _ => id⟩
    rcases List.mem_append.mp he with he | he
    · exact h.uploaded f o hfo ⟨e, he, heop, hok⟩
    · rw [List.mem_singleton.mp he] at heop hok
      obtain ⟨exc, rfl⟩ := hno f o heop
      exact absurd hok Event.not_ok_mk
  · refine ⟨hI.put hF ho, ⟨h.steps.snoc x, hall, fun f o' hfo ⟨e, he, heop, hok⟩ => ?_⟩,
      fun _ _ _ h' => h'.put ho⟩
    rcases List.mem_append.mp he with he | he
    · exact (h.put ho).uploaded f o' hfo ⟨e, he, heop, hok⟩
    · rw [List.mem_singleton.mp he] at heop
      have hkey : f = fmt := by
        have hops := heop.symm.trans hop
        injection hops with hops
        injection hops with _ hk
        exact w.key_injective request hk
      subst hkey
      rw [s.put_self, ← ho, hfo]

/-- Runs of the request, none of which has begun. -/
def duplicates (ρ : Type) {ι : Type} (request : GenerationRequest) (bucket : String)
    (sha256 : Bytes → String) (generatedAt : ι → String) (s₀ : ObjectStorage) :
    Threads (runSig ρ) Exc ι ObjectStorage GenerationResult :=
  ⟨s₀, fun i => execution ρ request bucket sha256 (generatedAt i)⟩

/-- What the duplicate runs have made of the storage. -/
structure Idempotent (w : World ρ) (request : GenerationRequest) (bucket : String)
    (sha256 : Bytes → String) (s₀ : ObjectStorage) {ι : Type}
    (c : Threads (runSig ρ) Exc ι ObjectStorage GenerationResult) : Prop where
  /-- Every key outside the request's is unchanged, in every bucket. -/
  outside : ∀ b k, (b = bucket → ∀ fmt ∈ request.requestedFormats, k ≠ w.key request fmt) →
    c.shared b k = s₀ b k
  /-- Every key of the request holds its initial object or that of its format. -/
  inside : ∀ fmt ∈ request.requestedFormats,
    c.shared bucket (w.key request fmt) = s₀ bucket (w.key request fmt) ∨
      ∃ o, w.object request fmt = some o ∧ c.shared bucket (w.key request fmt) = some o
  /-- Once a run has returned SUCCESS, every key holds the object of its format. -/
  stored : ∀ i result, c.thread i = .ret result → result.status = .success →
    ∀ fmt ∈ request.requestedFormats, ∃ o, w.object request fmt = some o ∧
      c.shared bucket (w.key request fmt) = some o
  /-- Every SUCCESS lists the same entries. -/
  results : ∀ i result, c.thread i = .ret result → result.status = .success →
    result.artifacts.map Artifact.entry = w.entries request bucket sha256
  /-- The size and the digest are those of the bytes stored at the URI. -/
  contents : ∀ i result, c.thread i = .ret result → result.status = .success →
    ∀ a ∈ result.artifacts, ∃ key o, a.uri = objectUri bucket key ∧ c.shared bucket key = some o ∧
      a.sizeBytes = o.body.length ∧ a.sha256 = sha256 o.body

theorem Progress.success {result : GenerationResult}
    (h : Progress w request bucket sha256 generatedAt tr (.ret result) s)
    (hs : result.status = .success) :
    (∀ fmt ∈ request.requestedFormats, ∃ o, w.object request fmt = some o ∧
      s bucket (w.key request fmt) = some o) ∧
    result.artifacts.map Artifact.entry = w.entries request bucket sha256 := by
  have hret : (Prog.ret result : Coroutine (runSig ρ) _).Runs [] (.ok result) := ⟨rfl, rfl⟩
  have hr := h.steps.runs hret
  rw [List.append_nil] at hr
  obtain ⟨hup, hres⟩ := success_stored hr h.admissible hs
  refine ⟨fun fmt hF => ?_, hres⟩
  obtain ⟨o, ho, he⟩ := hup fmt hF
  exact ⟨o, ho, h.uploaded fmt o ho he⟩

/-- Each entry is of the object of a format. -/
theorem mem_entries {e : OutputFormat × String × ℕ × String}
    (h : e ∈ w.entries request bucket sha256) : ∃ fmt ∈ request.requestedFormats, ∃ o,
      w.object request fmt = some o ∧ e.2 = (objectUri bucket (w.key request fmt), o.body.length,
        sha256 o.body) := by
  obtain ⟨fmt, hF, he⟩ := List.mem_filterMap.mp h
  obtain ⟨art, hart, rfl⟩ := Option.map_eq_some_iff.mp he
  exact ⟨fmt, hF, ⟨art.content, some art.contentType⟩, by rw [World.object, hart]; rfl, rfl⟩

variable {ι : Type} [DecidableEq ι] {at' : ι → String}
  {c c' : Threads (runSig ρ) Exc ι ObjectStorage GenerationResult}

theorem idempotent_of_reach
    (h : Threads.Reach w.sem (fun _ => false) (duplicates ρ request bucket sha256 at' s₀) c) :
    Idempotent w request bucket sha256 s₀ c := by
  have hgood : Threads.Good (Bucketed w request bucket s₀)
      (fun i (_ : Unit) p s => ∃ tr, Progress w request bucket sha256 (at' i) tr p s)
      (fun _ _ => True) c := by
    refine Threads.invariant (fun _ _ _ => trivial) ?_ ?_ h
    · intro i _ op k s x u q v hI hT hx hq
      obtain ⟨tr, hT⟩ := hT
      obtain ⟨rfl, rfl⟩ := block_none.mp hq
      obtain ⟨hI', hT', hother⟩ := progress_step hI hT hx
      exact ⟨hI', (), ⟨_, hT'⟩, fun j _ r _ _ ⟨tr', h'⟩ => ⟨⟨tr', hother _ _ _ h'⟩, trivial⟩⟩
    · refine ⟨⟨fun _ _ _ => rfl, fun _ _ => Or.inl rfl⟩, fun _ => (), fun i => ⟨[], .nil, ?_, ?_⟩,
        fun _ _ _ => trivial⟩
      · exact List.forall_mem_nil _
      · intro _ _ _ ⟨e, he, _⟩
        cases he
  obtain ⟨hI, _, hT, -⟩ := hgood
  have hsucc : ∀ i result, c.thread i = .ret result → result.status = .success →
      (∀ fmt ∈ request.requestedFormats, ∃ o, w.object request fmt = some o ∧
        c.shared bucket (w.key request fmt) = some o) ∧
      result.artifacts.map Artifact.entry = w.entries request bucket sha256 := by
    intro i result hi hs
    obtain ⟨tr, hP⟩ := hT i
    rw [hi] at hP
    exact hP.success hs
  refine ⟨hI.outside, hI.inside, fun i result hi hs => (hsucc i result hi hs).1,
    fun i result hi hs => (hsucc i result hi hs).2, fun i result hi hs a ha => ?_⟩
  obtain ⟨hst, hent⟩ := hsucc i result hi hs
  obtain ⟨fmt, hF, o, ho, he⟩ := mem_entries (hent ▸ List.mem_map_of_mem ha :
    a.entry ∈ w.entries request bucket sha256)
  obtain ⟨o', ho', hso⟩ := hst fmt hF
  obtain rfl : o = o' := Option.some.inj (ho.symm.trans ho')
  simp only [Artifact.entry, Prod.mk.injEq] at he
  exact ⟨_, o, he.1, hso, he.2.1, he.2.2⟩

/-- **Idempotent delivery.** In every state that any interleaving of any
number of runs of the request reaches, the storage is as one run leaves it;
and once a run has returned SUCCESS it stays so. -/
theorem duplicates_idempotent
    (h : Threads.Reach w.sem (fun _ => false) (duplicates ρ request bucket sha256 at' s₀) c) :
    Idempotent w request bucket sha256 s₀ c ∧
    ∀ i result, c.thread i = .ret result → result.status = .success →
      ∀ c', Threads.Reach w.sem (fun _ => false) c c' →
        ∀ fmt ∈ request.requestedFormats, ∃ o, w.object request fmt = some o ∧
          c'.shared bucket (w.key request fmt) = some o := by
  refine ⟨idempotent_of_reach h, fun i result hi hs c' hc' => ?_⟩
  exact (idempotent_of_reach (h.trans hc')).stored i result (Threads.ret_of_reach hc' hi) hs

end

/-- A world whose one renderer prints a fixed page. -/
def invoiceWorld : World Unit where
  bundle := invoiceBundle
  registry _ _ := some ()
  render _ bundle _ fmt _ := ⟨fmt, bundle.manifest.filenameFor fmt, [37, 80, 68, 70]⟩
  filename _ _ _ _ := rfl

/-- Two runs of one request over an empty storage: the one that returns has
SUCCESS, while the other has not begun. -/
theorem duplicates_idempotent_success : ∃ c : Threads (runSig Unit) Exc Bool ObjectStorage GenerationResult,
    (∃ result, c.thread true = .ret result ∧ result.status = .success) ∧
    Idempotent invoiceWorld makeRequest "outputs" (fun _ => "digest") (fun _ _ => none) c := by
  have hexec : ∃ result s, result.status = .success ∧
      (execution Unit makeRequest "outputs" (fun _ => "digest") "2026-06-18T00:00:00+00:00").Exec
        invoiceWorld.sem (fun _ _ => none) (.ok result) s := by
    refine ⟨_, _, ?_, .ok invoiceBundle, _, ⟨?_, rfl⟩, .ok (some ()), _, ⟨?_, rfl⟩, .ok (), _,
      ⟨trivial, rfl⟩, .ok ⟨.pdf, "invoice.pdf", [37, 80, 68, 70]⟩, _, ⟨?_, rfl⟩, .ok (), _, Or.inl rfl,
      rfl, rfl⟩
    · rfl
    all_goals intro _ h; cases h; rfl
  obtain ⟨result, s, hs, hx⟩ := hexec
  have hreach : Threads.Reach _ _ (duplicates Unit makeRequest "outputs" (fun _ => "digest")
      (fun _ : Bool => "2026-06-18T00:00:00+00:00") fun _ _ => none) _ :=
    Threads.reach_exec (fun _ => false) (i := true) hx rfl
  exact ⟨_, ⟨result, by simp, hs⟩, (duplicates_idempotent hreach).1⟩

end DocGen
