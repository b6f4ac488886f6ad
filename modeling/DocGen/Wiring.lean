/-
# The worker as it is wired

`_build_deps` of `worker/main.py`: the pipeline over the template store, the
registry, the JSON Schema validator, the render pool and the output bucket, and
the handler over NATS. Here these adapters are put together, and compared with
what the worker is for (`generate`): a function of the request and its template,
without calls.

A run that fetched its template answers what the function does, or some upload
failed or the pool broke, and then the failure is not final
(`build_result_justified`). What is published is so justified by the calls made
before it (`published_justified`), and two final answers to a request differ in their
times and presigned URLs only (`final_answers_agree`).

The files of a template do not change between its renders.
-/
import DocGen.BlockGate
import DocGen.FsFault
import DocGen.OutputBucket
import DocGen.Renderers
import DocGen.Transport

namespace DocGen

open Prog

/-! ### The wiring -/

/-- The calls of the worker's adapters. -/
abbrev adapterSig : Sig := storeSig.sum (executorSig Renderer)

/-- What the adapters are built from. -/
structure Wiring where
  store : TemplateStore
  schemas : JsonSchema
  outputBucket : String
  sha256 : Bytes → String

/-- The ports that `_build_deps` wires. The render executor has a semaphore. -/
def Wiring.ports (w : Wiring) : Ports adapterSig Renderer where
  fetch uri := (fetch w.store uri).inl
  get engine fmt := .ret (registryGet engine fmt)
  validate data schema := ofExcept (validate w.schemas data schema)
  run renderer bundle data fmt locale := (processPoolRun true ⟨renderer, bundle, data, fmt, locale⟩).inr
  put key content contentType presignTtl :=
    (objectStorePut w.outputBucket w.sha256 key content contentType presignTtl).inl.inl

/-- `_build_deps`, at two times of the clock. The decoder is set on the wire. -/
def Wiring.deps (w : Wiring) (maxDeliver nakDelay : ℕ) (startedAt failedAt : String) :
    HandlerDeps adapterSig Renderer where
  ports := w.ports
  maxDeliver := maxDeliver
  nakDelay := nakDelay
  startedAt := startedAt
  failedAt := failedAt
  decode _ := none

/-! ### What the worker is for -/

/-- The renderer of a requested format. -/
def checkedFormat (manifest : Manifest) (fmt : OutputFormat) : Except Exc (OutputFormat × Renderer) :=
  if fmt ∉ manifest.supportedFormats then
    .error (.docGen ⟨.unsupportedFormatError,
      "format " ++ pyRepr fmt.value ++ " not in template supported_formats [" ++
        ", ".intercalate (manifest.supportedFormats.map fun f => pyRepr f.value) ++ "]"⟩)
  else
    match registryGet manifest.engine fmt with
    | none =>
      .error (.docGen ⟨.unsupportedFormatError,
        "no renderer for engine " ++ pyRepr manifest.engine.value ++ " + format " ++ pyRepr fmt.value⟩)
    | some renderer => .ok (fmt, renderer)

/-- The behaviour of the libraries on the files of the templates. -/
structure Rendering (V δ : Type) where
  libraries : Libraries V δ
  files : Files
  extras : Manifest → ManifestExtras
  timeless : libraries.Timeless

section

variable {V δ : Type} (R : Rendering V δ) (w : Wiring) (request : GenerationRequest)

/-- The render of a request's format. It is the same at any time. -/
def Rendering.document (bundle : TemplateBundle) (x : OutputFormat × Renderer) : Except Exc RenderedArtifact :=
  render R.libraries R.files R.extras fixedTimestamp bundle request.data request.options.locale x.2 x.1

/-- **The worker as a function**: the documents of a request whose template is
`bundle`, or the error it is refused with. -/
def generate (bundle : TemplateBundle) : Except Exc (List RenderedArtifact) := do
  let renderers ← request.requestedFormats.mapM (checkedFormat bundle.manifest)
  validate w.schemas request.data bundle.manifest.requiredFields
  renderers.mapM (R.document request bundle)

/-- The entry of a result for a document that is stored. -/
def receipt (art : RenderedArtifact) (presignedUrl : Option String) : Artifact where
  format := art.format
  uri := objectUri w.outputBucket (buildObjectKey request.keyPrefix art.filename)
  presignedUrl := presignedUrl
  sizeBytes := art.content.length
  sha256 := w.sha256 art.content

/-- The upload of a document. -/
def uploadOf (art : RenderedArtifact) : S3Op :=
  .putObject w.outputBucket (buildObjectKey request.keyPrefix art.filename) art.content (some art.contentType)

/-- The failed result that an exception of the pipeline ends in. -/
def failureOf (startedAt failedAt : String) (version : Option String) : Exc → GenerationResult
  | .docGen exc => failureFromError request exc startedAt version
  | _ => failureResult request ErrorCode.renderError.value "unhandled_worker_error" false failedAt none

/-! ### What may go wrong -/

/-- The answers of the adapters' calls. Storage raises none of the worker's own
classes. -/
def AdapterAnswer : Event adapterSig Exc → Prop
  | ⟨.inl (.inl _), .error exc⟩ => exc.Foreign
  | ⟨.inl _, _⟩ => True
  | ⟨.inr op, x⟩ => ExecutorAnswer R.libraries R.files R.extras ⟨op, x⟩

/-- An upload raised, or the pool broke. -/
inductive Fault : Event adapterSig Exc → Prop
  | upload (bucket key : String) (content : Bytes) (contentType : Option String) (exc : Exc) :
      Fault ⟨.inl (.inl (.putObject bucket key content contentType)), .error exc⟩
  | pool (job : Job Renderer) (message : String) :
      Fault ⟨.inr (.runInExecutor job), .error (.brokenProcessPool message)⟩

/-- A fault among the calls is what `r` comes of, and the error is not final. -/
def Faulted {α : Type} (calls : List (Event adapterSig Exc)) (r : Except Exc α) : Prop :=
  (∃ e ∈ calls, Fault e) ∧ ∃ exc, r = .error exc ∧ exc.permanent = false

/-- The entries of documents whose uploads are among the calls. -/
def Stored (calls : List (Event adapterSig Exc)) (arts : List RenderedArtifact) (artifacts : List Artifact) : Prop :=
  List.Forall₂ (fun art artifact => (∃ url, artifact = receipt w request art url) ∧
    ⟨.inl (.inl (uploadOf w request art)), .ok ()⟩ ∈ calls) arts artifacts

/-- The fetch of the template, whose calls come first, ended with `x`. -/
def FetchEnded (calls : List (Event adapterSig Exc)) (x : Except Exc TemplateBundle) : Prop :=
  ∃ t rest, calls = t.map Event.inl ++ rest ∧ (fetch w.store request.templateUri).Runs t x

/-- A result and the calls that it comes of. -/
inductive Justified (startedAt failedAt : String) (calls : List (Event adapterSig Exc)) : GenerationResult → Prop
  | unfetched {exc : Exc} (hf : FetchEnded w request calls (.error exc)) :
      Justified startedAt failedAt calls (failureOf request startedAt failedAt none exc)
  | refused {bundle : TemplateBundle} {exc : Exc} (hf : FetchEnded w request calls (.ok bundle))
      (hg : generate R w request bundle = .error exc) :
      Justified startedAt failedAt calls (failureOf request startedAt failedAt (some bundle.manifest.version) exc)
  | faulted {bundle : TemplateBundle} {exc : Exc} (hf : FetchEnded w request calls (.ok bundle))
      (hfault : Faulted calls (.error exc : Except Exc GenerationResult)) :
      Justified startedAt failedAt calls (failureOf request startedAt failedAt (some bundle.manifest.version) exc)
  | success {bundle : TemplateBundle} {arts : List RenderedArtifact} {artifacts : List Artifact}
      (hf : FetchEnded w request calls (.ok bundle)) (hg : generate R w request bundle = .ok arts)
      (hstored : Stored w request calls arts artifacts) :
      Justified startedAt failedAt calls (successResult request artifacts bundle.manifest.version startedAt)

end

/-! ### The pipeline over the adapters -/

section

variable {V δ : Type} {R : Rendering V δ} {w : Wiring} {request : GenerationRequest} {bundle : TemplateBundle}
  {tr : List (Event adapterSig Exc)}

theorem checkFormat_wired (m : Manifest) (fmt : OutputFormat) :
    checkFormat w.ports m fmt = ofExcept (checkedFormat m fmt) := by
  unfold checkFormat checkedFormat
  split
  · rfl
  · show (ret (registryGet m.engine fmt)).bind _ = _
    rw [ret_bind]
    cases registryGet m.engine fmt <;> rfl

/-- The formats come out of the check in their order. -/
theorem checked_formats : ∀ {fmts : List OutputFormat} {renderers : List (OutputFormat × Renderer)},
    fmts.mapM (checkedFormat bundle.manifest) = .ok renderers → renderers.map Prod.fst = fmts
  | [], renderers, h => by
    cases h
    rfl
  | fmt :: fmts, renderers, h => by
    obtain ⟨x, xs, hx, hxs, rfl⟩ := mapM_cons_ok.mp h
    have hfmt : x.1 = fmt := by
      unfold checkedFormat at hx
      split at hx
      · cases hx
      · split at hx <;> cases hx
        rfl
    rw [List.map_cons, hfmt, checked_formats hxs]

/-- The job of a format. -/
def jobOf (request : GenerationRequest) (bundle : TemplateBundle) (x : OutputFormat × Renderer) : Job Renderer :=
  ⟨x.2, bundle, request.data, x.1, request.options.locale⟩

theorem processBundle_wired (generatedAt : String) : processBundle w.ports request generatedAt bundle =
    (ofExcept (request.requestedFormats.mapM (checkedFormat bundle.manifest))).bind fun renderers =>
      (ofExcept (validate w.schemas request.data bundle.manifest.requiredFields)).bind fun _ =>
        (forEach (renderFormat w.ports request bundle renderers) request.requestedFormats).bind fun arts =>
          (forEach (storeArtifact w.ports request) arts).bind fun artifacts =>
            .ret (successResult request artifacts bundle.manifest.version generatedAt) := by
  rw [← forEach_ofExcept, ← forEach_congr fun fmt _ => checkFormat_wired bundle.manifest fmt]
  rfl

/-- The render loop calls the renderer of each entry in turn. -/
theorem render_loop_wired {renderers : List (OutputFormat × Renderer)}
    (h : request.requestedFormats.mapM (checkedFormat bundle.manifest) = .ok renderers) :
    forEach (renderFormat w.ports request bundle renderers) request.requestedFormats =
      forEach (fun x => (processPoolRun true (jobOf request bundle x)).inr) renderers := by
  have hformats := checked_formats h
  have hnd : (renderers.map Prod.fst).Nodup := hformats ▸ request.requestedFormats_nodup
  rw [← hformats, forEach_map]
  refine forEach_congr fun x hx => ?_
  rw [renderFormat, lookup_of_mem hnd hx]
  rfl

theorem Faulted.error {α β : Type} {calls calls' : List (Event adapterSig Exc)} {exc : Exc}
    (h : Faulted calls (.error exc : Except Exc α)) (hsub : ∀ e ∈ calls, e ∈ calls') :
    Faulted calls' (.error exc : Except Exc β) := by
  obtain ⟨⟨e, he, hfault⟩, exc', hr, hexc⟩ := h
  cases hr
  exact ⟨⟨e, hsub e he, hfault⟩, exc, rfl, hexc⟩

theorem not_faulted_ok {α : Type} {calls : List (Event adapterSig Exc)} {a : α} :
    ¬ Faulted calls (.ok a : Except Exc α) := by
  rintro ⟨-, _, hr, -⟩
  cases hr

theorem Stored.mono {calls calls' : List (Event adapterSig Exc)} {arts : List RenderedArtifact}
    {artifacts : List Artifact} (h : Stored w request calls arts artifacts) (hsub : ∀ e ∈ calls, e ∈ calls') :
    Stored w request calls' arts artifacts :=
  h.imp fun _ _ ⟨hurl, hin⟩ => ⟨hurl, hsub _ hin⟩

/-- A render is the document, or the pool broke. -/
theorem render_wired_runs {x : OutputFormat × Renderer} {r : Except Exc RenderedArtifact}
    (h : ((processPoolRun true (jobOf request bundle x)).inr : Coroutine adapterSig _).Runs tr r)
    (hans : ∀ e ∈ tr, AdapterAnswer R e) : r = R.document request bundle x ∨ Faulted tr r := by
  obtain ⟨t, rfl, ht⟩ := runs_inr.mp h
  have hans : ∀ e ∈ t, ExecutorAnswer R.libraries R.files R.extras e := fun e he =>
    hans _ (List.mem_map_of_mem he)
  rcases processPoolRun_render ht hans with ⟨now, rfl⟩ | ⟨message, hmem, rfl⟩
  · exact Or.inl (render_timeless R.timeless now fixedTimestamp _ _ _)
  · exact Or.inr ⟨⟨_, List.mem_map_of_mem hmem, .pool _ message⟩, _, rfl, rfl⟩

theorem render_loop_runs : ∀ {xs : List (OutputFormat × Renderer)} {tr : List (Event adapterSig Exc)}
    {r : Except Exc (List RenderedArtifact)},
    (forEach (fun x => ((processPoolRun true (jobOf request bundle x)).inr : Coroutine adapterSig _)) xs).Runs tr r →
    (∀ e ∈ tr, AdapterAnswer R e) → r = xs.mapM (R.document request bundle) ∨ Faulted tr r
  | [], tr, r, h, _ => Or.inl h.2
  | x :: xs, tr, r, h, hans => by
    rcases runs_bind.mp h with ⟨exc, rfl, hx⟩ | ⟨art, t₁, t₂, rfl, hx, hrest⟩
    · rcases render_wired_runs hx hans with hdoc | hfault
      · refine Or.inl ?_
        rw [List.mapM_cons, ← hdoc]
        rfl
      · exact Or.inr (hfault.error fun e he => he)
    have hdoc := (render_wired_runs hx fun e he => hans e (List.mem_append_left _ he)).resolve_right not_faulted_ok
    have hans₂ : ∀ e ∈ t₂, AdapterAnswer R e := fun e he => hans e (List.mem_append_right _ he)
    rcases runs_bind.mp hrest with ⟨exc, rfl, hxs⟩ | ⟨arts, t₃, t₄, rfl, hxs, rfl, rfl⟩
    · rcases render_loop_runs hxs hans₂ with hmap | hfault
      · refine Or.inl ?_
        rw [List.mapM_cons, ← hdoc, ← hmap]
        rfl
      · exact Or.inr (hfault.error fun e he => List.mem_append_right _ he)
    · rw [List.append_nil] at hans₂
      have hmap := (render_loop_runs hxs hans₂).resolve_right not_faulted_ok
      refine Or.inl ?_
      rw [List.mapM_cons, ← hdoc, ← hmap]
      rfl

/-- A failed upload is retried, whatever storage answered. -/
theorem upload_not_permanent {key : String} {exc : Exc} (hexc : exc.Foreign) :
    (uploadError key (storageError key exc)).permanent = false := by
  have h := @adapterError_permanent (.putObject "" key [] none) _ _ hexc rfl
  rw [← Bool.not_eq_true, Exc.permanent_iff, h]
  exact id

/-- A document is stored, or its upload failed. -/
theorem store_wired_runs {art : RenderedArtifact} {r : Except Exc Artifact}
    (h : (storeArtifact w.ports request art).Runs tr r) (hans : ∀ e ∈ tr, AdapterAnswer R e) :
    (∃ url, r = .ok (receipt w request art url) ∧ ⟨.inl (.inl (uploadOf w request art)), .ok ()⟩ ∈ tr) ∨
      Faulted tr r := by
  have hput : ∀ {t x}, (w.ports.put (buildObjectKey request.keyPrefix art.filename) art.content art.contentType
      request.options.presignTtl).Runs t x → (∀ e ∈ t, AdapterAnswer R e) →
      (∃ st : StoredArtifact, x = .ok st ∧ (∃ url, resultArtifact (art, st) = receipt w request art url) ∧
        ⟨.inl (.inl (uploadOf w request art)), .ok ()⟩ ∈ t) ∨ Faulted t x := by
    intro t x ht hans
    obtain ⟨t₁, rfl, ht₁⟩ := runs_inl.mp ht
    obtain ⟨t₂, rfl, ht₂⟩ := runs_inl.mp ht₁
    rcases objectStorePut_runs (contentType_ne _) ht₂ with ⟨url, tl, rfl, rfl, -⟩ | ⟨exc, rfl, rfl⟩
    · exact Or.inl ⟨_, rfl, ⟨url, rfl⟩, List.mem_cons_self⟩
    · have hexc : exc.Foreign := hans _ List.mem_cons_self
      exact Or.inr ⟨⟨_, List.mem_cons_self, .upload ..⟩, _, rfl, upload_not_permanent hexc⟩
  rcases runs_bind.mp h with ⟨exc, rfl, hp⟩ | ⟨st, t₁, t₂, rfl, hp, rfl, rfl⟩
  · rcases hput hp hans with ⟨_, hr, -⟩ | hfault
    · cases hr
    · exact Or.inr (hfault.error fun e he => he)
  · rw [List.append_nil] at hans ⊢
    obtain ⟨_, hr, ⟨url, hurl⟩, hmem⟩ := (hput hp hans).resolve_right not_faulted_ok
    cases hr
    exact Or.inl ⟨url, congrArg Except.ok hurl, hmem⟩

theorem store_loop_runs : ∀ {arts : List RenderedArtifact} {tr : List (Event adapterSig Exc)}
    {r : Except Exc (List Artifact)}, (forEach (storeArtifact w.ports request) arts).Runs tr r →
    (∀ e ∈ tr, AdapterAnswer R e) →
    (∃ artifacts, r = .ok artifacts ∧ Stored w request tr arts artifacts) ∨ Faulted tr r
  | [], tr, r, h, _ => Or.inl ⟨[], h.2, .nil⟩
  | art :: arts, tr, r, h, hans => by
    rcases runs_bind.mp h with ⟨exc, rfl, hx⟩ | ⟨artifact, t₁, t₂, rfl, hx, hrest⟩
    · rcases store_wired_runs hx hans with ⟨_, hr, -⟩ | hfault
      · cases hr
      · exact Or.inr (hfault.error fun e he => he)
    have hans₁ : ∀ e ∈ t₁, AdapterAnswer R e := fun e he => hans e (List.mem_append_left _ he)
    have hans₂ : ∀ e ∈ t₂, AdapterAnswer R e := fun e he => hans e (List.mem_append_right _ he)
    obtain ⟨url, hr, hmem⟩ := (store_wired_runs hx hans₁).resolve_right not_faulted_ok
    cases hr
    rcases runs_bind.mp hrest with ⟨exc, rfl, hxs⟩ | ⟨artifacts, t₃, t₄, rfl, hxs, rfl, rfl⟩
    · rcases store_loop_runs hxs hans₂ with ⟨_, hr, -⟩ | hfault
      · cases hr
      · exact Or.inr (hfault.error fun e he => List.mem_append_right _ he)
    · rw [List.append_nil] at hans₂ ⊢
      obtain ⟨_, hr, hstored⟩ := (store_loop_runs hxs hans₂).resolve_right not_faulted_ok
      cases hr
      refine Or.inl ⟨_, rfl, .cons ⟨⟨url, rfl⟩, List.mem_append_left _ hmem⟩ ?_⟩
      exact hstored.mono fun e he => List.mem_append_right _ he

/-- What follows the fetch does what the function does, or meets a fault. -/
inductive Bundled (R : Rendering V δ) (w : Wiring) (request : GenerationRequest) (generatedAt : String)
    (bundle : TemplateBundle) (calls : List (Event adapterSig Exc)) : Except Exc GenerationResult → Prop
  | refused {exc : Exc} (hg : generate R w request bundle = .error exc) :
      Bundled R w request generatedAt bundle calls (.error exc)
  | faulted {exc : Exc} (hfault : Faulted calls (.error exc : Except Exc GenerationResult)) :
      Bundled R w request generatedAt bundle calls (.error exc)
  | success {arts : List RenderedArtifact} {artifacts : List Artifact} (hg : generate R w request bundle = .ok arts)
      (hstored : Stored w request calls arts artifacts) : Bundled R w request generatedAt bundle calls
        (.ok (successResult request artifacts bundle.manifest.version generatedAt))

theorem Bundled.mono {generatedAt : String} {calls calls' : List (Event adapterSig Exc)}
    {r : Except Exc GenerationResult} (h : Bundled R w request generatedAt bundle calls r)
    (hsub : ∀ e ∈ calls, e ∈ calls') : Bundled R w request generatedAt bundle calls' r := by
  cases h with
  | refused hg => exact .refused hg
  | faulted hfault => exact .faulted (hfault.error hsub)
  | success hg hstored => exact .success hg (hstored.mono hsub)

theorem process_bundle_wired {generatedAt : String} {r : Except Exc GenerationResult}
    (h : (processBundle w.ports request generatedAt bundle).Runs tr r) (hans : ∀ e ∈ tr, AdapterAnswer R e) :
    Bundled R w request generatedAt bundle tr r := by
  rw [processBundle_wired] at h
  rcases runs_ofExcept_bind.mp h with ⟨exc, hcheck, rfl, rfl⟩ | ⟨renderers, hcheck, h⟩
  · exact .refused (bind_error.mpr (Or.inl hcheck))
  rw [render_loop_wired hcheck] at h
  rcases runs_ofExcept_bind.mp h with ⟨exc, hvalid, rfl, rfl⟩ | ⟨⟨⟩, hvalid, h⟩
  · exact .refused (bind_error.mpr (Or.inr ⟨renderers, hcheck, bind_error.mpr (Or.inl hvalid)⟩))
  have hgen : generate R w request bundle = renderers.mapM (R.document request bundle) := by
    rw [generate, hcheck]
    show (validate _ _ _ >>= fun _ => _) = _
    rw [hvalid]
    rfl
  rcases runs_bind.mp h with ⟨exc, rfl, hloop⟩ | ⟨arts, t₁, t₂, rfl, hloop, h⟩
  · rcases render_loop_runs hloop hans with hmap | hfault
    · exact .refused (hgen.trans hmap.symm)
    · exact .faulted (hfault.error fun e he => he)
  have hans₁ : ∀ e ∈ t₁, AdapterAnswer R e := fun e he => hans e (List.mem_append_left _ he)
  have hans₂ : ∀ e ∈ t₂, AdapterAnswer R e := fun e he => hans e (List.mem_append_right _ he)
  have hmap := (render_loop_runs hloop hans₁).resolve_right not_faulted_ok
  rcases runs_bind.mp h with ⟨exc, rfl, hloop⟩ | ⟨artifacts, t₃, t₄, rfl, hloop, rfl, rfl⟩
  · rcases store_loop_runs hloop hans₂ with ⟨_, hr, -⟩ | hfault
    · cases hr
    · exact .faulted (hfault.error fun e he => List.mem_append_right _ he)
  · rw [List.append_nil] at hans₂ ⊢
    obtain ⟨_, hr, hstored⟩ := (store_loop_runs hloop hans₂).resolve_right not_faulted_ok
    cases hr
    exact .success (hgen.trans hmap.symm) (hstored.mono fun e he => List.mem_append_right _ he)

/-! ### The request -/

theorem exceptDocGenError_runs {S : Sig} {generatedAt : String} {version : Option String} {exc : Exc}
    {tr : List (Event S Exc)} {r : Except Exc GenerationResult} :
    (exceptDocGenError request generatedAt version exc : Coroutine S _).Runs tr r ↔
      tr = [] ∧ r = caught request generatedAt version exc := by
  cases exc <;> exact Iff.rfl

/-- A run is a fetch that raises, or a fetch and what follows it. -/
theorem process_request_wired {generatedAt : String} {r : Except Exc GenerationResult}
    (h : (processRequest w.ports request generatedAt).Runs tr r) (hans : ∀ e ∈ tr, AdapterAnswer R e) :
    (∃ exc, FetchEnded w request tr (.error exc) ∧ r = caught request generatedAt none exc) ∨
    ∃ bundle r', FetchEnded w request tr (.ok bundle) ∧ Bundled R w request generatedAt bundle tr r' ∧
      r = finish request generatedAt bundle r' := by
  -- what follows the fetch, under the inner `except`
  have hinner : ∀ {bundle t r}, ((processBundle w.ports request generatedAt bundle).tryCatch
      (exceptDocGenError request generatedAt (some bundle.manifest.version))).Runs t r →
      (∀ e ∈ t, AdapterAnswer R e) →
      ∃ r', Bundled R w request generatedAt bundle t r' ∧ r = finish request generatedAt bundle r' := by
    intro bundle t r h hans
    rcases runs_tryCatch.mp h with ⟨result, rfl, hr⟩ | ⟨exc, t₁, t₂, rfl, hr, he⟩
    · exact ⟨_, process_bundle_wired hr hans, rfl⟩
    · obtain ⟨rfl, rfl⟩ := exceptDocGenError_runs.mp he
      rw [List.append_nil] at hans ⊢
      exact ⟨_, process_bundle_wired hr hans, rfl⟩
  have hbody : ∀ {t r}, ((w.ports.fetch request.templateUri).bind fun bundle =>
      (processBundle w.ports request generatedAt bundle).tryCatch
        (exceptDocGenError request generatedAt (some bundle.manifest.version))).Runs t r →
      (∀ e ∈ t, AdapterAnswer R e) → (∃ exc, FetchEnded w request t (.error exc) ∧ r = .error exc) ∨
      ∃ bundle r', FetchEnded w request t (.ok bundle) ∧ Bundled R w request generatedAt bundle t r' ∧
        r = finish request generatedAt bundle r' := by
    intro t r h hans
    rcases runs_bind.mp h with ⟨exc, rfl, hf⟩ | ⟨bundle, t₁, t₂, rfl, hf, hrest⟩
    · obtain ⟨u, rfl, hu⟩ := runs_inl.mp hf
      exact Or.inl ⟨exc, ⟨u, [], (List.append_nil _).symm, hu⟩, rfl⟩
    · obtain ⟨u, rfl, hu⟩ := runs_inl.mp hf
      obtain ⟨r', hb, hr'⟩ := hinner hrest fun e he => hans e (List.mem_append_right _ he)
      refine Or.inr ⟨bundle, r', ⟨u, t₂, rfl, hu⟩, ?_, hr'⟩
      exact hb.mono fun e he => List.mem_append_right _ he
  rcases runs_tryCatch.mp h with ⟨result, rfl, hr⟩ | ⟨exc, t₁, t₂, rfl, hr, he⟩
  · rcases hbody hr hans with ⟨_, -, hr⟩ | h
    · cases hr
    · exact Or.inr h
  · obtain ⟨rfl, rfl⟩ := exceptDocGenError_runs.mp he
    rw [List.append_nil] at hans ⊢
    rcases hbody hr hans with ⟨_, hf, hr⟩ | ⟨bundle, r', hf, hb, hr'⟩
    · cases hr
      exact Or.inl ⟨exc, hf, rfl⟩
    · refine Or.inr ⟨bundle, r', hf, hb, ?_⟩
      -- only an exception that is no `DocGenError` gets here
      rcases r' with exc' | result
      · exact (caught_of_error hr'.symm).trans hr'
      · cases hr'

/-- What `_build_result` makes of an exception of the pipeline. -/
theorem failureOf_of_caught {startedAt failedAt : String} {version : Option String} {exc : Exc}
    {result : GenerationResult}
    (h : caught request startedAt version exc = .ok result ∨
      (∃ exc', caught request startedAt version exc = .error exc') ∧ result =
        failureResult request ErrorCode.renderError.value "unhandled_worker_error" false failedAt none) :
    result = failureOf request startedAt failedAt version exc := by
  cases exc with
  | docGen e =>
    rcases h with h | ⟨⟨_, h⟩, -⟩
    · exact (Except.ok.inj h).symm
    · cases h
  | _ =>
    rcases h with h | ⟨-, rfl⟩
    · cases h
    · rfl

/-- What a request is answered with is what `generate` gives for its template,
if the template could be fetched, no upload failed and the pool held. -/
theorem build_result_justified {deps : HandlerDeps adapterSig Renderer} (hports : deps.ports = w.ports)
    {result : GenerationResult} (h : (buildResult deps request).Runs tr (.ok result))
    (hans : ∀ e ∈ tr, AdapterAnswer R e) : Justified R w request deps.startedAt deps.failedAt tr result := by
  unfold buildResult at h
  rw [hports] at h
  have hended : ∃ r, (processRequest w.ports request deps.startedAt).Runs tr r ∧ (r = .ok result ∨
      (∃ exc, r = .error exc) ∧ result =
        failureResult request ErrorCode.renderError.value "unhandled_worker_error" false deps.failedAt none) := by
    rcases runs_tryCatch.mp h with ⟨_, hr, hp⟩ | ⟨exc, t₁, t₂, rfl, hp, rfl, hr⟩
    · cases hr
      exact ⟨_, hp, Or.inl rfl⟩
    · cases hr
      rw [List.append_nil]
      exact ⟨_, hp, Or.inr ⟨⟨exc, rfl⟩, rfl⟩⟩
  obtain ⟨r, hp, hr⟩ := hended
  rcases process_request_wired hp hans with ⟨exc, hf, rfl⟩ | ⟨bundle, r', hf, hb, rfl⟩
  · rw [failureOf_of_caught hr]
    exact .unfetched hf
  cases hb with
  | @refused exc hg =>
    rw [@failureOf_of_caught request deps.startedAt deps.failedAt (some bundle.manifest.version) exc result hr]
    exact .refused hf hg
  | @faulted exc hfault =>
    rw [@failureOf_of_caught request deps.startedAt deps.failedAt (some bundle.manifest.version) exc result hr]
    exact .faulted hf hfault
  | success hg hstored =>
    rcases hr with hr | ⟨⟨_, hr⟩, -⟩
    · obtain rfl := Except.ok.inj hr
      exact .success hf hg hstored
    · cases hr

end

/-! ### What is published -/

section

variable {V δ : Type} {R : Rendering V δ} {w : Wiring} {request : GenerationRequest} {transport : NatsTransport}
  {P : Pydantic} {msg : Msg} {maxDeliver nakDelay : ℕ} {startedAt failedAt : String} {result : GenerationResult}

theorem FetchEnded.mono {calls calls' : List (Event adapterSig Exc)} {x : Except Exc TemplateBundle}
    (h : FetchEnded w request calls x) (hpre : calls <+: calls') : FetchEnded w request calls' x := by
  obtain ⟨t, rest, rfl, ht⟩ := h
  obtain ⟨more, rfl⟩ := hpre
  exact ⟨t, rest ++ more, List.append_assoc .., ht⟩

/-- A fetch ends with one thing. -/
theorem FetchEnded.unique {calls : List (Event adapterSig Exc)} {x x' : Except Exc TemplateBundle}
    (h : FetchEnded w request calls x) (h' : FetchEnded w request calls x') : x = x' := by
  obtain ⟨t, rest, rfl, ht⟩ := h
  obtain ⟨t', rest', heq, ht'⟩ := h'
  have hruns : ∀ {u y}, (fetch w.store request.templateUri).Runs u y →
      ((fetch w.store request.templateUri).inl : Coroutine adapterSig _).Runs (u.map Event.inl) y :=
    fun hu => runs_inl.mpr ⟨_, rfl, hu⟩
  exact (runs_unique (hruns ht) (hruns ht') heq).2

theorem Justified.mono {calls calls' : List (Event adapterSig Exc)}
    (h : Justified R w request startedAt failedAt calls result) (hpre : calls <+: calls') :
    Justified R w request startedAt failedAt calls' result := by
  cases h with
  | unfetched hf => exact .unfetched (hf.mono hpre)
  | refused hf hg => exact .refused (hf.mono hpre) hg
  | faulted hf hfault => exact .faulted (hf.mono hpre) (hfault.error fun e he => hpre.subset he)
  | success hf hg hstored => exact .success (hf.mono hpre) hg (hstored.mono fun e he => hpre.subset he)

/-- The pipeline's calls go over the wire as they are. -/
theorem implements_pipe {Q : Sig} {pipe : List (Event Q Exc)} {t : List (Event (wireSig.sum Q) Exc)}
    (hi : Implements (transport.impl P Q) (pipe.map Event.inr) t) : t = pipe.map Event.inr := by
  induction pipe generalizing t with
  | nil =>
    cases hi
    rfl
  | cons e pipe ih =>
    cases hi with
    | cons hr ht =>
      obtain ⟨u, rfl, hu⟩ := runs_inr.mp hr
      rw [runs_perform.mp hu, ih ht]
      rfl

/-- A publish with a result's headers is the result's. -/
theorem published_result {deps : HandlerDeps adapterSig Renderer} {op : MsgOp} {subject : String}
    {payload : Bytes} {requestId : String} {timeout : ℕ} {t : List (Event wireSig Exc)} {x y : Except Exc Unit}
    (hE : Emits deps msg request result op) (ht : (transport.call P op).Runs t x)
    (he : ⟨.publish subject payload (NatsTransport.resultHeaders requestId) timeout, y⟩ ∈ t) :
    subject = request.replyTo ∧ payload = toJsonBytes P result ∧ requestId = result.requestId ∧
      (isTerminal result = true ∨ deps.maxDeliver ≤ msg.numDelivered) := by
  have hheaders : ∀ reason id, [(headerRequestId, id), (headerDlqReason, reason)] ≠
      NatsTransport.resultHeaders requestId := by
    intro reason id heq
    have hname : headerRequestId = "Event-Type" := congrArg Prod.fst (List.cons.inj heq).1
    exact absurd hname (by decide)
  cases hE with
  | result hb =>
    obtain ⟨rfl, rfl, hid, -⟩ := WireOp.publish.inj (runs_wire ht he)
    exact ⟨rfl, rfl, congrArg Prod.snd (List.cons.inj (List.cons.inj hid).2).1, hb⟩
  | deadLetter =>
    exact absurd (WireOp.publish.inj (runs_wire ht he)).2.2.1.symm (hheaders _ _)
  | emitFailure =>
    exact absurd (WireOp.publish.inj (runs_wire ht he)).2.2.1.symm (hheaders _ _)
  | ack => cases runs_wire ht he
  | nak => cases runs_wire ht he

/-- A result on the wire comes of the adapters' calls made before it. -/
theorem justified_of_publish {tr pre post : List (Event (wireSig.sum adapterSig) Exc)}
    {rest : Coroutine (wireSig.sum adapterSig) Outcome}
    (h : Steps (handleOnWire transport P (w.deps maxDeliver nakDelay startedAt failedAt) msg) tr rest)
    (hans : ∀ e ∈ tr.filterMap Event.right?, AdapterAnswer R e) {subject : String} {payload : Bytes}
    {requestId : String} {timeout : ℕ} {x : Except Exc Unit}
    (htr : tr = pre ++ ⟨.inl (.publish subject payload (NatsTransport.resultHeaders requestId) timeout), x⟩ :: post) :
    ∃ request result, decode P msg.data = some request ∧ subject = request.replyTo ∧
      requestId = request.requestId ∧ payload = toJsonBytes P result ∧
      Justified R w request startedAt failedAt (pre.filterMap Event.right?) result ∧
      (isTerminal result = true ∨ maxDeliver ≤ msg.numDelivered) := by
  obtain ⟨tr', r, hr, -⟩ := h.extend fun _ => .error (.other "Exception" "")
  obtain ⟨es, hi, hrun⟩ := runs_interp.mp hr
  have hpub : ⟨.inl (.publish subject payload (NatsTransport.resultHeaders requestId) timeout), x⟩ ∈ tr ++ tr' := by
    rw [htr]
    simp
  obtain ⟨⟨op, y⟩, he₀, t, het, -, hcall⟩ := hi.mem hpub
  obtain ⟨op, t', rfl, het', z, hcall'⟩ := wire_origin hcall het
  cases hd : decode P msg.data with
  | none =>
    -- a dead letter has other headers
    rcases broker_call hrun he₀ with ⟨-, rfl | rfl⟩ | ⟨_, _, hd', -⟩
    · have hheaders := (WireOp.publish.inj (runs_wire hcall' het')).2.2.1
      cases congrArg List.length hheaders
    · cases runs_wire hcall' het'
    · cases hd.symm.trans hd'
  | some request =>
    rw [handleMessage_of_decode hd] at hrun
    obtain ⟨pipe, result, emits, rfl, hbuild, hemit⟩ := handle_request_runs hrun
    -- the pipeline's calls all come before the publish
    obtain ⟨t₁, t₂, hsplit, hi₁, -⟩ := hi.append
    obtain rfl := implements_pipe hi₁
    have hpre : pipe.map Event.inr <+: pre := by
      rw [htr, List.append_assoc, List.cons_append] at hsplit
      refine Event.prefix_of_split (p := fun y => y.left? ≠ none) ?_ hsplit.symm (by nofun)
      exact List.forall_mem_map.mpr fun y _ => not_not.mpr rfl
    have hcalls : pipe <+: pre.filterMap Event.right? := by
      obtain ⟨more, rfl⟩ := hpre
      rw [List.filterMap_append, Event.filterMap_right_inr]
      exact List.prefix_append ..
    have hpipe : ∀ e ∈ pipe, AdapterAnswer R e := by
      intro e he
      refine hans e ?_
      rw [htr, List.filterMap_append]
      exact List.mem_append_left _ (hcalls.subset he)
    have hjust := build_result_justified rfl hbuild hpipe
    rcases List.mem_append.mp he₀ with he₀ | he₀
    · obtain ⟨e, -, heq⟩ := List.mem_map.mp he₀
      cases heq
    obtain ⟨e, hel, heq⟩ := List.mem_map.mp he₀
    cases heq
    obtain ⟨rfl, rfl, rfl, hb⟩ := published_result (emit_guarded_calls.runs hemit e hel) hcall' het'
    exact ⟨request, result, rfl, rfl, (build_result_reported hbuild).requestId, rfl, hjust.mono hcalls, hb⟩

end

section

variable {V δ : Type} (R : Rendering V δ) (w : Wiring) (P : Pydantic) (request : GenerationRequest)

/-- A handling of the request by a worker so wired, and a point of it at which a
result went over the wire. -/
structure Publication where
  transport : NatsTransport
  maxDeliver : ℕ
  nakDelay : ℕ
  startedAt : String
  failedAt : String
  msg : Msg
  decoded : decode P msg.data = some request
  pre : List (Event (wireSig.sum adapterSig) Exc)
  post : List (Event (wireSig.sum adapterSig) Exc)
  rest : Coroutine (wireSig.sum adapterSig) Outcome
  subject : String
  payload : Bytes
  requestId : String
  timeout : ℕ
  answer : Except Exc Unit
  steps : Steps (handleOnWire transport P (w.deps maxDeliver nakDelay startedAt failedAt) msg)
    (pre ++ ⟨.inl (.publish subject payload (NatsTransport.resultHeaders requestId) timeout), answer⟩ :: post) rest
  answers : ∀ e ∈ (pre ++ ⟨.inl (.publish subject payload (NatsTransport.resultHeaders requestId) timeout),
    answer⟩ :: post).filterMap Event.right?, AdapterAnswer R e

namespace Publication

variable {R w P request} (p : Publication R w P request)

/-- The adapters' calls made before the publish. -/
def calls : List (Event adapterSig Exc) := p.pre.filterMap Event.right?

theorem justified : ∃ result, p.subject = request.replyTo ∧ p.payload = toJsonBytes P result ∧
    Justified R w request p.startedAt p.failedAt p.calls result ∧
    (isTerminal result = true ∨ p.maxDeliver ≤ p.msg.numDelivered) := by
  obtain ⟨request', result, hd, hsubject, -, hpayload, hjust, hb⟩ := justified_of_publish p.steps p.answers rfl
  obtain rfl := Option.some.inj (p.decoded.symm.trans hd)
  exact ⟨result, hsubject, hpayload, hjust, hb⟩

end Publication

variable {R w P request}

/-- **What is published is justified.** A result on the wire goes to the
caller, who reads it as it was, and comes of the adapters' calls made before it:
a success lists the documents of `generate`, all of them stored already; a
failure is what the fetch or `generate` ended with, or a fault was met and it is
not final. What is not final is published from the delivery bound on. -/
theorem published_justified (hP : P.Lax) (p : Publication R w P request) :
    ∃ result, p.subject = request.replyTo ∧ p.payload = toJsonBytes P result ∧
      (P.Stable result.toJson → readResultBytes P p.payload = some result) ∧
      Justified R w request p.startedAt p.failedAt p.calls result ∧
      (isTerminal result = true ∨ p.maxDeliver ≤ p.msg.numDelivered) := by
  obtain ⟨result, hsubject, hpayload, hjust, hb⟩ := p.justified
  exact ⟨result, hsubject, hpayload, fun hs => hpayload ▸ readResultBytes_of_stable hP hs, hjust, hb⟩

/-! ### Two final answers -/

/-- Results that say the same to a caller, but for their times and the URLs
that storage signed. -/
structure SameAnswer (r r' : GenerationResult) : Prop where
  requestId : r.requestId = r'.requestId
  status : r.status = r'.status
  artifacts : r.artifacts.map Artifact.entry = r'.artifacts.map Artifact.entry
  error : r.error = r'.error
  templateVersion : r.templateVersion = r'.templateVersion
  metadata : r.metadata = r'.metadata

theorem sameAnswer_failureOf (startedAt failedAt startedAt' failedAt' : String) (version : Option String)
    (exc : Exc) : SameAnswer (failureOf request startedAt failedAt version exc)
      (failureOf request startedAt' failedAt' version exc) := by
  cases exc <;> exact ⟨rfl, rfl, rfl, rfl, rfl, rfl⟩

/-- The entry of a document, without what storage signed. -/
theorem Stored.entries {calls : List (Event adapterSig Exc)} {arts : List RenderedArtifact}
    {artifacts : List Artifact} (h : Stored w request calls arts artifacts) :
    artifacts.map Artifact.entry = arts.map fun art => (receipt w request art none).entry := by
  induction h with
  | nil => rfl
  | cons hx _ ih =>
    obtain ⟨⟨url, rfl⟩, -⟩ := hx
    rw [List.map_cons, List.map_cons, ih]
    rfl

theorem not_terminal_of_faulted {calls : List (Event adapterSig Exc)} {exc : Exc} {startedAt failedAt : String}
    {version : Option String} (h : Faulted calls (.error exc : Except Exc GenerationResult)) :
    isTerminal (failureOf request startedAt failedAt version exc) = false := by
  obtain ⟨-, _, hr, hexc⟩ := h
  cases hr
  cases exc with
  | docGen e => exact hexc
  | _ => rfl

theorem Justified.same {calls calls' : List (Event adapterSig Exc)} {r r' : GenerationResult}
    {startedAt failedAt startedAt' failedAt' : String} {x : Except Exc TemplateBundle}
    (h : Justified R w request startedAt failedAt calls r) (h' : Justified R w request startedAt' failedAt' calls' r')
    (ht : isTerminal r = true) (ht' : isTerminal r' = true) (hx : FetchEnded w request calls x)
    (hx' : FetchEnded w request calls' x) : SameAnswer r r' := by
  cases h with
  | unfetched hf =>
    cases hf.unique hx
    cases h' with
    | unfetched hf' =>
      cases hf'.unique hx'
      exact sameAnswer_failureOf ..
    | refused hf' => cases hf'.unique hx'
    | faulted hf' => cases hf'.unique hx'
    | success hf' => cases hf'.unique hx'
  | refused hf hg =>
    cases hf.unique hx
    cases h' with
    | unfetched hf' => cases hf'.unique hx'
    | refused hf' hg' =>
      cases hf'.unique hx'
      cases hg.symm.trans hg'
      exact sameAnswer_failureOf ..
    | faulted hf' hfault => exact absurd (ht'.symm.trans (not_terminal_of_faulted hfault)) Bool.noConfusion
    | success hf' hg' =>
      cases hf'.unique hx'
      cases hg.symm.trans hg'
  | faulted hf hfault => exact absurd (ht.symm.trans (not_terminal_of_faulted hfault)) Bool.noConfusion
  | success hf hg hstored =>
    cases hf.unique hx
    cases h' with
    | unfetched hf' => cases hf'.unique hx'
    | refused hf' hg' =>
      cases hf'.unique hx'
      cases hg.symm.trans hg'
    | faulted hf' hfault => exact absurd (ht'.symm.trans (not_terminal_of_faulted hfault)) Bool.noConfusion
    | success hf' hg' hstored' =>
      cases hf'.unique hx'
      cases hg.symm.trans hg'
      exact ⟨rfl, rfl, hstored.entries.trans hstored'.entries.symm, rfl, rfl, rfl⟩

/-- **Final answers agree.** Two handlings of one request, by any workers at any
times and delivery counts, whose fetches ended alike: if both published a final
result, the two say the same. -/
theorem final_answers_agree (p q : Publication R w P request) {x : Except Exc TemplateBundle}
    (hp : FetchEnded w request p.calls x) (hq : FetchEnded w request q.calls x) :
    ∃ r r', p.payload = toJsonBytes P r ∧ q.payload = toJsonBytes P r' ∧
      (isTerminal r = true → isTerminal r' = true → SameAnswer r r') := by
  obtain ⟨r, -, hpayload, hjust, -⟩ := p.justified
  obtain ⟨r', -, hpayload', hjust', -⟩ := q.justified
  exact ⟨r, r', hpayload, hpayload', fun ht ht' => hjust.same hjust' ht ht' hp hq⟩

end

/-! ### An invoice -/

def invoiceDir : FilePath := ["cache", "billing", "invoice", "v1"]

def invoiceFiles : Files :=
  (FileTree.empty.addDirs invoiceDir).setEntry invoiceDir "template.html" (.file []) rfl rfl

def invoiceRendering : Rendering (Option String) Unit :=
  ⟨stampLibraries, invoiceFiles, noExtras, stampLibraries_timeless⟩

def invoiceStore : TemplateStore where
  bucket := "optimce-templates"
  cacheDir := ["cache"]
  cacheDir_proper := cacheStore.cacheDir_proper
  modelValidateJson _ := .ok invoiceManifest

/-- The digest is that of the empty document. -/
def invoiceWiring : Wiring where
  store := invoiceStore
  schemas := maxItemsSchema
  outputBucket := "optimce-documents"
  sha256 _ := "e3b0c44298fc1c149afbf4c8996fb92427ae41e4649b934ca495991b7852b855"

def cachedInvoice : TemplateBundle := ⟨invoiceManifest, invoiceDir⟩

def invoicePdf : RenderedArtifact := ⟨.pdf, "invoice.pdf", []⟩

def invoiceJob : Job Renderer := jobOf makeRequest cachedInvoice (.pdf, .jinjaHtml)

def invoiceResult : GenerationResult :=
  successResult makeRequest [receipt invoiceWiring makeRequest invoicePdf none] "1.0.0" "2026-06-18T00:00:00+00:00"

def invoiceText : String :=
    "\x7b\"request_id\":\"req-1\",\"status\":\"success\",\"artifacts\":[\x7b\"format\":\"" ++
    "pdf\",\"uri\":\"s3://optimce-documents/billing/invoices/2026/06/inv-00042/invoice.pd" ++
    "f\",\"size_bytes\":0,\"sha256\":\"e3b0c44298fc1c149afbf4c8996fb92427ae41e4649b934ca4" ++
    "95991b7852b855\"\x7d],\"template_version\":\"1.0.0\",\"generated_at\":\"2026-06-18T0" ++
    "0:00:00+00:00\",\"metadata\":\x7b\"invoice_id\":\"abc-123\"\x7d\x7d"

/-- pydantic on the request's body and on this result. -/
def invoicePydantic : Pydantic := { sentPydantic with toJson := fun _ => invoiceText.toUTF8.toList }

theorem invoice_lax : invoicePydantic.Lax := ⟨fun _ => rfl, fun _ => rfl⟩

theorem decode_invoice : decode invoicePydantic requestBytes = some makeRequest := by
  have hjson : invoicePydantic.fromJson requestBytes = some requestJson := sent_request
  rw [decode, hjson]
  exact readRequest_requestJson _

def cacheHit : List (Event storeSig Exc) :=
  [⟨.inr (.isFile (invoiceDir ++ [manifestName])), .ok true⟩,
    ⟨.inr (.readBytes (invoiceDir ++ [manifestName])), .ok [123]⟩]

def pooled : List (Event (executorSig Renderer) Exc) :=
  [⟨.acquire, .ok ()⟩, ⟨.runInExecutor invoiceJob, .ok invoicePdf⟩, ⟨.release, .ok ()⟩]

def uploaded : Event adapterSig Exc := ⟨.inl (.inl (uploadOf invoiceWiring makeRequest invoicePdf)), .ok ()⟩

/-- The calls of the pipeline: the template is cached, its one format is
rendered, and the document stored. -/
def invoiceCalls : List (Event adapterSig Exc) :=
  cacheHit.map Event.inl ++ (pooled.map Event.inr ++ [uploaded])

def invoiceDeps : HandlerDeps adapterSig Renderer :=
  invoiceWiring.deps 4 30 "2026-06-18T00:00:00+00:00" "2026-06-18T00:00:01+00:00"

theorem fetch_invoice : (fetch invoiceStore makeRequest.templateUri).Runs cacheHit (.ok cachedInvoice) := by
  have hf : fetch invoiceStore makeRequest.templateUri =
      fetchPrefix invoiceStore makeRequest.templateUri "billing/invoice/v1/" :=
    fetch_eq invoiceStore (by decide) (by decide)
  have hd : localDirFor invoiceStore "billing/invoice/v1/" = .ok invoiceDir := by decide
  rw [hf, fetchPrefix, hd]
  exact ⟨_, _, rfl, _, _, rfl, rfl, rfl⟩

theorem render_invoice :
    invoiceRendering.document makeRequest cachedInvoice (.pdf, .jinjaHtml) = .ok invoicePdf := by decide

theorem process_invoice : (processBundle invoiceWiring.ports makeRequest "2026-06-18T00:00:00+00:00"
    cachedInvoice).Runs (pooled.map Event.inr ++ [uploaded]) (.ok invoiceResult) := by
  have hcheck : makeRequest.requestedFormats.mapM (checkedFormat cachedInvoice.manifest) =
      .ok [(.pdf, .jinjaHtml)] := by decide
  rw [processBundle_wired]
  refine runs_ofExcept_bind.mpr (Or.inr ⟨_, hcheck, ?_⟩)
  rw [render_loop_wired hcheck]
  refine runs_ofExcept_bind.mpr (Or.inr ⟨(), rfl, ?_⟩)
  refine runs_bind.mpr (Or.inr ⟨[invoicePdf], _, _, rfl, ?_, ?_⟩)
  · exact ⟨_, _, rfl, _, _, rfl, _, _, rfl, rfl, rfl⟩
  · exact ⟨_, _, rfl, rfl, rfl⟩

theorem build_invoice : (buildResult (invoiceDeps.reading invoicePydantic) makeRequest).Runs invoiceCalls
    (.ok invoiceResult) := by
  refine runs_tryCatch.mpr (Or.inl ⟨_, rfl, runs_tryCatch.mpr (Or.inl ⟨_, rfl, ?_⟩)⟩)
  refine runs_bind.mpr (Or.inr ⟨cachedInvoice, _, _, rfl, runs_inl.mpr ⟨_, rfl, fetch_invoice⟩, ?_⟩)
  exact runs_tryCatch.mpr (Or.inl ⟨_, rfl, process_invoice⟩)

/-- What goes over the wire at the end. -/
def invoicePublished : Event (wireSig.sum adapterSig) Exc :=
  ⟨.inl (.publish makeRequest.replyTo (toJsonBytes invoicePydantic invoiceResult)
    (NatsTransport.resultHeaders makeRequest.requestId) publishTimeoutSeconds), .ok ()⟩

def invoiceAcked : Event (wireSig.sum adapterSig) Exc := ⟨.inl .ack, .ok ()⟩

theorem answers_invoice : ∀ e ∈ invoiceCalls, AdapterAnswer invoiceRendering e := by
  intro e he
  simp only [invoiceCalls, cacheHit, pooled, List.map_cons, List.map_nil, List.cons_append, List.nil_append,
    List.mem_cons, List.not_mem_nil, or_false] at he
  rcases he with rfl | rfl | rfl | rfl | rfl | rfl
  · trivial
  · trivial
  · exact ⟨(), rfl⟩
  · exact Or.inl ⟨fixedTimestamp, render_invoice.symm⟩
  · exact ⟨(), rfl⟩
  · trivial

theorem implements_invoice : Implements ((natsTransport "docgen.dlq").impl invoicePydantic adapterSig)
    (invoiceCalls.map Event.inr ++
      [⟨.inl (.publishResult makeRequest.replyTo invoiceResult), .ok ()⟩, ⟨.inl .ack, .ok ()⟩])
    (invoiceCalls.map Event.inr ++ [invoicePublished, invoiceAcked]) := by
  have hpipe : ∀ pipe : List (Event adapterSig Exc), Implements
      ((natsTransport "docgen.dlq").impl invoicePydantic adapterSig) (pipe.map Event.inr) (pipe.map Event.inr) := by
    intro pipe
    induction pipe with
    | nil => exact .nil
    | cons e pipe ih =>
      refine @Implements.cons _ _ _ _ e.inr _ [e.inr] _ ?_ ih
      exact runs_inr.mpr ⟨[e], rfl, runs_perform.mpr rfl⟩
  refine (hpipe invoiceCalls).concat ?_
  show Implements _ _ ([invoicePublished] ++ ([invoiceAcked] ++ []))
  refine .cons ?_ (.cons ?_ .nil)
  · exact runs_inl.mpr ⟨[⟨_, .ok ()⟩], rfl, runs_perform.mpr rfl⟩
  · exact runs_inl.mpr ⟨[⟨_, .ok ()⟩], rfl, runs_perform.mpr rfl⟩

theorem handle_invoice (n : ℕ) : Steps
    (handleOnWire (natsTransport "docgen.dlq") invoicePydantic invoiceDeps ⟨requestBytes, some n⟩)
    (invoiceCalls.map Event.inr ++ [invoicePublished, invoiceAcked]) (.ret .ack) := by
  have hd : (invoiceDeps.reading invoicePydantic).decode requestBytes = some makeRequest := decode_invoice
  rw [handleOnWire, handleMessage_of_decode hd]
  refine steps_of_runs (runs_interp.mpr ⟨_, implements_invoice, ?_⟩)
  refine runs_tryCatch.mpr (Or.inl ⟨_, rfl, runs_bind.mpr (Or.inr ⟨invoiceResult, _, _, rfl, ?_, ?_⟩)⟩)
  · exact runs_inr.mpr ⟨_, rfl, build_invoice⟩
  · exact ⟨_, _, rfl, _, _, rfl, rfl, rfl⟩

/-- The publish of the invoice, at any delivery. -/
def invoicePublication (n : ℕ) : Publication invoiceRendering invoiceWiring invoicePydantic makeRequest where
  transport := natsTransport "docgen.dlq"
  maxDeliver := 4
  nakDelay := 30
  startedAt := invoiceDeps.startedAt
  failedAt := invoiceDeps.failedAt
  msg := ⟨requestBytes, some n⟩
  decoded := decode_invoice
  pre := invoiceCalls.map Event.inr
  post := [invoiceAcked]
  rest := .ret .ack
  subject := makeRequest.replyTo
  payload := toJsonBytes invoicePydantic invoiceResult
  requestId := makeRequest.requestId
  timeout := publishTimeoutSeconds
  answer := .ok ()
  steps := handle_invoice n
  answers := by
    rw [List.filterMap_append, Event.filterMap_right_inr]
    intro e he
    rcases List.mem_append.mp he with he | he
    · exact answers_invoice e he
    · cases he

theorem published_justified_invoice : ∃ result, (invoicePublication 1).subject = makeRequest.replyTo ∧
    (invoicePublication 1).payload = toJsonBytes invoicePydantic result ∧
    (invoicePydantic.Stable result.toJson →
      readResultBytes invoicePydantic (invoicePublication 1).payload = some result) ∧
    Justified invoiceRendering invoiceWiring makeRequest (invoicePublication 1).startedAt
      (invoicePublication 1).failedAt (invoicePublication 1).calls result ∧
    (isTerminal result = true ∨ 4 ≤ 1) :=
  published_justified invoice_lax (invoicePublication 1)

theorem fetched_invoice (n : ℕ) :
    FetchEnded invoiceWiring makeRequest (invoicePublication n).calls (.ok cachedInvoice) :=
  ⟨cacheHit, _, Event.filterMap_right_inr invoiceCalls, fetch_invoice⟩

/-- The first delivery and the third. -/
theorem final_answers_agree_invoice : ∃ r r', (invoicePublication 1).payload = toJsonBytes invoicePydantic r ∧
    (invoicePublication 3).payload = toJsonBytes invoicePydantic r' ∧
    (isTerminal r = true → isTerminal r' = true → SameAnswer r r') :=
  final_answers_agree (invoicePublication 1) (invoicePublication 3) (fetched_invoice 1) (fetched_invoice 3)

end DocGen
