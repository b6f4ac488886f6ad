/-
# The pipeline

`domain/ports.py` and `domain/orchestrator.py`: the five ports a request is
processed through, the key an artifact is stored under, and `process_request`,
fetch, check the formats, validate, render, store. The pipeline is a program
over the calls of any signature; what a port does is the port's own program,
so that the pipeline stands once for the ports as bare calls (`portSig`) and
for the adapters of the worker.

`ρ` stands for the renderers, which the pipeline only hands on.
-/
import DocGen.Lib.Interp
import DocGen.Lib.Str
import DocGen.Models

namespace DocGen

open Prog

/-- A fetched template: its manifest and the directory that holds its files. -/
structure TemplateBundle where
  manifest : Manifest
  root : List String

/-- The outcome of writing one artifact to the output bucket. -/
structure StoredArtifact where
  uri : String
  sizeBytes : ℕ
  sha256 : String
  presignedUrl : Option String
  deriving DecidableEq

/-- The ports of the pipeline: `TemplateStore.fetch`, `RendererRegistry.get`,
`Validator.validate`, `RenderExecutor.run` and `ObjectStore.put`. -/
structure Ports (S : Sig) (ρ : Type) where
  fetch (uri : String) : Coroutine S TemplateBundle
  get (engine : Engine) (fmt : OutputFormat) : Coroutine S (Option ρ)
  validate (data schema : JsonDict) : Coroutine S Unit
  run (renderer : ρ) (bundle : TemplateBundle) (data : JsonDict) (fmt : OutputFormat)
    (locale : Option String) : Coroutine S RenderedArtifact
  put (key : String) (content : Bytes) (contentType : String) (presignTtl : Option ℕ) :
    Coroutine S StoredArtifact

/-- The key of a file under the caller's prefix, with one separator. -/
def buildObjectKey (keyPrefix filename : String) : String :=
  rstrip '/' keyPrefix ++ "/" ++ lstrip '/' filename

section

variable {S : Sig} {ρ : Type} (P : Ports S ρ) (request : GenerationRequest) (generatedAt : String)

/-- One turn of the format check: the entry of `renderers` for `fmt`. -/
def checkFormat (manifest : Manifest) (fmt : OutputFormat) : Coroutine S (OutputFormat × ρ) :=
  if fmt ∉ manifest.supportedFormats then
    raiseDocGen .unsupportedFormatError
      ("format " ++ pyRepr fmt.value ++ " not in template supported_formats [" ++
        ", ".intercalate (manifest.supportedFormats.map fun f => pyRepr f.value) ++ "]")
  else do
    let renderer ← P.get manifest.engine fmt
    match renderer with
    | none =>
      raiseDocGen .unsupportedFormatError
        ("no renderer for engine " ++ pyRepr manifest.engine.value ++ " + format " ++
          pyRepr fmt.value)
    | some renderer => return (fmt, renderer)

/-- One turn of the render loop. The lookup in `renderers` is a subscript,
which raises on a key that is not there. -/
def renderFormat (bundle : TemplateBundle) (renderers : List (OutputFormat × ρ))
    (fmt : OutputFormat) : Coroutine S RenderedArtifact :=
  match renderers.lookup fmt with
  | none => .raise (.other "KeyError" fmt.value)
  | some renderer => P.run renderer bundle request.data fmt request.options.locale

/-- One turn of the store loop. -/
def storeArtifact (art : RenderedArtifact) : Coroutine S Artifact := do
  let stored ← P.put (buildObjectKey request.keyPrefix art.filename) art.content art.contentType
    request.options.presignTtl
  return {
    format := art.format
    uri := stored.uri
    presignedUrl := stored.presignedUrl
    sizeBytes := stored.sizeBytes
    sha256 := stored.sha256 }

/-- The `try` body of `process_request` once the template is fetched. -/
def processBundle (bundle : TemplateBundle) : Coroutine S GenerationResult := do
  let renderers ← Prog.forEach (checkFormat P bundle.manifest) request.requestedFormats
  P.validate request.data bundle.manifest.requiredFields
  let rendered ← Prog.forEach (renderFormat P request bundle renderers) request.requestedFormats
  let artifacts ← Prog.forEach (storeArtifact P request) rendered
  return successResult request artifacts bundle.manifest.version generatedAt

/-- `except DocGenError as exc`, with the version known so far. -/
def exceptDocGenError (templateVersion : Option String) : Exc → Coroutine S GenerationResult
  | .docGen exc => return failureFromError request exc generatedAt templateVersion
  | exc => .raise exc

/-- `process_request`. The source's one `try` is read as two, of which the
inner begins where `template_version` is set: a `DocGenError` raised after
that point is caught with the manifest's version, one of `fetch` without. -/
def processRequest : Coroutine S GenerationResult :=
  ((P.fetch request.templateUri).bind fun bundle =>
    (processBundle P request generatedAt bundle).tryCatch
      (exceptDocGenError request generatedAt (some bundle.manifest.version))).tryCatch
    (exceptDocGenError request generatedAt none)

end

/-! ### The ports as calls -/

/-- One call for each method of a port. -/
inductive PortOp (ρ : Type)
  | fetch (uri : String)
  | get (engine : Engine) (fmt : OutputFormat)
  | validate (data schema : JsonDict)
  | run (renderer : ρ) (bundle : TemplateBundle) (data : JsonDict) (fmt : OutputFormat)
      (locale : Option String)
  | put (key : String) (content : Bytes) (contentType : String) (presignTtl : Option ℕ)

abbrev PortOp.Res {ρ : Type} : PortOp ρ → Type
  | .fetch _ => TemplateBundle
  | .get _ _ => Option ρ
  | .validate _ _ => Unit
  | .run _ _ _ _ _ => RenderedArtifact
  | .put _ _ _ _ => StoredArtifact

abbrev portSig (ρ : Type) : Sig := ⟨PortOp ρ, PortOp.Res⟩

/-- The ports whose methods are calls: what they answer is up to whoever
answers calls. -/
def Ports.calls (ρ : Type) : Ports (portSig ρ) ρ where
  fetch uri := Prog.perform (S := portSig ρ) (PortOp.fetch uri)
  get engine fmt := Prog.perform (S := portSig ρ) (PortOp.get engine fmt)
  validate data schema := Prog.perform (S := portSig ρ) (PortOp.validate data schema)
  run renderer bundle data fmt locale :=
    Prog.perform (S := portSig ρ) (PortOp.run renderer bundle data fmt locale)
  put key content contentType presignTtl :=
    Prog.perform (S := portSig ρ) (PortOp.put key content contentType presignTtl)

/-- The calls of the ports as programs of the adapters. -/
def Ports.impl {S : Sig} {ρ : Type} (P : Ports S ρ) : ∀ op : PortOp ρ, Coroutine S (PortOp.Res op)
  | .fetch uri => P.fetch uri
  | .get engine fmt => P.get engine fmt
  | .validate data schema => P.validate data schema
  | .run renderer bundle data fmt locale => P.run renderer bundle data fmt locale
  | .put key content contentType presignTtl => P.put key content contentType presignTtl

section

variable {S : Sig} {ρ : Type} (P : Ports S ρ) (request : GenerationRequest) (generatedAt : String)

theorem checkFormat_interp (manifest : Manifest) (fmt : OutputFormat) :
    (checkFormat (Ports.calls ρ) manifest fmt).interp P.impl = checkFormat P manifest fmt := by
  unfold checkFormat
  split
  · rfl
  · rw [bind_eq, bind_eq, interp_bind]
    congr 1
    · exact interp_perform _
    · exact funext fun renderer => by cases renderer <;> rfl

theorem renderFormat_interp (bundle : TemplateBundle) (renderers : List (OutputFormat × ρ))
    (fmt : OutputFormat) : (renderFormat (Ports.calls ρ) request bundle renderers fmt).interp P.impl =
      renderFormat P request bundle renderers fmt := by
  unfold renderFormat
  split
  · rfl
  · exact interp_perform _

theorem storeArtifact_interp (art : RenderedArtifact) :
    (storeArtifact (Ports.calls ρ) request art).interp P.impl = storeArtifact P request art := by
  unfold storeArtifact
  rw [bind_eq, bind_eq, interp_bind]
  congr 1
  exact interp_perform _

theorem processBundle_interp (bundle : TemplateBundle) :
    (processBundle (Ports.calls ρ) request generatedAt bundle).interp P.impl =
      processBundle P request generatedAt bundle := by
  have hvalidate : ((Ports.calls ρ).validate request.data bundle.manifest.requiredFields).interp P.impl =
      P.validate request.data bundle.manifest.requiredFields := interp_perform _
  simp only [processBundle, bind_eq, pure_eq, interp_bind, interp_forEach, checkFormat_interp,
    renderFormat_interp, storeArtifact_interp, hvalidate, interp_ret]

theorem exceptDocGenError_interp (version : Option String) (exc : Exc) :
    (exceptDocGenError request generatedAt version exc : Coroutine (portSig ρ) _).interp P.impl =
      exceptDocGenError request generatedAt version exc := by
  cases exc <;> rfl

/-- The pipeline over the adapters is the pipeline of bare calls, with each
call implemented by its adapter. -/
theorem processRequest_interp : (processRequest (Ports.calls ρ) request generatedAt).interp P.impl =
    processRequest P request generatedAt := by
  have hfetch : ((Ports.calls ρ).fetch request.templateUri).interp P.impl =
      P.fetch request.templateUri := interp_perform _
  simp only [processRequest, interp_tryCatch, interp_bind, processBundle_interp,
    exceptDocGenError_interp, hfetch]

end

/-- A request for one PDF, as a caller sends it. -/
def makeRequest : GenerationRequest where
  requestId := "req-1"
  templateUri := "s3://optimce-templates/billing/invoice/v1/"
  outputs := [⟨.pdf⟩]
  data := [("invoice_number", .str "INV-001")]
  keyPrefix := "billing/invoices/2026/06/inv-00042/"
  replyTo := "docgen.result.billing"
  options := { locale := some "fr-BE", presignTtl := none, presignTtl_pos := by simp }
  metadata := [("invoice_id", .str "abc-123")]
  requestId_ne := by decide
  templateUri_ne := by decide
  outputs_ne := by decide
  keyPrefix_ne := by decide
  replyTo_ne := by decide

/-! ### Keys of one template -/

/-- The extension stays at the end of a key whatever slashes are stripped. -/
theorem toList_objectKey (keyPrefix : String) (m : Manifest) (fmt : OutputFormat) :
    (buildObjectKey keyPrefix (m.filenameFor fmt)).toList =
      keyPrefix.toList.rdropWhile (· = '/') ++ '/' ::
        (m.resolveOutputBasename.toList.dropWhile (· = '/') ++ '.' :: fmt.value.toList) := by
  have hdot : ("." : String).toList = ['.'] := rfl
  have hslash : ("/" : String).toList = ['/'] := rfl
  simp only [buildObjectKey, Manifest.filenameFor, OutputFormat.extension, String.toList_append,
    toList_rstrip, toList_lstrip, hdot, hslash, List.append_assoc, List.singleton_append]
  rw [dropWhile_append_cons (by decide)]

/-- One request writes each of its formats under a key of its own. -/
theorem objectKey_injective (keyPrefix : String) (m : Manifest) {f g : OutputFormat}
    (h : buildObjectKey keyPrefix (m.filenameFor f) = buildObjectKey keyPrefix (m.filenameFor g)) :
    f = g := by
  have h' := congrArg String.toList h
  rw [toList_objectKey, toList_objectKey] at h'
  simp only [List.append_cancel_left_eq, List.cons.injEq, true_and] at h'
  revert h'
  cases f <;> cases g <;> decide

end DocGen
