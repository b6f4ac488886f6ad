/-
# Errors, message contracts and the manifest

The domain core (`domain/errors.py`, `domain/models.py`, `domain/results.py`):
the classified failures with their codes and their `permanent` flags, the
other exceptions the worker meets, the request and result that are the message
bodies, the manifest a template ships with, and the builders of results.

What pydantic checks on a field is a field of the structure here, so a request
with an empty output list cannot be built. JSON objects keep the order of
their keys, as Python's dicts do.
-/
import DocGen.Lib.Prog
import DocGen.Lib.PyRepr
import Mathlib.Data.Int.Notation
import Mathlib.Data.List.Nodup

namespace DocGen

abbrev Bytes : Type := List UInt8

/-- A JSON value. A float is its `repr`, and whether it is zero. -/
inductive Json
  | null
  | bool (b : Bool)
  | int (n : ℤ)
  | float (repr : String) (zero : Bool)
  | str (s : String)
  | arr (xs : List Json)
  | obj (fields : List (String × Json))

/-- A JSON object, as the `dict` the code reads it into. -/
abbrev JsonDict : Type := List (String × Json)

/-- `bool(x)`. -/
def Json.truthy : Json → Bool
  | .null => false
  | .bool b => b
  | .int n => n ≠ 0
  | .float _ zero => !zero
  | .str s => s ≠ ""
  | .arr xs => !xs.isEmpty
  | .obj fields => !fields.isEmpty

/-! ### Errors -/

inductive ErrorCode
  | validationError
  | templateNotFound
  | unsupportedFormat
  | renderError
  | storageError
  deriving DecidableEq

def ErrorCode.value : ErrorCode → String
  | .validationError => "VALIDATION_ERROR"
  | .templateNotFound => "TEMPLATE_NOT_FOUND"
  | .unsupportedFormat => "UNSUPPORTED_FORMAT"
  | .renderError => "RENDER_ERROR"
  | .storageError => "STORAGE_ERROR"

/-- The classes of classified failures. Their base class sets neither `code`
nor `permanent` and is never raised itself. -/
inductive DocGenErrorClass
  | schemaValidationError
  | templateNotFoundError
  | unsupportedFormatError
  | renderError
  | storageError
  deriving DecidableEq

namespace DocGenErrorClass

def name : DocGenErrorClass → String
  | .schemaValidationError => "SchemaValidationError"
  | .templateNotFoundError => "TemplateNotFoundError"
  | .unsupportedFormatError => "UnsupportedFormatError"
  | .renderError => "RenderError"
  | .storageError => "StorageError"

def code : DocGenErrorClass → ErrorCode
  | .schemaValidationError => .validationError
  | .templateNotFoundError => .templateNotFound
  | .unsupportedFormatError => .unsupportedFormat
  | .renderError => .renderError
  | .storageError => .storageError

def permanent : DocGenErrorClass → Bool
  | .schemaValidationError => true
  | .templateNotFoundError => true
  | .unsupportedFormatError => true
  | .renderError => false
  | .storageError => false

end DocGenErrorClass

structure DocGenError where
  cls : DocGenErrorClass
  message : String
  deriving DecidableEq

/-- The transport errors the storage client names. -/
inductive TransportKind
  | timeoutError
  | endpointConnectionError
  | connectionError
  | readTimeoutError
  deriving DecidableEq

/-- The exceptions of the worker, as its `except` clauses tell them apart. All
are subclasses of `Exception`; a cancellation is not one. -/
inductive Exc
  | docGen (e : DocGenError)
  | objectNotFound (key : String)
  | transientStorage (message : String)
  | clientError (code : String) (status : Option ℤ) (message : String)
  | transport (kind : TransportKind) (message : String)
  | osError (errno : ℕ) (message : String)
  | valueError (message : String)
  | brokenProcessPool (message : String)
  | notFoundError (message : String)
  | apiError (message : String)
  | runtimeError (message : String)
  | other (cls message : String)
  deriving DecidableEq

/-- `str(exc)`. -/
def Exc.str : Exc → String
  | .docGen e => e.message
  | .objectNotFound key => key
  | .transientStorage m | .clientError _ _ m | .transport _ m | .osError _ m | .valueError m
  | .brokenProcessPool m | .notFoundError m | .apiError m | .runtimeError m | .other _ m => m

/-- The class of an exception: what is left of it without its texts. -/
def Exc.cls : Exc → Exc
  | .docGen e => .docGen ⟨e.cls, ""⟩
  | .objectNotFound _ => .objectNotFound ""
  | .transientStorage _ => .transientStorage ""
  | .clientError _ _ _ => .clientError "" none ""
  | .transport kind _ => .transport kind ""
  | .osError errno _ => .osError errno ""
  | .valueError _ => .valueError ""
  | .brokenProcessPool _ => .brokenProcessPool ""
  | .notFoundError _ => .notFoundError ""
  | .apiError _ => .apiError ""
  | .runtimeError _ => .runtimeError ""
  | .other cls _ => .other cls ""

/-- `isinstance(exc, OSError)`: a `TimeoutError` is one. The number of another
says which subclass it is of. -/
def Exc.isOSError : Exc → Bool
  | .osError _ _ | .transport .timeoutError _ => true
  | _ => false

/-- A coroutine of the worker. -/
abbrev Coroutine (S : Sig) (α : Type) : Type := Prog S Exc α

def raiseDocGen {S : Sig} {α : Type} (cls : DocGenErrorClass) (message : String) : Coroutine S α :=
  .raise (.docGen ⟨cls, message⟩)

/-! ### Formats and the manifest -/

inductive OutputFormat
  | pdf
  | xlsx
  | docx
  | html
  deriving DecidableEq

namespace OutputFormat

def value : OutputFormat → String
  | .pdf => "pdf"
  | .xlsx => "xlsx"
  | .docx => "docx"
  | .html => "html"

def contentType : OutputFormat → String
  | .pdf => "application/pdf"
  | .xlsx => "application/vnd.openxmlformats-officedocument.spreadsheetml.sheet"
  | .docx => "application/vnd.openxmlformats-officedocument.wordprocessingml.document"
  | .html => "text/html; charset=utf-8"

def extension (fmt : OutputFormat) : String := fmt.value

end OutputFormat

inductive Engine
  | jinjaHtml
  | xlsx
  | docx
  | pdfForm
  deriving DecidableEq

def Engine.value : Engine → String
  | .jinjaHtml => "jinja-html"
  | .xlsx => "xlsx"
  | .docx => "docx"
  | .pdfForm => "pdf-form"

/-- `bool(s)`, of a field that may be left out. -/
def isSet : Option String → Bool
  | none => false
  | some s => s ≠ ""

/-- A repeating region of a spreadsheet template. Of the two anchors exactly
one is set (`_exactly_one_anchor`). -/
structure BlockSpec where
  source : String
  columns : List String
  anchor : Option String
  anchorName : Option String
  maxRows : Option ℕ
  hideUnusedRows : Bool
  source_ne : source ≠ ""
  columns_ne : columns ≠ []
  exactlyOneAnchor : isSet anchor ≠ isSet anchorName
  maxRows_pos : ∀ n ∈ maxRows, 1 ≤ n

namespace Json

/-- `isinstance(x, int)`, with the value: a `bool` is an `int`. -/
def int? : Json → Option ℤ
  | .int n => some n
  | .bool b => some (if b then 1 else 0)
  | _ => none

/-- `x.get(key)` where `x` is a dict. -/
def get? (key : String) : Json → Option Json
  | .obj fields => fields.lookup key
  | _ => none

end Json

/-- The integer `maxItems` of a property of a schema. -/
def maxItems (schema : JsonDict) (source : String) : Option ℤ :=
  (((schema.lookup "properties").bind (Json.get? source)).bind (Json.get? "maxItems")).bind Json.int?

/-- `block_capacity`, with the text of its `ValueError`: `max_rows`, or
`maxItems` of the block's source. -/
def capacityOf (requiredFields : JsonDict) (block : BlockSpec) : Except String ℕ :=
  let noCapacity := "block " ++ pyRepr block.source ++ " has no capacity: set 'max_rows' on the " ++
    "block, or 'maxItems' on required_fields.properties." ++ block.source
  match block.maxRows with
  | some n => .ok n
  | none =>
    match maxItems requiredFields block.source with
    | some n => if 1 ≤ n then .ok n.toNat else .error noCapacity
    | none => .error noCapacity

structure Manifest where
  id : String
  version : String
  engine : Engine
  supportedFormats : List OutputFormat
  requiredFields : JsonDict
  outputBasename : Option String
  blocks : List BlockSpec
  blocksHaveResolvableCapacity : ∀ block ∈ blocks, ∃ n, capacityOf requiredFields block = .ok n

namespace Manifest

def blockCapacity (m : Manifest) (block : BlockSpec) : Except String ℕ :=
  capacityOf m.requiredFields block

/-- `self.output_basename`, or the last dot-segment of the id. -/
def resolveOutputBasename (m : Manifest) : String :=
  match m.outputBasename with
  | some b => if b ≠ "" then b else lastSegment m.id
  | none => lastSegment m.id
where
  /-- `id.rsplit(".", 1)[-1]`. -/
  lastSegment (id : String) : String :=
    String.ofList (id.toList.reverse.takeWhile (· ≠ '.')).reverse

def filenameFor (m : Manifest) (fmt : OutputFormat) : String :=
  m.resolveOutputBasename ++ "." ++ fmt.extension

end Manifest

/-- The manifest of a template that declares PDF only. -/
def invoiceManifest : Manifest where
  id := "invoice"
  version := "1.0.0"
  engine := .jinjaHtml
  supportedFormats := [.pdf]
  requiredFields := []
  outputBasename := none
  blocks := []
  blocksHaveResolvableCapacity := by simp

/-! ### The request -/

structure OutputSpec where
  format : OutputFormat
  deriving DecidableEq

structure RequestOptions where
  locale : Option String
  presignTtl : Option ℕ
  presignTtl_pos : ∀ t ∈ presignTtl, 1 ≤ t

structure GenerationRequest where
  requestId : String
  templateUri : String
  outputs : List OutputSpec
  data : JsonDict
  keyPrefix : String
  replyTo : String
  options : RequestOptions
  metadata : JsonDict
  requestId_ne : requestId ≠ ""
  templateUri_ne : templateUri ≠ ""
  outputs_ne : outputs ≠ []
  keyPrefix_ne : keyPrefix ≠ ""
  replyTo_ne : replyTo ≠ ""

/-- `seen.setdefault(fmt, None)` on the keys of `seen`. -/
def setdefault (seen : List OutputFormat) (fmt : OutputFormat) : List OutputFormat :=
  if fmt ∈ seen then seen else seen ++ [fmt]

def GenerationRequest.requestedFormats (r : GenerationRequest) : List OutputFormat :=
  r.outputs.foldl (fun seen out => setdefault seen out.format) []

/-! ### The result -/

inductive GenerationStatus
  | success
  | failed
  deriving DecidableEq

structure Artifact where
  format : OutputFormat
  uri : String
  presignedUrl : Option String
  sizeBytes : ℕ
  sha256 : String
  deriving DecidableEq

structure ResultError where
  code : String
  message : String
  permanent : Bool
  deriving DecidableEq

structure GenerationResult where
  requestId : String
  status : GenerationStatus
  artifacts : List Artifact
  error : Option ResultError
  templateVersion : Option String
  generatedAt : String
  metadata : JsonDict

def successResult (request : GenerationRequest) (artifacts : List Artifact)
    (templateVersion generatedAt : String) : GenerationResult where
  requestId := request.requestId
  status := .success
  artifacts := artifacts
  error := none
  templateVersion := some templateVersion
  generatedAt := generatedAt
  metadata := request.metadata

def failureResult (request : GenerationRequest) (code message : String) (permanent : Bool)
    (generatedAt : String) (templateVersion : Option String) : GenerationResult where
  requestId := request.requestId
  status := .failed
  artifacts := []
  error := some ⟨code, message, permanent⟩
  templateVersion := templateVersion
  generatedAt := generatedAt
  metadata := request.metadata

def failureFromError (request : GenerationRequest) (exc : DocGenError) (generatedAt : String)
    (templateVersion : Option String) : GenerationResult :=
  failureResult request exc.cls.code.value
    (if exc.message ≠ "" then exc.message else exc.cls.name)
    exc.cls.permanent generatedAt templateVersion

/-! ### Renderer output -/

structure RenderedArtifact where
  format : OutputFormat
  filename : String
  content : Bytes
  deriving DecidableEq

def RenderedArtifact.contentType (art : RenderedArtifact) : String := art.format.contentType

/-! ### The requested formats -/

theorem mem_setdefault {seen : List OutputFormat} {fmt f : OutputFormat} :
    f ∈ setdefault seen fmt ↔ f ∈ seen ∨ f = fmt := by
  unfold setdefault
  split
  · rename_i h
    exact ⟨Or.inl, fun hf => hf.elim id fun he => he ▸ h⟩
  · simp

theorem nodup_setdefault {seen : List OutputFormat} (fmt : OutputFormat) (h : seen.Nodup) :
    (setdefault seen fmt).Nodup := by
  unfold setdefault
  split
  · exact h
  · rename_i hn
    refine List.nodup_append.mpr ⟨h, List.nodup_singleton _, fun a ha b hb he => hn ?_⟩
    rw [← List.mem_singleton.mp hb, ← he]
    exact ha

/-- The loop of `requestedFormats`, from any list already seen. -/
theorem foldl_setdefault : ∀ (outs : List OutputSpec) (seen : List OutputFormat), seen.Nodup →
    (outs.foldl (fun seen out => setdefault seen out.format) seen).Nodup ∧
      ∀ f, f ∈ outs.foldl (fun seen out => setdefault seen out.format) seen ↔
        f ∈ seen ∨ ∃ o ∈ outs, o.format = f
  | [], seen, h => by simpa using h
  | o :: outs, seen, h => by
    obtain ⟨h1, h2⟩ := foldl_setdefault outs (setdefault seen o.format) (nodup_setdefault _ h)
    refine ⟨h1, fun f => ?_⟩
    rw [List.foldl_cons, h2 f, mem_setdefault, or_assoc]
    simp [eq_comm (a := f)]

theorem GenerationRequest.requestedFormats_nodup (r : GenerationRequest) :
    r.requestedFormats.Nodup :=
  (foldl_setdefault r.outputs [] List.nodup_nil).1

theorem GenerationRequest.mem_requestedFormats (r : GenerationRequest) (f : OutputFormat) :
    f ∈ r.requestedFormats ↔ ∃ o ∈ r.outputs, o.format = f :=
  ((foldl_setdefault r.outputs [] List.nodup_nil).2 f).trans (by simp)

/-- Each requested format keeps the place at which it is first seen: what the
first outputs request comes first. -/
theorem GenerationRequest.requestedFormats_prefix (r : GenerationRequest) {pre post : List OutputSpec}
    (h : r.outputs = pre ++ post) :
    pre.foldl (fun seen out => setdefault seen out.format) [] <+: r.requestedFormats := by
  rw [requestedFormats, h, List.foldl_append]
  generalize pre.foldl (fun seen out => setdefault seen out.format) [] = seen
  clear h
  induction post generalizing seen with
  | nil => exact List.prefix_rfl
  | cons o post ih =>
    refine List.IsPrefix.trans ?_ (ih (setdefault seen o.format))
    unfold setdefault
    split
    · exact List.prefix_rfl
    · exact List.prefix_append _ _

end DocGen
