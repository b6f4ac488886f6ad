/-
# Messages on the wire

The models of `domain/models.py` as JSON: how `_decode` reads a request, how
`to_json_bytes` writes a result, and how `adapters/nats_transport.py` publishes
it. A request ignores what it does not know, at every level; a result forbids
it, and leaves out its fields that are `None`.

pydantic's parser and printer are parameters, and so is what its lax mode takes
for an int or a bool. A JSON object holds no key twice.
-/
import DocGen.Handling
import DocGen.Pipeline

namespace DocGen

open Prog

/-- pydantic: the JSON of a text, the text of a JSON value, and the values taken
for an int and for a bool. -/
structure Pydantic where
  fromJson (text : Bytes) : Option Json
  toJson (x : Json) : Bytes
  int (x : Json) : Option ℤ
  bool (x : Json) : Option Bool

/-! ### Fields -/

/-- A string with `min_length=1`. -/
abbrev Name : Type := { s : String // s ≠ "" }

section

variable {α : Type} (fields : JsonDict) (key : String)

/-- A field without a default. -/
def required (read : Json → Option α) : Option α := (fields.lookup key).bind read

/-- A field with a default. -/
def defaulted (default : α) (read : Json → Option α) : Option α :=
  match fields.lookup key with
  | none => some default
  | some x => read x

end

def readStr : Json → Option String
  | .str s => some s
  | _ => none

def readName : Json → Option Name
  | .str s => if h : s ≠ "" then some ⟨s, h⟩ else none
  | _ => none

def readDict : Json → Option JsonDict
  | .obj fields => some fields
  | _ => none

/-- A member of an enumeration of strings. -/
def readMember {α : Type} (members : List α) (value : α → String) : Json → Option α
  | .str s => members.find? fun member => value member = s
  | _ => none

def readFormat : Json → Option OutputFormat := readMember [.pdf, .xlsx, .docx, .html] OutputFormat.value

/-- `T | None`. -/
def readOptional {α : Type} (read : Json → Option α) : Json → Option (Option α)
  | .null => some none
  | x => (read x).map some

def readList {α : Type} (read : Json → Option α) : Json → Option (List α)
  | .arr xs => xs.mapM read
  | _ => none

/-- A model with `extra="ignore"`. -/
def readModel {α : Type} (read : JsonDict → Option α) : Json → Option α
  | .obj fields => read fields
  | _ => none

/-- A model with `extra="forbid"`. -/
def readStrict {α : Type} (keys : List String) (read : JsonDict → Option α) : Json → Option α
  | .obj fields => if ∀ field ∈ fields, field.1 ∈ keys then read fields else none
  | _ => none

/-! ### The request -/

def readTemplateRef : Json → Option Name := readModel fun fields => required fields "uri" readName

def readOutputSpec : Json → Option OutputSpec :=
  readModel fun fields => (required fields "format" readFormat).map OutputSpec.mk

/-- A `presign_ttl`, with `ge=1`. -/
abbrev PresignTtl : Type := { ttl : Option ℕ // ∀ t ∈ ttl, 1 ≤ t }

theorem none_pos : ∀ t ∈ (none : Option ℕ), 1 ≤ t := by simp

def noPresignTtl : PresignTtl := ⟨none, none_pos⟩

def readPresignTtl (P : Pydantic) : Json → Option PresignTtl
  | .null => some noPresignTtl
  | x => (P.int x).bind fun n => if h : 1 ≤ n then some ⟨some n.toNat, by simp; omega⟩ else none

def readOptions (P : Pydantic) : Json → Option RequestOptions := readModel fun fields => do
  let locale ← defaulted fields "locale" none (readOptional readStr)
  let ttl ← defaulted fields "presign_ttl" noPresignTtl (readPresignTtl P)
  return ⟨locale, ttl.1, ttl.2⟩

def defaultOptions : RequestOptions := ⟨none, noPresignTtl.1, noPresignTtl.2⟩

/-- `GenerationRequest.model_validate`. Nothing reads `tenant_id` and
`requested_by` later. -/
def readRequest (P : Pydantic) : Json → Option GenerationRequest := readModel fun fields => do
  let requestId ← required fields "request_id" readName
  let _ ← required fields "tenant_id" readName
  let _ ← required fields "requested_by" readName
  let template ← required fields "template" readTemplateRef
  let outputs ← required fields "outputs" (readList readOutputSpec)
  let data ← defaulted fields "data" [] readDict
  let keyPrefix ← required fields "key_prefix" readName
  let replyTo ← required fields "reply_to" readName
  let options ← defaulted fields "options" defaultOptions (readOptions P)
  let metadata ← defaulted fields "metadata" [] readDict
  if h : outputs ≠ [] then
    some {
      requestId := requestId.1
      templateUri := template.1
      outputs := outputs
      data := data
      keyPrefix := keyPrefix.1
      replyTo := replyTo.1
      options := options
      metadata := metadata
      requestId_ne := requestId.2
      templateUri_ne := template.2
      outputs_ne := h
      keyPrefix_ne := keyPrefix.2
      replyTo_ne := replyTo.2 }
  else none

/-- `_decode`. -/
def decode (P : Pydantic) (raw : Bytes) : Option GenerationRequest := (P.fromJson raw).bind (readRequest P)

/-! ### The result -/

/-- A field that `exclude_none` leaves out. -/
def optionalField (key : String) (value : Option Json) : JsonDict := (value.map fun x => (key, x)).toList

def Artifact.toJson (artifact : Artifact) : Json :=
  .obj ([("format", .str artifact.format.value), ("uri", .str artifact.uri)] ++
    optionalField "presigned_url" (artifact.presignedUrl.map .str) ++
    [("size_bytes", .int artifact.sizeBytes), ("sha256", .str artifact.sha256)])

def ResultError.toJson (error : ResultError) : Json :=
  .obj [("code", .str error.code), ("message", .str error.message), ("permanent", .bool error.permanent)]

def GenerationStatus.value : GenerationStatus → String
  | .success => "success"
  | .failed => "failed"

/-- `model_dump(exclude_none=True)`: what `metadata` holds is kept as it is. -/
def GenerationResult.toJson (result : GenerationResult) : Json :=
  .obj ([("request_id", .str result.requestId), ("status", .str result.status.value),
      ("artifacts", .arr (result.artifacts.map Artifact.toJson))] ++
    optionalField "error" (result.error.map ResultError.toJson) ++
    optionalField "template_version" (result.templateVersion.map .str) ++
    [("generated_at", .str result.generatedAt), ("metadata", .obj result.metadata)])

def toJsonBytes (P : Pydantic) (result : GenerationResult) : Bytes := P.toJson result.toJson

/-- A size. A negative one is taken by the source; none is ever written. -/
def readSize (P : Pydantic) (x : Json) : Option ℕ :=
  (P.int x).bind fun n => if 0 ≤ n then some n.toNat else none

def readArtifact (P : Pydantic) : Json → Option Artifact :=
  readStrict ["format", "uri", "presigned_url", "size_bytes", "sha256"] fun fields => do
    let format ← required fields "format" readFormat
    let uri ← required fields "uri" readStr
    let presignedUrl ← defaulted fields "presigned_url" none (readOptional readStr)
    let sizeBytes ← required fields "size_bytes" (readSize P)
    let sha256 ← required fields "sha256" readStr
    return ⟨format, uri, presignedUrl, sizeBytes, sha256⟩

def readResultError (P : Pydantic) : Json → Option ResultError :=
  readStrict ["code", "message", "permanent"] fun fields => do
    let code ← required fields "code" readStr
    let message ← required fields "message" readStr
    let permanent ← required fields "permanent" P.bool
    return ⟨code, message, permanent⟩

/-- `GenerationResult.model_validate`. -/
def readResult (P : Pydantic) : Json → Option GenerationResult :=
  readStrict ["request_id", "status", "artifacts", "error", "template_version", "generated_at", "metadata"]
    fun fields => do
      let requestId ← required fields "request_id" readStr
      let status ← required fields "status" (readMember [.success, .failed] GenerationStatus.value)
      let artifacts ← defaulted fields "artifacts" [] (readList (readArtifact P))
      let error ← defaulted fields "error" none (readOptional (readResultError P))
      let templateVersion ← defaulted fields "template_version" none (readOptional readStr)
      let generatedAt ← required fields "generated_at" readStr
      let metadata ← defaulted fields "metadata" [] readDict
      return ⟨requestId, status, artifacts, error, templateVersion, generatedAt, metadata⟩

/-! ### Reading what was written -/

/-- An int and a bool are taken as they are. -/
structure Pydantic.Lax (P : Pydantic) : Prop where
  int : ∀ n, P.int (.int n) = some n
  bool : ∀ b, P.bool (.bool b) = some b

theorem readFormat_value (fmt : OutputFormat) : readFormat (.str fmt.value) = some fmt := by
  cases fmt <;> decide

theorem readStatus_value (status : GenerationStatus) :
    readMember [.success, .failed] GenerationStatus.value (.str status.value) = some status := by
  cases status <;> decide

theorem readList_map {α : Type} {read : Json → Option α} {write : α → Json} (h : ∀ a, read (write a) = some a)
    (xs : List α) : readList read (.arr (xs.map write)) = some xs := by
  show (xs.map write).mapM read = some xs
  induction xs with
  | nil => rfl
  | cons x xs ih => rw [List.map_cons, List.mapM_cons, h, ih]; rfl

theorem readStrict_obj {α : Type} {keys : List String} {read : JsonDict → Option α} {fields : JsonDict}
    (h : ∀ field ∈ fields, field.1 ∈ keys) : readStrict keys read (.obj fields) = read fields := if_pos h

theorem readSize_int {P : Pydantic} (hP : P.Lax) (n : ℕ) : readSize P (.int n) = some n := by
  rw [readSize, hP.int]
  simp

theorem readArtifact_toJson {P : Pydantic} (hP : P.Lax) (artifact : Artifact) :
    readArtifact P artifact.toJson = some artifact := by
  obtain ⟨format, uri, presignedUrl, sizeBytes, sha256⟩ := artifact
  have hformat := readFormat_value format
  have hsize := readSize_int hP sizeBytes
  unfold readArtifact Artifact.toJson
  cases presignedUrl with
  | none =>
    rw [readStrict_obj (by simp [optionalField])]
    simp [required, defaulted, optionalField, List.lookup_cons, hformat, hsize, readStr]
  | some url =>
    rw [readStrict_obj (by simp [optionalField])]
    simp [required, defaulted, optionalField, List.lookup_cons, hformat, hsize, readStr, readOptional]

theorem readResultError_toJson {P : Pydantic} (hP : P.Lax) (error : ResultError) :
    readResultError P error.toJson = some error := by
  unfold readResultError ResultError.toJson
  rw [readStrict_obj (by simp)]
  simp [required, List.lookup_cons, hP.bool, readStr]

/-- What is read of a result is the result. -/
theorem readResult_toJson {P : Pydantic} (hP : P.Lax) (result : GenerationResult) :
    readResult P result.toJson = some result := by
  obtain ⟨requestId, status, artifacts, error, templateVersion, generatedAt, metadata⟩ := result
  have hstatus := readStatus_value status
  have hartifacts := readList_map (readArtifact_toJson hP) artifacts
  have herror : ∀ e, readOptional (readResultError P) e.toJson = some (some e) := fun e =>
    congrArg (Option.map some) (readResultError_toJson hP e)
  have hversion : ∀ v, readOptional readStr (.str v) = some (some v) := fun _ => rfl
  unfold readResult GenerationResult.toJson
  rw [readStrict_obj (by cases error <;> cases templateVersion <;> simp [optionalField])]
  cases error <;> cases templateVersion <;>
    simp [required, defaulted, optionalField, List.lookup_cons, hstatus, hartifacts, herror, hversion, readStr, readDict]

/-! ### Bytes -/

/-- The printer writes the value, and the parser reads it back. A float that is
not finite is written as a null. -/
def Pydantic.Stable (P : Pydantic) (x : Json) : Prop := P.fromJson (P.toJson x) = some x

/-- `GenerationResult.model_validate_json`. -/
def readResultBytes (P : Pydantic) (raw : Bytes) : Option GenerationResult := (P.fromJson raw).bind (readResult P)

theorem readResultBytes_of_stable {P : Pydantic} (hP : P.Lax) {result : GenerationResult}
    (hs : P.Stable result.toJson) : readResultBytes P (toJsonBytes P result) = some result := by
  have hs : P.fromJson (toJsonBytes P result) = some result.toJson := hs
  rw [readResultBytes, hs]
  exact readResult_toJson hP result

/-! ### What a request ignores -/

/-- Objects that agree on these keys. -/
inductive SameObject (keys : List String) : Json → Json → Prop
  | same (x : Json) : SameObject keys x x
  | obj {fields fields' : JsonDict} (h : ∀ key ∈ keys, fields.lookup key = fields'.lookup key) :
      SameObject keys (.obj fields) (.obj fields')

/-- Lists of outputs that agree on the formats. -/
inductive SameOutputs : Json → Json → Prop
  | same (x : Json) : SameOutputs x x
  | arr {xs ys : List Json} (h : List.Forall₂ (SameObject ["format"]) xs ys) : SameOutputs (.arr xs) (.arr ys)

/-- Bodies that agree on the fields of a request, and on those of its template,
its outputs and its options. -/
inductive SameRequest : Json → Json → Prop
  | same (x : Json) : SameRequest x x
  | obj {fields fields' : JsonDict}
      (h : ∀ key ∈ ["request_id", "tenant_id", "requested_by", "data", "key_prefix", "reply_to", "metadata"],
        fields.lookup key = fields'.lookup key)
      (htemplate : Option.Rel (SameObject ["uri"]) (fields.lookup "template") (fields'.lookup "template"))
      (houtputs : Option.Rel SameOutputs (fields.lookup "outputs") (fields'.lookup "outputs"))
      (hoptions : Option.Rel (SameObject ["locale", "presign_ttl"]) (fields.lookup "options")
        (fields'.lookup "options")) : SameRequest (.obj fields) (.obj fields')

section

variable {α : Type} {fields fields' : JsonDict} {key : String} {R : Json → Json → Prop} {read : Json → Option α}

theorem required_congr (hread : ∀ x y, R x y → read x = read y)
    (h : Option.Rel R (fields.lookup key) (fields'.lookup key)) :
    required fields key read = required fields' key read := by
  unfold required
  revert h
  generalize fields.lookup key = x
  generalize fields'.lookup key = y
  intro h
  cases h with
  | none => rfl
  | some h => exact hread _ _ h

theorem defaulted_congr {default : α} (hread : ∀ x y, R x y → read x = read y)
    (h : Option.Rel R (fields.lookup key) (fields'.lookup key)) :
    defaulted fields key default read = defaulted fields' key default read := by
  unfold defaulted
  revert h
  generalize fields.lookup key = x
  generalize fields'.lookup key = y
  intro h
  cases h with
  | none => rfl
  | some h => exact hread _ _ h

theorem required_of_eq (h : fields.lookup key = fields'.lookup key) :
    required fields key read = required fields' key read := by rw [required, required, h]

theorem defaulted_of_eq {default : α} (h : fields.lookup key = fields'.lookup key) :
    defaulted fields key default read = defaulted fields' key default read := by rw [defaulted, defaulted, h]

end

theorem readTemplateRef_congr {x y : Json} (h : SameObject ["uri"] x y) : readTemplateRef x = readTemplateRef y := by
  cases h with
  | same => rfl
  | obj h => exact required_of_eq (h "uri" (by simp))

theorem readOutputSpec_congr {x y : Json} (h : SameObject ["format"] x y) : readOutputSpec x = readOutputSpec y := by
  cases h with
  | same => rfl
  | obj h => exact congrArg (Option.map OutputSpec.mk) (required_of_eq (h "format" (by simp)))

theorem readOptions_congr {P : Pydantic} {x y : Json} (h : SameObject ["locale", "presign_ttl"] x y) :
    readOptions P x = readOptions P y := by
  cases h with
  | same => rfl
  | @obj fields fields' h =>
    have hlocale : defaulted fields "locale" none (readOptional readStr) =
        defaulted fields' "locale" none (readOptional readStr) := defaulted_of_eq (h _ (by simp))
    have httl : defaulted fields "presign_ttl" noPresignTtl (readPresignTtl P) =
        defaulted fields' "presign_ttl" noPresignTtl (readPresignTtl P) := defaulted_of_eq (h _ (by simp))
    simp only [readOptions, readModel, hlocale, httl]

theorem readOutputs_congr {x y : Json} (h : SameOutputs x y) :
    readList readOutputSpec x = readList readOutputSpec y := by
  cases h with
  | same => rfl
  | @arr xs ys h =>
    show xs.mapM readOutputSpec = ys.mapM readOutputSpec
    induction h with
    | nil => rfl
    | cons h _ ih => rw [List.mapM_cons, List.mapM_cons, readOutputSpec_congr h, ih]

/-- A request is read alike whatever keys are added, at any level. -/
theorem readRequest_congr {P : Pydantic} {x y : Json} (h : SameRequest x y) : readRequest P x = readRequest P y := by
  cases h with
  | same => rfl
  | @obj fields fields' h htemplate houtputs hoptions =>
    have hid : required fields "request_id" readName = required fields' "request_id" readName :=
      required_of_eq (h _ (by simp))
    have htenant : required fields "tenant_id" readName = required fields' "tenant_id" readName :=
      required_of_eq (h _ (by simp))
    have hby : required fields "requested_by" readName = required fields' "requested_by" readName :=
      required_of_eq (h _ (by simp))
    have hdata : defaulted fields "data" [] readDict = defaulted fields' "data" [] readDict :=
      defaulted_of_eq (h _ (by simp))
    have hprefix : required fields "key_prefix" readName = required fields' "key_prefix" readName :=
      required_of_eq (h _ (by simp))
    have hreply : required fields "reply_to" readName = required fields' "reply_to" readName :=
      required_of_eq (h _ (by simp))
    have hmetadata : defaulted fields "metadata" [] readDict = defaulted fields' "metadata" [] readDict :=
      defaulted_of_eq (h _ (by simp))
    have htemplate : required fields "template" readTemplateRef = required fields' "template" readTemplateRef :=
      required_congr (fun _ _ h => readTemplateRef_congr h) htemplate
    have houtputs : required fields "outputs" (readList readOutputSpec) =
        required fields' "outputs" (readList readOutputSpec) :=
      required_congr (fun _ _ h => readOutputs_congr h) houtputs
    have hoptions : defaulted fields "options" defaultOptions (readOptions P) =
        defaulted fields' "options" defaultOptions (readOptions P) :=
      defaulted_congr (fun _ _ h => readOptions_congr h) hoptions
    simp only [readRequest, readModel, hid, htenant, hby, htemplate, houtputs, hdata, hprefix, hreply, hoptions,
      hmetadata]

/-! ### The contract -/

/-- **A result on the wire.** What a caller reads from the bytes of a result is
the result, for every result that the printer does not lose. -/
theorem result_read_back {P : Pydantic} (hP : P.Lax) {result : GenerationResult} (hs : P.Stable result.toJson) :
    readResultBytes P (toJsonBytes P result) = some result :=
  readResultBytes_of_stable hP hs

/-- **Newer callers.** A body with keys that this worker does not know, at any
level, is the same request to it. -/
theorem decode_ignores_unknown {P : Pydantic} {raw raw' : Bytes} {x y : Json} (hx : P.fromJson raw = some x)
    (hy : P.fromJson raw' = some y) (h : SameRequest x y) : decode P raw = decode P raw' := by
  rw [decode, decode, hx, hy]
  exact readRequest_congr h

/-- The fields of `makeRequest`'s body before its options, with these outputs. -/
def requestFields (outputs : List Json) : JsonDict :=
  [("request_id", .str "req-1"), ("tenant_id", .str "t-1"), ("requested_by", .str "billing"),
    ("template", .obj [("uri", .str "s3://optimce-templates/billing/invoice/v1/")]), ("outputs", .arr outputs),
    ("data", .obj [("invoice_number", .str "INV-001")]),
    ("key_prefix", .str "billing/invoices/2026/06/inv-00042/"), ("reply_to", .str "docgen.result.billing")]

def requestJson : Json := .obj (requestFields [.obj [("format", .str "pdf")]] ++
  [("options", .obj [("locale", .str "fr-BE")]), ("metadata", .obj [("invoice_id", .str "abc-123")])])

/-- The same from a caller that has a priority and a resolution. -/
def newerJson : Json := .obj (("priority", .int 5) ::
  requestFields [.obj [("format", .str "pdf"), ("dpi", .int 300)]] ++
    [("options", .obj [("locale", .str "fr-BE")]), ("metadata", .obj [("invoice_id", .str "abc-123")])])

/-- What the worker answers that request with when the template is gone. -/
def goneResult : GenerationResult :=
  failureFromError makeRequest ⟨.templateNotFoundError, "gone"⟩ "2026-06-18T00:00:00+00:00" none

def requestText : String :=
    "\x7b\"request_id\":\"req-1\",\"tenant_id\":\"t-1\",\"requested_by\":\"billing\",\"te" ++
    "mplate\":\x7b\"uri\":\"s3://optimce-templates/billing/invoice/v1/\"\x7d,\"outputs\":" ++
    "[\x7b\"format\":\"pdf\"\x7d],\"data\":\x7b\"invoice_number\":\"INV-001\"\x7d,\"key_p" ++
    "refix\":\"billing/invoices/2026/06/inv-00042/\",\"reply_to\":\"docgen.result.billing" ++
    "\",\"options\":\x7b\"locale\":\"fr-BE\"\x7d,\"metadata\":\x7b\"invoice_id\":\"abc-12" ++
    "3\"\x7d\x7d"

def newerText : String :=
    "\x7b\"priority\":5,\"request_id\":\"req-1\",\"tenant_id\":\"t-1\",\"requested_by\":" ++
    "\"billing\",\"template\":\x7b\"uri\":\"s3://optimce-templates/billing/invoice/v1/\"" ++
    "\x7d,\"outputs\":[\x7b\"format\":\"pdf\",\"dpi\":300\x7d],\"data\":\x7b\"invoice_num" ++
    "ber\":\"INV-001\"\x7d,\"key_prefix\":\"billing/invoices/2026/06/inv-00042/\",\"reply" ++
    "_to\":\"docgen.result.billing\",\"options\":\x7b\"locale\":\"fr-BE\"\x7d,\"metadata" ++
    "\":\x7b\"invoice_id\":\"abc-123\"\x7d\x7d"

def goneText : String :=
    "\x7b\"request_id\":\"req-1\",\"status\":\"failed\",\"artifacts\":[],\"error\":\x7b\"" ++
    "code\":\"TEMPLATE_NOT_FOUND\",\"message\":\"gone\",\"permanent\":true\x7d,\"generate" ++
    "d_at\":\"2026-06-18T00:00:00+00:00\",\"metadata\":\x7b\"invoice_id\":\"abc-123\"\x7d" ++
    "\x7d"

def requestBytes : Bytes := requestText.toUTF8.toList

def newerBytes : Bytes := newerText.toUTF8.toList

def goneBytes : Bytes := goneText.toUTF8.toList

/-- pydantic on these three texts. -/
def sentPydantic : Pydantic where
  fromJson raw :=
    if raw = requestBytes then some requestJson
    else if raw = newerBytes then some newerJson
    else if raw = goneBytes then some goneResult.toJson
    else none
  toJson _ := goneBytes
  int
    | .int n => some n
    | _ => none
  bool
    | .bool b => some b
    | _ => none

theorem sent_lax : sentPydantic.Lax := ⟨fun _ => rfl, fun _ => rfl⟩

theorem newerBytes_ne : newerBytes ≠ requestBytes := by decide +kernel

theorem goneBytes_ne : goneBytes ≠ requestBytes := by decide +kernel

theorem goneBytes_ne_newer : goneBytes ≠ newerBytes := by decide +kernel

theorem sent_request : sentPydantic.fromJson requestBytes = some requestJson := if_pos rfl

theorem sent_newer : sentPydantic.fromJson newerBytes = some newerJson :=
  (if_neg newerBytes_ne).trans (if_pos rfl)

theorem sent_gone : sentPydantic.Stable goneResult.toJson :=
  (if_neg goneBytes_ne).trans ((if_neg goneBytes_ne_newer).trans (if_pos rfl))

theorem readRequest_requestJson (P : Pydantic) : readRequest P requestJson = some makeRequest := by
  have hformat : readFormat (.str "pdf") = some .pdf := readFormat_value .pdf
  simp [requestJson, requestFields, readRequest, readModel, required, defaulted, List.lookup_cons, readName,
    readTemplateRef, readList, readOutputSpec, hformat, readDict, readOptions, readOptional, readStr, makeRequest,
    noPresignTtl]

theorem decode_requestBytes : decode sentPydantic requestBytes = some makeRequest := by
  rw [decode, sent_request]
  exact readRequest_requestJson _

theorem result_read_back_gone :
    readResultBytes sentPydantic (toJsonBytes sentPydantic goneResult) = some goneResult :=
  result_read_back sent_lax sent_gone

theorem decode_ignores_unknown_newer : decode sentPydantic requestBytes =
    decode sentPydantic newerBytes := by
  refine decode_ignores_unknown sent_request sent_newer (.obj ?_ ?_ ?_ ?_)
  · simp [requestFields, List.lookup_cons]
  · exact .some (.same _)
  · exact .some (.arr (.cons (.obj (by simp [List.lookup_cons])) .nil))
  · exact .some (.same _)

end DocGen
