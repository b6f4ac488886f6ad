/-
# The storage client and the output bucket's adapter

`core/storage/client.py`: one S3 request for each function, its errors
classified into an absent object, a transient error, and the rest as they are.
`adapters/object_store.py`: the `put` of the pipeline over it. `hashlib`'s
digest of the bytes is a parameter, `sha256`.
-/
import DocGen.Orchestrator

namespace DocGen

open Prog

/-! ### S3 requests -/

/-- The requests of the S3 client. A listing answers its pages. -/
inductive S3Op
  | listObjectsV2 (bucket keyPrefix : String)
  | getObject (bucket key : String)
  | putObject (bucket key : String) (body : Bytes) (contentType : Option String)
  | generatePresignedUrl (bucket key : String) (expiresIn : ℕ)

abbrev S3Op.Res : S3Op → Type
  | .listObjectsV2 _ _ => List (List String)
  | .getObject _ _ => Bytes
  | .putObject _ _ _ _ => Unit
  | .generatePresignedUrl _ _ _ => String

abbrev s3Sig : Sig := ⟨S3Op, S3Op.Res⟩

/-! ### Classification -/

def notFoundCodes : List String := ["NoSuchKey", "404"]

def missingBucketCodes : List String := ["NoSuchBucket"]

/-- `_classify_client_error`, of a `ClientError` with this code, status and
text. -/
def classifyClientError (code : String) (status : Option ℤ) (message key : String) : Exc :=
  if code ∈ missingBucketCodes then .transientStorage ("missing bucket for " ++ key)
  else if code ∈ notFoundCodes ∨ status = some 404 then .objectNotFound key
  else
    match status with
    | some st =>
      if 500 ≤ st ∧ st < 600 then .transientStorage ("storage " ++ toString st ++ " for " ++ key)
      else .clientError code status message
    | none => .clientError code status message

/-- What the `except` clauses of a storage function raise for an error of its
request. -/
def storageError (key : String) : Exc → Exc
  | .clientError code status message => classifyClientError code status message key
  | .transport _ message => .transientStorage ("storage transport: " ++ message)
  | exc => exc

/-- A request under those clauses. -/
def s3Request (op : S3Op) (key : String) : Coroutine s3Sig (S3Op.Res op) :=
  (Prog.perform (S := s3Sig) op).tryCatch fun exc => .raise (storageError key exc)

def getBytes (bucket key : String) : Coroutine s3Sig Bytes :=
  s3Request (.getObject bucket key) key

def listPrefix (bucket keyPrefix : String) : Coroutine s3Sig (List String) := do
  let pages : List (List String) ← s3Request (.listObjectsV2 bucket keyPrefix) keyPrefix
  return pages.flatten

/-- The content type is sent when it is set and not empty. -/
def putBytes (bucket key : String) (content : Bytes) (contentType : Option String) :
    Coroutine s3Sig Unit :=
  s3Request (.putObject bucket key content (contentType.filter (· ≠ ""))) key

/-- Presigning classifies no error. -/
def presignGet (bucket key : String) (expiresIn : ℕ) : Coroutine s3Sig String :=
  Prog.perform (S := s3Sig) (.generatePresignedUrl bucket key expiresIn)

theorem runs_s3Request {op : S3Op} {key : String} {tr : List (Event s3Sig Exc)}
    {r : Except Exc (S3Op.Res op)} :
    (s3Request op key).Runs tr r ↔
      (∃ a, r = .ok a ∧ tr = [⟨op, .ok a⟩]) ∨
      ∃ exc, r = .error (storageError key exc) ∧ tr = [⟨op, .error exc⟩] := by
  simp only [s3Request, runs_tryCatch, runs_raise]
  refine or_congr ⟨?_, ?_⟩ ⟨?_, ?_⟩
  · rintro ⟨a, hr, h⟩
    exact ⟨a, hr, runs_perform.mp h⟩
  · rintro ⟨a, hr, h⟩
    exact ⟨a, hr, runs_perform.mpr h⟩
  · rintro ⟨exc, t₁, t₂, htr, h, ht₂, hr⟩
    rw [htr, ht₂, List.append_nil]
    exact ⟨exc, hr, runs_perform.mp h⟩
  · rintro ⟨exc, hr, h⟩
    exact ⟨exc, tr, [], (List.append_nil tr).symm, runs_perform.mpr h, rfl, hr⟩

/-! ### `ObjectStorageObjectStore.put` -/

/-- The canonical URI of an object. -/
def objectUri (bucket key : String) : String := "s3://" ++ bucket ++ "/" ++ key

/-- What `except client.TransientStorageError` around the upload raises. -/
def uploadError (key : String) : Exc → Exc
  | .transientStorage message =>
    .docGen ⟨.storageError, "upload " ++ pyRepr key ++ ": " ++ message⟩
  | exc => exc

/-- The presigned URL of a stored object, if one is asked for and no error
prevents it. -/
def presigned (bucket key : String) : Option ℕ → Coroutine s3Sig (Option String)
  | none => return none
  | some presignTtl =>
    ((presignGet bucket key presignTtl).bind fun url => .ret (some url)).tryCatch fun _ => .ret none

def objectStorePut (bucket : String) (sha256 : Bytes → String) (key : String) (content : Bytes)
    (contentType : String) (presignTtl : Option ℕ) : Coroutine s3Sig StoredArtifact := do
  (putBytes bucket key content (some contentType)).tryCatch fun exc =>
    .raise (uploadError key exc)
  let presignedUrl ← presigned bucket key presignTtl
  return {
    uri := objectUri bucket key
    sizeBytes := content.length
    sha256 := sha256 content
    presignedUrl := presignedUrl }

/-! ### Runs of a put -/

section

variable {bucket key : String} {tr : List (Event s3Sig Exc)}

theorem contentType_ne (fmt : OutputFormat) : fmt.contentType ≠ "" := by
  cases fmt <;> decide

/-- The presigned URL is best effort: whatever the one request answers, the
`put` goes on, without a URL if it raised. -/
theorem presigned_runs {presignTtl : Option ℕ} {r : Except Exc (Option String)}
    (h : (presigned bucket key presignTtl).Runs tr r) :
    ∃ url, r = .ok url ∧
      ∀ e ∈ tr, (∃ ttl, e.op = .generatePresignedUrl bucket key ttl) ∧ (e.Raised → url = none) := by
  rcases presignTtl with _ | ttl
  · obtain ⟨rfl, rfl⟩ := h
    exact ⟨none, rfl, List.forall_mem_nil _⟩
  rcases runs_tryCatch.mp h with ⟨url, rfl, hu⟩ | ⟨exc, t₁, t₂, rfl, hu, rfl, rfl⟩
  · rcases runs_perform_bind.mp hu with ⟨_, hr, -⟩ | ⟨a, t, rfl, rfl, -⟩
    · cases hr
    · exact ⟨url, rfl, List.forall_mem_singleton.mpr ⟨⟨ttl, rfl⟩, fun ⟨_, hx⟩ => by cases hx⟩⟩
  · rcases runs_perform_bind.mp hu with ⟨exc', -, rfl⟩ | ⟨a, t, -, -, hr⟩
    · exact ⟨none, rfl, List.forall_mem_singleton.mpr ⟨⟨ttl, rfl⟩, fun _ => rfl⟩⟩
    · cases hr

/-- A put uploads first: it raises when that raises, and otherwise returns the
size and the digest of the bytes it uploaded. -/
theorem objectStorePut_runs {sha256 : Bytes → String} {content : Bytes} {contentType : String}
    {presignTtl : Option ℕ} {r : Except Exc StoredArtifact} (hct : contentType ≠ "")
    (h : (objectStorePut bucket sha256 key content contentType presignTtl).Runs tr r) :
    (∃ url tl, r = .ok ⟨objectUri bucket key, content.length, sha256 content, url⟩ ∧
      tr = ⟨.putObject bucket key content (some contentType), .ok ()⟩ :: tl ∧
      ∀ e ∈ tl, (∃ ttl, e.op = .generatePresignedUrl bucket key ttl) ∧ (e.Raised → url = none)) ∨
    ∃ exc, r = .error (uploadError key (storageError key exc)) ∧
      tr = [⟨.putObject bucket key content (some contentType), .error exc⟩] := by
  have hfilter : (some contentType).filter (· ≠ "") = some contentType := by
    simp [Option.filter, hct]
  unfold objectStorePut putBytes at h
  rw [hfilter] at h
  rcases runs_bind.mp h with ⟨exc, rfl, hu⟩ | ⟨⟨⟩, t₁, t₂, rfl, hu, hrest⟩
  · rcases runs_tryCatch.mp hu with ⟨_, hr, -⟩ | ⟨e, u₁, u₂, rfl, he, rfl, hx⟩
    · cases hr
    rcases runs_s3Request.mp he with ⟨_, hr, -⟩ | ⟨exc', hr, rfl⟩ <;> cases hr
    cases hx
    exact Or.inr ⟨exc', rfl, List.append_nil _⟩
  · rcases runs_tryCatch.mp hu with ⟨_, -, ha⟩ | ⟨_, _, _, -, -, -, hr⟩
    swap
    · cases hr
    rcases runs_s3Request.mp ha with ⟨⟨⟩, -, rfl⟩ | ⟨_, hr, -⟩
    swap
    · cases hr
    rcases runs_bind.mp hrest with ⟨exc, -, hp⟩ | ⟨url, t₃, t₄, rfl, hp, rfl, rfl⟩
    · obtain ⟨_, hr, -⟩ := presigned_runs hp
      cases hr
    · obtain ⟨_, hr, hall⟩ := presigned_runs hp
      cases hr
      refine Or.inl ⟨url, t₃, rfl, ?_, hall⟩
      rw [List.append_nil]
      rfl

end

end DocGen
