/-
# The template store

`adapters/template_store.py`: a template URI is mapped to a directory of the
cache, whose files are downloaded into a temporary directory and moved into
place. S3 requests are awaited; the calls on the file system are not, so that
nothing comes between them. `Manifest.model_validate_json` is a parameter.
-/
import DocGen.Lib.FileTree
import DocGen.Lib.Path
import DocGen.Storage

namespace DocGen

open Prog

/-- An absolute path, resolved. -/
abbrev FilePath : Type := List String

/-! ### Calls on the file system -/

inductive FsOp
  | isFile (p : FilePath)
  | exists (p : FilePath)
  | mkdir (p : FilePath)
  | mkdtemp (dir : FilePath)
  | writeBytes (p : FilePath) (content : Bytes)
  | readBytes (p : FilePath)
  | replace (src dst : FilePath)
  | rmtree (p : FilePath)

abbrev FsOp.Res : FsOp → Type
  | .isFile _ | .exists _ => Bool
  | .mkdir _ | .writeBytes _ _ | .replace _ _ | .rmtree _ => Unit
  | .mkdtemp _ => FilePath
  | .readBytes _ => Bytes

abbrev fsSig : Sig := ⟨FsOp, FsOp.Res⟩

/-- The calls of the template store. -/
abbrev storeSig : Sig := s3Sig.sum fsSig

/-- A call on the file system. -/
def fsCall (op : FsOp) : Coroutine storeSig (FsOp.Res op) := (Prog.perform (S := fsSig) op).inr

/-! ### The URI and the directory -/

/-- `(dir / text).resolve()`, for a resolved `dir`: the system takes no NUL
character. -/
def resolvePath (dir : FilePath) (text : String) : Except Exc FilePath :=
  if nul ∈ text.toList then .error (.valueError "embedded null byte") else .ok (Path.join dir text)

theorem resolvePath_plain {dir : FilePath} {text : String} (h : nul ∉ text.toList) :
    resolvePath dir text = .ok (Path.join dir text) := if_neg h

theorem resolvePath_nul {dir : FilePath} {text : String} (h : nul ∈ text.toList) :
    resolvePath dir text = .error (.valueError "embedded null byte") := if_pos h

def manifestName : String := "manifest.json"

/-- `parse_s3_uri`, with the text of its `ValueError`. -/
def parseS3Uri (uri : String) : Except String (String × String) :=
  if uri.toList.take 5 ≠ "s3://".toList then
    .error ("template uri must use the s3:// scheme: " ++ pyRepr uri)
  else
    let remainder := String.ofList (uri.toList.drop 5)
    let bucket := (partition '/' remainder).1
    let keyPrefix := strip '/' (partition '/' remainder).2
    if bucket = "" then .error ("template uri has no bucket: " ++ pyRepr uri)
    else .ok (bucket, if keyPrefix ≠ "" then keyPrefix ++ "/" else "")

/-- `ObjectStorageTemplateStore`. The cache directory is resolved. -/
structure TemplateStore where
  bucket : String
  cacheDir : FilePath
  cacheDir_proper : ∀ seg ∈ cacheDir, Path.Proper seg
  modelValidateJson : Bytes → Except String Manifest

/-- An exception of the store, as a coroutine that raises it. -/
def templateNotFound {S : Sig} {α : Type} (message : String) : Coroutine S α :=
  raiseDocGen .templateNotFoundError message

section

variable (store : TemplateStore)

/-- `_local_dir_for`. -/
def localDirFor (keyPrefix : String) : Except Exc FilePath := do
  let candidate ← resolvePath store.cacheDir keyPrefix
  if store.cacheDir ≠ candidate ∧ ¬ Path.Below store.cacheDir candidate then
    .error (.docGen ⟨.templateNotFoundError, "template prefix escapes the cache root: " ++ pyRepr keyPrefix⟩)
  else .ok candidate

/-- The directory of a prefix is the path it leads to, at the cache root or
below it. -/
theorem localDirFor_ok {keyPrefix : String} {dir : FilePath} : localDirFor store keyPrefix = .ok dir ↔
    nul ∉ keyPrefix.toList ∧ (store.cacheDir = dir ∨ Path.Below store.cacheDir dir) ∧
      dir = Path.join store.cacheDir keyPrefix := by
  by_cases hnul : nul ∈ keyPrefix.toList
  · rw [localDirFor, resolvePath_nul hnul]
    exact iff_of_false (fun h => nomatch h) fun h => h.1 hnul
  rw [localDirFor, resolvePath_plain hnul]
  show (if _ then _ else _) = _ ↔ _
  split
  · rename_i hout
    refine iff_of_false (fun h => nomatch h) ?_
    rintro ⟨-, hin, rfl⟩
    exact hin.elim hout.1 hout.2
  · rename_i hin
    rw [not_and_or, not_not, not_not] at hin
    constructor
    · intro h
      obtain rfl := Except.ok.inj h
      exact ⟨hnul, hin, rfl⟩
    · rintro ⟨-, -, rfl⟩
      rfl

/-! ### Downloading -/

/-- What the `except` clause of the listing raises. -/
def listError (keyPrefix : String) : Exc → Exc
  | .transientStorage message =>
    .docGen ⟨.storageError, "list template prefix " ++ pyRepr keyPrefix ++ ": " ++ message⟩
  | exc => exc

/-- What the `except` clauses of one download raise. -/
def objectError (key : String) : Exc → Exc
  | .objectNotFound _ => .docGen ⟨.templateNotFoundError, "template object vanished: " ++ pyRepr key⟩
  | .transientStorage message =>
    .docGen ⟨.storageError, "download template object " ++ pyRepr key ++ ": " ++ message⟩
  | exc => exc

/-- `key[len(prefix):]`. -/
def relKey (keyPrefix key : String) : String := String.ofList (key.toList.drop keyPrefix.length)

/-- A key that the loop skips, for a directory. -/
def Skipped (keyPrefix key : String) : Prop := relKey keyPrefix key = "" ∨ key.toList.getLast? = some '/'

instance (keyPrefix key : String) : Decidable (Skipped keyPrefix key) := inferInstanceAs (Decidable (_ ∨ _))

/-- A key that the loop downloads has a path that does not resolve. -/
def Unresolved (keyPrefix key : String) : Prop := ¬ Skipped keyPrefix key ∧ nul ∈ (relKey keyPrefix key).toList

/-- One turn of the download loop. -/
def downloadObject (keyPrefix : String) (tmpDir : FilePath) (key : String) :
    Coroutine storeSig Unit :=
  let rel := relKey keyPrefix key
  if rel = "" ∨ key.toList.getLast? = some '/' then return ()
  else
    match resolvePath tmpDir rel with
    | .error exc => .raise exc
    | .ok target =>
      if ¬ Path.Below tmpDir target then
        templateNotFound ("template object escapes its prefix: " ++ pyRepr key)
      else do
        fsCall (.mkdir target.dropLast)
        (do
          let content ← (getBytes store.bucket key).inl
          fsCall (.writeBytes target content)).tryCatch fun exc => .raise (objectError key exc)

/-- `_publish`. -/
def publish (tmpDir localDir : FilePath) : Coroutine storeSig Unit := do
  let there : Bool ← fsCall (.exists localDir)
  if there then return ()
  else do
    fsCall (.mkdir localDir.dropLast)
    (fsCall (.replace tmpDir localDir)).tryCatch fun exc =>
      if exc.isOSError then do
        let there : Bool ← fsCall (.exists localDir)
        if there then return () else .raise exc
      else .raise exc

/-- `_download_prefix`. -/
def downloadPrefix (keyPrefix : String) (localDir : FilePath) : Coroutine storeSig Unit := do
  let keys : List String ← (listPrefix store.bucket keyPrefix).inl.tryCatch fun exc =>
    .raise (listError keyPrefix exc)
  if ¬ keys.any fun k => Path.name k = manifestName then
    templateNotFound ("no manifest.json under template prefix " ++ pyRepr keyPrefix)
  else do
    fsCall (.mkdir store.cacheDir)
    let tmpDir : FilePath ← fsCall (.mkdtemp store.cacheDir)
    ((Prog.forEach (downloadObject store keyPrefix tmpDir) keys).bind fun _ =>
      publish tmpDir localDir).tryFinally (fsCall (.rmtree tmpDir))

/-- What the `except` clauses of `_load_manifest` raise for an error of the
read. -/
def manifestError (uri : String) (exc : Exc) : Exc :=
  if exc.isOSError then
    .docGen ⟨.templateNotFoundError, "manifest unreadable for " ++ pyRepr uri ++ ": " ++ exc.str⟩
  else
    match exc with
    | .valueError message =>
      .docGen ⟨.templateNotFoundError, "invalid manifest for " ++ pyRepr uri ++ ": " ++ message⟩
    | exc => exc

/-- `_load_manifest`. A text that does not validate is a `ValueError`. -/
def loadManifest (manifestPath : FilePath) (uri : String) : Coroutine storeSig Manifest :=
  (do
    let content : Bytes ← fsCall (.readBytes manifestPath)
    match store.modelValidateJson content with
    | .ok manifest => return manifest
    | .error message => .raise (.valueError message)).tryCatch fun exc => .raise (manifestError uri exc)

/-- `if not manifest_path.is_file(): await self._download_prefix(prefix, local_dir)`. -/
def ensureCached (keyPrefix : String) (localDir : FilePath) : Coroutine storeSig Unit := do
  let cached : Bool ← fsCall (.isFile (localDir ++ [manifestName]))
  if cached then return () else downloadPrefix store keyPrefix localDir

/-- `fetch`, past the checks of the URI. -/
def fetchPrefix (uri keyPrefix : String) : Coroutine storeSig TemplateBundle :=
  match localDirFor store keyPrefix with
  | .error exc => .raise exc
  | .ok localDir => do
    ensureCached store keyPrefix localDir
    let manifest ← loadManifest store (localDir ++ [manifestName]) uri
    return { manifest := manifest, root := localDir }

/-- `fetch`. -/
def fetch (uri : String) : Coroutine storeSig TemplateBundle :=
  match parseS3Uri uri with
  | .error message => templateNotFound message
  | .ok (bucket, keyPrefix) =>
    if bucket ≠ store.bucket then
      templateNotFound ("template uri bucket " ++ pyRepr bucket ++ " is not the templates bucket " ++
        pyRepr store.bucket)
    else if keyPrefix = "" then
      templateNotFound ("template uri has no prefix: " ++ pyRepr uri)
    else fetchPrefix store uri keyPrefix

theorem fetch_eq {uri x : String} (hparse : parseS3Uri uri = .ok (store.bucket, x)) (hne : x ≠ "") :
    fetch store uri = fetchPrefix store uri x := by
  rw [fetch, hparse]
  simp [hne]

/-- A fetch rejects its URI, or goes on with the prefix. -/
theorem fetch_cases (uri : String) : (∃ message, fetch store uri = templateNotFound message) ∨
    ∃ x, parseS3Uri uri = .ok (store.bucket, x) ∧ x ≠ "" ∧ fetch store uri = fetchPrefix store uri x := by
  rcases hparse : parseS3Uri uri with message | ⟨bucket, x⟩
  · exact Or.inl ⟨message, by rw [fetch, hparse]⟩
  by_cases hbucket : bucket = store.bucket
  swap
  · exact Or.inl ⟨_, by rw [fetch, hparse]; exact if_pos hbucket⟩
  subst hbucket
  by_cases hne : x = ""
  · exact Or.inl ⟨_, by rw [fetch, hparse]; simp [hne]; rfl⟩
  · exact Or.inr ⟨x, rfl, hne, fetch_eq store hparse hne⟩

end
end DocGen
