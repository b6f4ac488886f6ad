/-
# A storage fault in one handling

One S3 request of a handling raises and every other call returns. The storage
client classifies the exception, the adapter of the request makes a
`DocGenError` of it or lets it pass, the pipeline turns a `DocGenError` into a
failed result, and the handler any other exception into a transient failure.
What the message ends with depends on the request and on the exception alone:
only a miss of an object is a permanent failure (`storage_fault_verdict`).
-/
import DocGen.CacheDir
import DocGen.Handling
import DocGen.Lib.Fault
import DocGen.Pipeline
import DocGen.TemplateStore

namespace DocGen

open Prog

/-! ### The worker's ports -/

/-- The calls of the adapters, and those of the ports but `fetch` and `put`. -/
abbrev hostSig (ρ : Type) : Sig := storeSig.sum (portSig ρ)

/-- The ports of the worker: the template store, the output bucket, and bare
calls. -/
def hostPorts (ρ : Type) (store : TemplateStore) (bucket : String) (sha256 : Bytes → String) :
    Ports (hostSig ρ) ρ where
  fetch uri := (fetch store uri).inl
  get engine fmt := ((Ports.calls ρ).get engine fmt).inr
  validate data schema := ((Ports.calls ρ).validate data schema).inr
  run renderer bundle data fmt locale := ((Ports.calls ρ).run renderer bundle data fmt locale).inr
  put key content contentType presignTtl :=
    (objectStorePut bucket sha256 key content contentType presignTtl).inl.inl

/-- A storage request that has raised, among the calls of the ports. -/
abbrev portFault (ρ : Type) (op : S3Op) (exc : Exc) : Event (hostSig ρ) Exc :=
  ⟨.inl (.inl op), .error exc⟩

/-! ### What becomes of the exception -/

/-- An exception of the S3 library, of the transport or of the interpreter:
not one of the classes the worker raises itself. -/
def Exc.Foreign : Exc → Prop
  | .docGen _ | .objectNotFound _ | .transientStorage _ => False
  | _ => True

/-- The client error of an absent object. A bucket that is absent is not
one, whatever the status. -/
def Exc.MissesObject : Exc → Prop
  | .clientError code status _ =>
    code ≠ "NoSuchBucket" ∧ (code = "NoSuchKey" ∨ code = "404" ∨ status = some 404)
  | _ => False

/-- A get raised that error. -/
def ObjectMissing : S3Op → Exc → Prop
  | .getObject _ _, exc => exc.MissesObject
  | _, _ => False

/-- What an adapter raises for an error of its request. That of a presigning
is dropped. -/
def adapterError : S3Op → Exc → Option Exc
  | .listObjectsV2 _ keyPrefix, exc => some (listError keyPrefix (storageError keyPrefix exc))
  | .getObject _ key, exc => some (objectError key (storageError key exc))
  | .putObject _ key _ _, exc => some (uploadError key (storageError key exc))
  | .generatePresignedUrl _ _ _, _ => none

/-- The storage client's classes. -/
theorem storageError_cases (key : String) (exc : Exc) :
    (exc.MissesObject ∧ storageError key exc = .objectNotFound key) ∨
    (¬ exc.MissesObject ∧ ((∃ m, storageError key exc = .transientStorage m) ∨
      storageError key exc = exc)) := by
  cases exc with
  | clientError code status message =>
    simp only [storageError, classifyClientError, missingBucketCodes, notFoundCodes, List.mem_cons,
      List.not_mem_nil, or_false, or_assoc, Exc.MissesObject]
    split
    next h => exact .inr ⟨fun hm => hm.1 h, .inl ⟨_, rfl⟩⟩
    next h =>
      split
      next hn => exact .inl ⟨⟨h, hn⟩, rfl⟩
      next hn =>
        refine .inr ⟨fun hm => hn hm.2, ?_⟩
        split
        · split
          · exact .inl ⟨_, rfl⟩
          · exact .inr rfl
        · exact .inr rfl
  | transport kind message => exact .inr ⟨id, .inl ⟨_, rfl⟩⟩
  | _ => exact .inr ⟨id, .inr rfl⟩

/-- A permanent failure comes of a missing object alone. -/
theorem adapterError_permanent {op : S3Op} {exc x : Exc} (hf : exc.Foreign) (h : adapterError op exc = some x) :
    (∃ e, x = .docGen e ∧ e.cls.permanent = true) ↔ ObjectMissing op exc := by
  cases op with
  | listObjectsV2 bucket keyPrefix =>
    obtain rfl := Option.some.inj h
    rcases storageError_cases keyPrefix exc with ⟨-, hs⟩ | ⟨-, ⟨m, hs⟩ | hs⟩ <;> rw [hs]
    · simp [listError, ObjectMissing]
    · simp [listError, ObjectMissing, DocGenErrorClass.permanent]
    · cases exc <;> first | exact hf.elim | simp [listError, ObjectMissing]
  | getObject bucket key =>
    obtain rfl := Option.some.inj h
    rcases storageError_cases key exc with ⟨hm, hs⟩ | ⟨hm, ⟨m, hs⟩ | hs⟩ <;> rw [hs]
    · exact iff_of_true ⟨_, rfl, rfl⟩ hm
    · refine iff_of_false ?_ hm
      simp [objectError, DocGenErrorClass.permanent]
    · refine iff_of_false ?_ hm
      cases exc <;> first | exact hf.elim | simp [objectError]
  | putObject bucket key body contentType =>
    obtain rfl := Option.some.inj h
    rcases storageError_cases key exc with ⟨-, hs⟩ | ⟨-, ⟨m, hs⟩ | hs⟩ <;> rw [hs]
    · simp [uploadError, ObjectMissing]
    · simp [uploadError, ObjectMissing, DocGenErrorClass.permanent]
    · cases exc <;> first | exact hf.elim | simp [uploadError, ObjectMissing]
  | generatePresignedUrl => cases h

/-! ### The exception leaves the template store -/

section

variable {op : S3Op} {exc : Exc}

theorem raisesOn_s3Request (op' : S3Op) (key : String) :
    RaisesOn (⟨op, .error exc⟩ : Event s3Sig Exc) (fun x => op' = op ∧ x = storageError key exc)
      (s3Request op' key) := by
  have hop : RaisesOn (⟨op, .error exc⟩ : Event s3Sig Exc) (fun x => op' = op ∧ x = exc)
      (Prog.perform (S := s3Sig) op') := raisesOn_perform fun h => ⟨h, rfl⟩
  refine raisesOn_translate hop ?_
  rintro _ ⟨h, rfl⟩
  exact ⟨h, rfl⟩

/-- A call on the file system is no request. -/
theorem raisesOn_fsCall {Q : Exc → Prop} (fs : FsOp) :
    RaisesOn (⟨.inl op, .error exc⟩ : Event storeSig Exc) Q (fsCall fs) :=
  raisesOn_inr (e := (⟨op, .error exc⟩ : Event s3Sig Exc))

variable (store : TemplateStore)

/-- A turn of the download raises what its handler makes of the exception of
the get or the write, and that of the directory as it is. -/
theorem raisesOn_turn {e : Event storeSig Exc} {Q Q' : Exc → Prop} (keyPrefix : String)
    (tmpDir : FilePath) (key : String) (hmkdir : ∀ fs, RaisesOn e Q (fsCall fs))
    (hget : RaisesOn e Q' (getBytes store.bucket key).inl) (hwrite : ∀ fs, RaisesOn e Q' (fsCall fs))
    (hQ : ∀ x, Q' x → Q (objectError key x)) :
    RaisesOn e Q (downloadObject store keyPrefix tmpDir key) := by
  unfold downloadObject
  simp only
  split
  · exact raisesOn_ret
  split
  · exact raisesOn_raise
  split
  · exact raisesOn_raise
  · exact raisesOn_bind (hmkdir _) fun _ => raisesOn_translate (raisesOn_bind hget fun _ => hwrite _) hQ

theorem raisesOn_downloadObject (keyPrefix : String) (tmpDir : FilePath) (key : String) :
    RaisesOn (⟨.inl op, .error exc⟩ : Event storeSig Exc) (fun x => adapterError op exc = some x)
      (downloadObject store keyPrefix tmpDir key) := by
  refine raisesOn_turn store keyPrefix tmpDir key raisesOn_fsCall
    (raisesOn_inl (raisesOn_s3Request (.getObject store.bucket key) key)) raisesOn_fsCall ?_
  rintro _ ⟨rfl, rfl⟩
  rfl

theorem raisesOn_publish {Q : Exc → Prop} (tmpDir localDir : FilePath) :
    RaisesOn (⟨.inl op, .error exc⟩ : Event storeSig Exc) Q (publish tmpDir localDir) := by
  have hthere : ∀ {p : Coroutine storeSig Unit}, RaisesOn (⟨.inl op, .error exc⟩ : Event storeSig Exc) Q p →
      RaisesOn (⟨.inl op, .error exc⟩ : Event storeSig Exc) Q
        ((fsCall (.exists localDir)).bind fun there : Bool => if there then .ret () else p) := by
    intro p hp
    refine raisesOn_bind (raisesOn_fsCall _) fun there => ?_
    split
    · exact raisesOn_ret
    · exact hp
  refine hthere (raisesOn_bind (raisesOn_fsCall _) fun _ =>
    raisesOn_tryCatch (raisesOn_fsCall _) (fun exc' => ?_) fun _ _ _ h => False.elim h)
  split
  · exact hthere raisesOn_raise
  · exact raisesOn_raise

theorem raisesOn_downloadPrefix (keyPrefix : String) (localDir : FilePath) :
    RaisesOn (⟨.inl op, .error exc⟩ : Event storeSig Exc) (fun x => adapterError op exc = some x)
      (downloadPrefix store keyPrefix localDir) := by
  unfold downloadPrefix
  refine raisesOn_bind (raisesOn_translate (raisesOn_inl (raisesOn_bind
    (raisesOn_s3Request (.listObjectsV2 store.bucket keyPrefix) keyPrefix) fun _ => raisesOn_ret)) ?_)
    fun keys => ?_
  · rintro _ ⟨rfl, rfl⟩
    rfl
  split
  · exact raisesOn_raise
  refine raisesOn_bind (raisesOn_fsCall _) fun _ => raisesOn_bind (raisesOn_fsCall _) fun tmpDir =>
    raisesOn_tryFinally (raisesOn_bind (raisesOn_forEach fun key _ => raisesOn_downloadObject store _ _ key)
      fun _ => raisesOn_publish _ _) ?_
  intro tr r hr hno
  obtain ⟨t, rfl, ht⟩ := runs_inr.mp hr
  obtain rfl := runs_perform.mp ht
  refine ⟨fun he => (by cases List.mem_singleton.mp he), ?_⟩
  rcases r with exc' | _
  · cases hno _ List.mem_cons_self ⟨exc', rfl⟩
  · rfl

theorem raisesOn_loadManifest {Q : Exc → Prop} (path : FilePath) (uri : String) :
    RaisesOn (⟨.inl op, .error exc⟩ : Event storeSig Exc) Q (loadManifest store path uri) := by
  refine raisesOn_translate (Q := fun _ => False) (raisesOn_bind (raisesOn_fsCall _) fun content => ?_)
    fun _ => False.elim
  split
  · exact raisesOn_ret
  · exact raisesOn_raise

/-- A fetch raises what its adapter makes of the exception. -/
theorem raisesOn_fetch (uri : String) :
    RaisesOn (⟨.inl op, .error exc⟩ : Event storeSig Exc) (fun x => adapterError op exc = some x)
      (fetch store uri) := by
  rcases fetch_cases store uri with ⟨message, h⟩ | ⟨x, -, -, h⟩
  · rw [h]
    exact raisesOn_raise
  rw [h]
  unfold fetchPrefix
  split
  · exact raisesOn_raise
  refine raisesOn_bind (raisesOn_bind (raisesOn_fsCall _) fun cached => ?_) fun _ =>
    raisesOn_bind (raisesOn_loadManifest store _ uri) fun _ => raisesOn_ret
  split
  · exact raisesOn_ret
  · exact raisesOn_downloadPrefix store x _

end

/-! ### The exception leaves the output bucket -/

section

variable {ρ : Type} {op : S3Op} {exc : Exc} {store : TemplateStore} {bucket : String}
  {sha256 : Bytes → String}

/-- A put raises what its adapter makes of the exception; after a presigning
that raised it returns without a URL. -/
theorem objectStorePut_fault {key : String} {content : Bytes} {fmt : OutputFormat} {presignTtl : Option ℕ}
    {t : List (Event s3Sig Exc)} {x : Except Exc StoredArtifact}
    (h : (objectStorePut bucket sha256 key content fmt.contentType presignTtl).Runs t x)
    (he : (⟨op, .error exc⟩ : Event s3Sig Exc) ∈ t) :
    (∃ y, adapterError op exc = some y ∧ x = .error y) ∨
    ∃ ttl size digest, op = .generatePresignedUrl bucket key ttl ∧
      x = .ok ⟨objectUri bucket key, size, digest, none⟩ := by
  rcases objectStorePut_runs (contentType_ne fmt) h with ⟨url, tl, rfl, rfl, htl⟩ | ⟨exc', rfl, rfl⟩
  · rcases List.mem_cons.mp he with he | he
    · cases he
    obtain ⟨⟨ttl, hop⟩, hurl⟩ := htl _ he
    obtain rfl := hurl ⟨exc, rfl⟩
    exact Or.inr ⟨ttl, _, _, hop, rfl⟩
  · cases List.mem_singleton.mp he
    exact Or.inl ⟨_, rfl, rfl⟩

/-- Without a fault of its request a put returns. -/
theorem objectStorePut_ok {key : String} {content : Bytes} {fmt : OutputFormat} {presignTtl : Option ℕ}
    {t : List (Event s3Sig Exc)} {exc : Exc}
    (h : (objectStorePut bucket sha256 key content fmt.contentType presignTtl).Runs t (.error exc)) :
    ∃ body contentType exc, (⟨.putObject bucket key body contentType, .error exc⟩ : Event s3Sig Exc) ∈ t := by
  rcases objectStorePut_runs (contentType_ne fmt) h with ⟨_, _, hx, -⟩ | ⟨exc', -, rfl⟩
  · cases hx
  · exact ⟨_, _, exc', List.mem_cons_self⟩

variable {request : GenerationRequest} {generatedAt : String}

/-- The runs of a put of the worker. -/
theorem host_put_runs {art : RenderedArtifact} {t : List (Event (hostSig ρ) Exc)}
    {x : Except Exc StoredArtifact}
    (h : ((hostPorts ρ store bucket sha256).impl (putOp request art)).Runs t x) :
    ∃ u, t = u.map (fun e => e.inl.inl) ∧ (objectStorePut bucket sha256
      (buildObjectKey request.keyPrefix art.filename) art.content art.format.contentType
      request.options.presignTtl).Runs u x := by
  obtain ⟨v, rfl, hv⟩ := runs_inl.mp h
  obtain ⟨u, rfl, hu⟩ := runs_inl.mp hv
  exact ⟨u, List.map_map, hu⟩

/-- A call of the other ports is a call of the worker. -/
theorem host_call_runs {op : PortOp ρ} {t : List (Event (hostSig ρ) Exc)} {x : Except Exc op.Res}
    (hop : op.isFetch = false) (hput : op.isPut = false)
    (h : ((hostPorts ρ store bucket sha256).impl op).Runs t x) : t = [⟨.inr op, x⟩] := by
  have hinr : ∀ {op : PortOp ρ} {x}, ((Prog.perform (S := portSig ρ) op).inr (S := storeSig)).Runs t x →
      t = [⟨.inr op, x⟩] := by
    intro op x h
    obtain ⟨t', rfl, ht⟩ := runs_inr.mp h
    rw [runs_perform.mp ht]
    rfl
  cases op with
  | fetch => cases hop
  | put => cases hput
  | _ => exact hinr h

/-- Past the fetch a port raises when a call of it does, and a presigning is
not that call. -/
theorem host_raises {e : Event (portSig ρ) Exc} {t : List (Event (hostSig ρ) Exc)} (hnok : ¬ e.Ok)
    (hfetch : e.op.isFetch = false) (hput : e.op.isPut → ∃ art, e.op = putOp request art)
    (h : ((hostPorts ρ store bucket sha256).impl e.op).Runs t e.ans) :
    ∃ x ∈ t, x.Raised ∧ ∀ b k ttl exc, x ≠ portFault ρ (.generatePresignedUrl b k ttl) exc := by
  obtain ⟨op, x⟩ := e
  rcases x with exc | a
  swap
  · exact absurd Event.ok_mk hnok
  rcases hp : op.isPut with _ | _
  · obtain rfl := host_call_runs hfetch hp h
    exact ⟨_, List.mem_cons_self, ⟨exc, rfl⟩, fun _ _ _ _ hx => by cases hx⟩
  · obtain ⟨art, rfl⟩ := hput hp
    obtain ⟨u, rfl, hu⟩ := host_put_runs h
    obtain ⟨body, contentType, exc', hmem⟩ := objectStorePut_ok hu
    exact ⟨_, List.mem_map_of_mem hmem, ⟨exc', rfl⟩, fun _ _ _ _ hx => by cases hx⟩

/-- What a put of a run has returned. -/
def storedAs : Event (portSig ρ) Exc → Option StoredArtifact
  | ⟨.put _ _ _ _, .ok a⟩ => some a
  | _ => none

/-- A presigning that raised leaves the pipeline to end with SUCCESS. -/
theorem bundle_run_presign_fault {bundle : TemplateBundle} {es : PortTrace ρ}
    {tr : List (Event (hostSig ρ) Exc)} {r : Except Exc GenerationResult} {b k : String} {ttl : ℕ}
    (hb : BundleRun request generatedAt bundle es r)
    (hi : Implements (hostPorts ρ store bucket sha256).impl es tr)
    (hno : NoOther (portFault ρ (.generatePresignedUrl b k ttl) exc) tr) {art : RenderedArtifact}
    {a : StoredArtifact} (hput : (⟨putOp request art, .ok a⟩ : Event (portSig ρ) Exc) ∈ es) :
    ∃ result, finish request generatedAt bundle r = .ok result ∧ result.status = .success ∧
      ∃ entry ∈ result.artifacts, entry.uri = a.uri ∧ entry.presignedUrl = a.presignedUrl := by
  have hok : ∀ e ∈ es, e.Ok := by
    intro e he
    by_contra hnok
    obtain ⟨t, hsub, ht⟩ := hi.run he
    have hfetch : e.op.isFetch = false := by
      obtain ⟨tl, rfl, htl⟩ := hb.fetch_first
      rcases List.mem_cons.mp he with rfl | he
      · exact absurd Event.ok_mk hnok
      · exact htl e he
    obtain ⟨x, hx, hraised, hne⟩ := host_raises hnok hfetch (fun hp => by
      obtain ⟨z, -, -, -, -, hop⟩ := hb.put_origin he hp
      exact ⟨z.2, hop⟩) ht
    exact hne _ _ _ _ (hno x (hsub x hx) hraised)
  have hsupported : Supported request es := by
    obtain ⟨pre, post, hes⟩ := List.append_of_mem hput
    obtain ⟨arts, hc, l, hl⟩ := hb.put_gated hes rfl
    rw [hes, ← hl, List.append_assoc, List.append_assoc]
    exact supported_of_gate hc _
  have hall := hb.all_or_nothing
  obtain ⟨result, hresult, hs⟩ := hall.succeeds_iff.mpr ⟨hok, hsupported⟩
  obtain ⟨-, bundle', arts, puts, hc, hA, hes, hartifacts, -⟩ := hall.artifacts result hresult hs
  refine ⟨result, hresult, hs, ?_⟩
  rw [hes] at hput
  rcases List.mem_append.mp hput with hg | hput
  · exact absurd rfl (gate_not_put _ hg)
  rcases List.mem_append.mp hput with hg | hput
  · exact absurd rfl (rendered_not_put _ hg)
  obtain ⟨z, hz, hza⟩ := List.mem_map.mp hput
  obtain ⟨art', a'⟩ := z
  obtain rfl : a' = a := Option.some.inj (congrArg storedAs hza)
  rw [hartifacts]
  exact ⟨_, List.mem_map_of_mem hz, rfl, rfl⟩

/-- The pipeline ends with what the adapter makes of the exception; after a
presigning that raised, with a success without its URL. -/
theorem process_request_fault {tr : List (Event (hostSig ρ) Exc)} {r : Except Exc GenerationResult}
    (h : (processRequest (hostPorts ρ store bucket sha256) request generatedAt).Runs tr r)
    (he : portFault ρ op exc ∈ tr) (hno : NoOther (portFault ρ op exc) tr) :
    (∃ x version, adapterError op exc = some x ∧ r = caught request generatedAt version x) ∨
    ∃ key ttl result, op = .generatePresignedUrl bucket key ttl ∧ r = .ok result ∧
      result.status = .success ∧
      ∃ art ∈ result.artifacts, art.uri = objectUri bucket key ∧ art.presignedUrl = none := by
  rw [← processRequest_interp, runs_interp] at h
  obtain ⟨es, hi, hr⟩ := h
  obtain ⟨⟨op₀, x₀⟩, he₀, t, het, hsub, ht⟩ := hi.mem he
  have hnot : NoOther (portFault ρ op exc) t := fun x hx => hno x (hsub x hx)
  rcases process_request_runs hr with ⟨exc', rfl, rfl⟩ | ⟨bundle, r', hb, rfl⟩
  · cases List.mem_singleton.mp he₀
    obtain ⟨x, hx, hq⟩ := raisesOn_inl (raisesOn_fetch store _) _ _ ht hnot het
    cases hx
    exact Or.inl ⟨exc', none, hq, rfl⟩
  rcases hfetch : op₀.isFetch with _ | _
  swap
  · -- the fetch has returned
    obtain ⟨tl, rfl, htl⟩ := hb.fetch_first
    rcases List.mem_cons.mp he₀ with hfirst | hrest
    · cases hfirst
      obtain ⟨x, hx, -⟩ := raisesOn_inl (raisesOn_fetch store _) _ _ ht hnot het
      cases hx
    · exact absurd ((htl _ hrest).symm.trans hfetch) Bool.false_ne_true
  rcases hput : op₀.isPut with _ | _
  · obtain rfl := host_call_runs hfetch hput ht
    cases List.mem_singleton.mp het
  obtain ⟨z, -, -, -, -, hop⟩ := hb.put_origin he₀ hput
  obtain rfl : op₀ = putOp request z.2 := hop
  obtain ⟨u, rfl, hu⟩ := host_put_runs ht
  obtain ⟨e, hmem, heq⟩ := List.mem_map.mp het
  obtain rfl : e = ⟨op, .error exc⟩ := Event.inl_injective (Event.inl_injective heq)
  rcases objectStorePut_fault hu hmem with ⟨y, hy, rfl⟩ | ⟨ttl, size, digest, rfl, rfl⟩
  · obtain ⟨version, hr'⟩ := process_request_raised hr he₀
    exact Or.inl ⟨y, version, hy, hr'⟩
  · obtain ⟨result, hresult, hs, entry, hentry, huri, hurl⟩ := bundle_run_presign_fault hb hi hno he₀
    exact Or.inr ⟨_, ttl, result, rfl, hresult, hs, entry, hentry, huri, hurl⟩

/-! ### What the handler makes of it -/

variable {deps : HandlerDeps (hostSig ρ) ρ} {msg : Msg} {result : GenerationResult}

/-- The request fails for good when an object is missing, and for now
otherwise, unless it is a presigning that raised. -/
theorem build_result_fault {tr : List (Event (hostSig ρ) Exc)}
    (hports : deps.ports = hostPorts ρ store bucket sha256) (hf : exc.Foreign)
    (h : (buildResult deps request).Runs tr (.ok result)) (he : portFault ρ op exc ∈ tr)
    (hno : NoOther (portFault ρ op exc) tr) :
    ((∀ b k ttl, op ≠ .generatePresignedUrl b k ttl) ∧ FailsWith result (ObjectMissing op exc)) ∨
    ∃ key ttl, op = .generatePresignedUrl bucket key ttl ∧ result.status = .success ∧
      ∃ art ∈ result.artifacts, art.uri = objectUri bucket key ∧ art.presignedUrl = none := by
  have hrun : ∀ {r}, (processRequest deps.ports request deps.startedAt).Runs tr r → _ := fun {r} hr =>
    process_request_fault (r := r) (hports ▸ hr) he hno
  rcases hx : adapterError op exc with _ | x
  · -- a presigning: the pipeline returns
    rcases runs_tryCatch.mp h with ⟨_, hr, hp⟩ | ⟨exc', t₁, t₂, rfl, hp, rfl, -⟩
    · cases hr
      rcases hrun hp with ⟨x, -, hx', -⟩ | ⟨key, ttl, _, hop, hr, hs, hart⟩
      · rw [hx] at hx'
        cases hx'
      · cases hr
        exact Or.inr ⟨key, ttl, hop, hs, hart⟩
    · rw [List.append_nil] at hrun
      rcases hrun hp with ⟨x, -, hx', -⟩ | ⟨_, _, _, -, hr, -⟩
      · rw [hx] at hx'
        cases hx'
      · cases hr
  · have hne : ∀ b k ttl, op ≠ .generatePresignedUrl b k ttl := by
      rintro b k ttl rfl
      cases hx
    refine Or.inl ⟨hne, build_result_caught h fun r hr => ?_⟩
    rcases hrun hr with ⟨x', version, hx', hr'⟩ | ⟨_, _, _, hop, -⟩
    · rw [hx] at hx'
      cases hx'
      exact ⟨x, version, hr', adapterError_permanent hf hx⟩
    · exact absurd hop (hne _ _ _)

/-- A handling below the delivery bound in which one call of the pipeline raised
and no other call did: the message is acked or given back, by the result. -/
theorem handled_fault {P : Sig} {deps : HandlerDeps P ρ} {e : Event P Exc}
    {tr : List (Event (msgSig.sum P) Exc)} {r : Except Exc Outcome}
    (h : (handleMessage deps msg).Runs tr r) (hn : msg.numDelivered < deps.maxDeliver)
    (he : e.inr ∈ tr) (hno : ∀ x ∈ tr, x.Raised → x = e.inr) :
    ∃ request pipe result, deps.decode msg.data = some request ∧
      (buildResult deps request).Runs pipe (.ok result) ∧ e ∈ pipe ∧ NoOther e pipe ∧
      (∀ x ∈ pipe, x.inr ∈ tr) ∧
      ((isTerminal result = true ∧ tr.filterMap Event.left? =
          [⟨.publishResult request.replyTo result, .ok ()⟩, ⟨.ack, .ok ()⟩]) ∨
        (isTerminal result = false ∧ tr.filterMap Event.left? = [⟨.nak deps.nakDelay, .ok ()⟩])) := by
  unfold handleMessage at h
  cases hdecode : deps.decode msg.data with
  | none =>
    rw [hdecode] at h
    obtain ⟨t, rfl, -⟩ := runs_inl.mp h
    obtain ⟨x, -, hx⟩ := List.mem_map.mp he
    cases e
    cases hx
  | some request =>
    rw [hdecode] at h
    obtain ⟨pipe, result, emits, rfl, hbuild, hemit⟩ := handle_request_runs h
    have hpipe : e ∈ pipe := by
      rcases List.mem_append.mp he with he | he <;> obtain ⟨x, hx, heq⟩ := List.mem_map.mp he
      · rwa [← Event.inr_injective heq]
      · cases e
        cases heq
    have hnopipe : NoOther e pipe := fun x hx hraised =>
      Event.inr_injective (hno _ (List.mem_append_left _ (List.mem_map_of_mem hx)) hraised)
    have hemits : ∀ x ∈ emits, x.Ok := by
      intro x hx
      by_contra hnok
      have hsame := hno _ (List.mem_append_right _ (List.mem_map_of_mem hx)) (Event.raised_of_not_ok hnok)
      cases e
      cases hsame
    refine ⟨request, pipe, result, rfl, hbuild, hpipe, hnopipe, fun x hx =>
      List.mem_append_left _ (List.mem_map_of_mem hx), ?_⟩
    rw [Event.filterMap_left_append]
    exact (emit_guarded_runs hemit).2.all_ok_below hemits hn

/-- **A storage fault is permanent only for a missing object.** In a handling
below the delivery bound in which one storage request raised and no other call
did, the message is acked with a permanent failure exactly when a get missed
its object; after a presigning that raised it is acked with a success, without
that URL; otherwise it is given back, and nothing is published. -/
theorem storage_fault_verdict {tr : List (Event (msgSig.sum (hostSig ρ)) Exc)} {r : Except Exc Outcome}
    (hports : deps.ports = hostPorts ρ store bucket sha256)
    (h : (handleMessage deps msg).Runs tr r) (hn : msg.numDelivered < deps.maxDeliver)
    (he : (portFault ρ op exc).inr ∈ tr) (hno : ∀ e ∈ tr, e.Raised → e = (portFault ρ op exc).inr)
    (hf : exc.Foreign) :
    ∃ request, deps.decode msg.data = some request ∧
      ((∃ result error, result.status = .failed ∧ result.error = some error ∧ error.permanent = true ∧
        tr.filterMap Event.left? =
          [⟨.publishResult request.replyTo result, .ok ()⟩, ⟨.ack, .ok ()⟩]) ↔ ObjectMissing op exc) ∧
      (∀ b key ttl, op = .generatePresignedUrl b key ttl → ∃ result, result.status = .success ∧
        (∃ art ∈ result.artifacts, art.uri = objectUri b key ∧ art.presignedUrl = none) ∧
        tr.filterMap Event.left? =
          [⟨.publishResult request.replyTo result, .ok ()⟩, ⟨.ack, .ok ()⟩]) ∧
      (¬ ObjectMissing op exc → (∀ b key ttl, op ≠ .generatePresignedUrl b key ttl) →
        tr.filterMap Event.left? = [⟨.nak deps.nakDelay, .ok ()⟩]) := by
  obtain ⟨request, pipe, result, hdecode, hbuild, hpipe, hnopipe, -, hverdict⟩ := handled_fault h hn he hno
  refine ⟨request, hdecode, ?_⟩
  rcases build_result_fault hports hf hbuild hpipe hnopipe with ⟨hne, hfail⟩ | ⟨key, ttl, rfl, hs, hart⟩
  · have hterminal := terminal_of_failsWith hfail
    obtain ⟨hs, error, herror, hperm⟩ := hfail
    by_cases hmiss : ObjectMissing op exc
    · rw [hterminal.mpr hmiss] at hverdict
      obtain ⟨-, hemits⟩ | ⟨ht, -⟩ := hverdict
      swap
      · cases ht
      exact ⟨iff_of_true ⟨result, error, hs, herror, hperm.mpr hmiss, hemits⟩ hmiss,
        fun b k ttl hop => absurd hop (hne b k ttl), fun hno => absurd hmiss hno⟩
    · obtain ⟨ht, -⟩ | ⟨-, hemits⟩ := hverdict
      · exact absurd (hterminal.mp ht) hmiss
      refine ⟨iff_of_false ?_ hmiss, fun b k ttl hop => absurd hop (hne b k ttl), fun _ _ => hemits⟩
      rintro ⟨_, _, -, -, -, hacked⟩
      rw [hemits] at hacked
      cases hacked
  · obtain ⟨-, hemits⟩ | ⟨ht, -⟩ := hverdict
    swap
    · rw [terminal_of_success hs] at ht
      cases ht
    refine ⟨iff_of_false ?_ id, fun b k ttl' hop => ?_, fun _ hne => absurd rfl (hne _ _ _)⟩
    · rintro ⟨result', _, hs', -, -, hacked⟩
      rw [hemits] at hacked
      cases hacked
      rw [hs] at hs'
      cases hs'
    · cases hop
      exact ⟨result, hs, hart, hemits⟩

end

/-! ### A template whose bucket is gone -/

/-- A request for the template of a small cache. -/
def cachedRequest : GenerationRequest :=
  { makeRequest with templateUri := "s3://bkt/a/b/", templateUri_ne := by decide }

def cachedDeps : HandlerDeps (hostSig Unit) Unit where
  ports := hostPorts Unit cacheStore "out" fun _ => ""
  maxDeliver := 4
  nakDelay := 30
  startedAt := "2026-06-18T00:00:00+00:00"
  failedAt := "2026-06-18T00:00:01+00:00"
  decode := fun _ => some cachedRequest

/-- The error of a request to a bucket that is gone. -/
def noSuchBucket : Exc := .clientError "NoSuchBucket" (some 404) "The specified bucket does not exist"

/-- The calls of the template store: the bucket goes between the listing and
the one get. -/
def bucketGone : List (Event storeSig Exc) :=
  [⟨.inr (.isFile ["cache", "a", "b", "manifest.json"]), .ok false⟩,
    ⟨.inl (.listObjectsV2 "bkt" "a/b/"), .ok [["a/b/manifest.json"]]⟩,
    ⟨.inr (.mkdir ["cache"]), .ok ()⟩,
    ⟨.inr (.mkdtemp ["cache"]), .ok ["cache", "tmp"]⟩,
    ⟨.inr (.mkdir ["cache", "tmp"]), .ok ()⟩,
    ⟨.inl (.getObject "bkt" "a/b/manifest.json"), .error noSuchBucket⟩,
    ⟨.inr (.rmtree ["cache", "tmp"]), .ok ()⟩]

/-- The calls of the handling. -/
def bucketGoneTrace : List (Event (msgSig.sum (hostSig Unit)) Exc) :=
  bucketGone.map (fun e => e.inl.inr) ++ [⟨.inl (.nak 30), .ok ()⟩]

/-- It is a storage error, though the status is 404. -/
theorem fetch_bucketGone :
    (fetch cacheStore cachedRequest.templateUri).Runs bucketGone (.error (.docGen ⟨.storageError,
      "download template object 'a/b/manifest.json': missing bucket for a/b/manifest.json"⟩)) := by
  have hf : fetch cacheStore cachedRequest.templateUri =
      fetchPrefix cacheStore cachedRequest.templateUri "a/b/" :=
    fetch_eq cacheStore (by decide) (by decide)
  have hd : localDirFor cacheStore "a/b/" = .ok ["cache", "a", "b"] := by decide
  rw [hf, fetchPrefix, hd]
  exact ⟨_, _, rfl, _, _, rfl, _, _, rfl, _, _, rfl, _, _, rfl, _, _, rfl, _, _, rfl, rfl, rfl⟩

theorem handle_bucketGone : (handleMessage cachedDeps ⟨[123], some 1⟩).Runs bucketGoneTrace (.ok .nak) := by
  have hfetch : (cachedDeps.ports.fetch cachedRequest.templateUri).Runs (bucketGone.map Event.inl) _ :=
    runs_inl.mpr ⟨_, rfl, fetch_bucketGone⟩
  have hbuild : (buildResult cachedDeps cachedRequest).Runs (bucketGone.map Event.inl) (.ok _) :=
    runs_tryCatch.mpr (Or.inl ⟨_, rfl, runs_tryCatch.mpr (Or.inr ⟨_, _, [], (List.append_nil _).symm,
      runs_bind.mpr (Or.inl ⟨_, rfl, hfetch⟩), rfl, rfl⟩)⟩)
  exact runs_tryCatch.mpr (Or.inl ⟨_, rfl, runs_bind.mpr (Or.inr ⟨_, _, _, rfl,
    runs_inr.mpr ⟨_, by rw [List.map_map]; rfl, hbuild⟩, ⟨_, _, rfl, rfl, rfl⟩⟩)⟩)

/-- The message is given back. -/
theorem storage_fault_verdict_bucket_gone :
    bucketGoneTrace.filterMap Event.left? = [⟨.nak 30, .ok ()⟩] := by
  have hmem : (portFault Unit (.getObject "bkt" "a/b/manifest.json") noSuchBucket).inr ∈ bucketGoneTrace :=
    List.mem_append_left _ (List.mem_map_of_mem
      (.tail _ (.tail _ (.tail _ (.tail _ (.tail _ (.head _)))))))
  have hno : ∀ e ∈ bucketGoneTrace, e.Raised →
      e = (portFault Unit (.getObject "bkt" "a/b/manifest.json") noSuchBucket).inr := by
    rintro e he ⟨_, hx⟩
    rcases List.mem_append.mp he with he | he
    · obtain ⟨e', he', rfl⟩ := List.mem_map.mp he
      simp only [bucketGone, List.mem_cons, List.not_mem_nil, or_false] at he'
      rcases he' with rfl | rfl | rfl | rfl | rfl | rfl | rfl <;> first | rfl | cases hx
    · rw [List.mem_singleton.mp he] at hx
      cases hx
  obtain ⟨_, -, -, -, hnak⟩ := storage_fault_verdict rfl handle_bucketGone (by decide) hmem hno trivial
  exact hnak (fun h => h.1 rfl) fun _ _ _ h => by cases h

end DocGen
