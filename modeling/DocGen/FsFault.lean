/-
# A fault of the local file system in a fetch

One call on the file system raises an `OSError` and every other call returns.
The steps of the download let the exception pass, and the move may survive it;
the read of the manifest makes a missing template of it, which is a permanent
failure.
-/
import DocGen.Confinement
import DocGen.FailedFetch
import DocGen.StorageFault

namespace DocGen

open Prog

/-- A call on the file system that has raised. -/
abbrev fsFault (op : FsOp) (exc : Exc) : Event storeSig Exc := ⟨.inr op, .error exc⟩

/-- The failure of a request that raises it is final. -/
def Exc.permanent : Exc → Bool
  | .docGen e => e.cls.permanent
  | _ => false

theorem not_permanent_of_isOSError {exc : Exc} (h : exc.isOSError = true) : exc.permanent = false := by
  cases exc with
  | docGen e => cases h
  | _ => rfl

section

variable {op : FsOp} {exc : Exc}

theorem raisesOn_fsFault (op' : FsOp) : RaisesOn (fsFault op exc) (· = exc) (fsCall op') := by
  rw [fsCall_eq]
  exact raisesOn_perform fun _ => rfl

theorem passes_fsFault (op' : FsOp) : Passes (S := storeSig) (.inr op) exc (fsCall op') := by
  rw [fsCall_eq]
  exact passes_perform

/-- A request is no call on the file system. -/
theorem raisesOn_request {Q : Exc → Prop} {α : Type} (p : Coroutine s3Sig α) :
    RaisesOn (fsFault op exc) Q (p.inl (T := fsSig)) :=
  raisesOn_inl_right (e := (⟨op, .error exc⟩ : Event fsSig Exc))

theorem objectError_osError (key : String) (h : exc.isOSError = true) : objectError key exc = exc := by
  cases exc <;> first | rfl | cases h

variable (store : TemplateStore)

theorem raisesOn_downloadObject_fsFault (hos : exc.isOSError = true) (keyPrefix : String)
    (tmpDir : FilePath) (key : String) :
    RaisesOn (fsFault op exc) (· = exc) (downloadObject store keyPrefix tmpDir key) := by
  refine raisesOn_turn store keyPrefix tmpDir key raisesOn_fsFault (raisesOn_request _) raisesOn_fsFault ?_
  rintro _ rfl
  exact objectError_osError key hos

/-- The move raises what its calls raise, or survives that. -/
theorem passes_publish (tmpDir localDir : FilePath) :
    Passes (S := storeSig) (.inr op) exc (publish tmpDir localDir) := by
  have hthere : ∀ {p : Coroutine storeSig Unit}, Passes (S := storeSig) (.inr op) exc p →
      Passes (S := storeSig) (.inr op) exc ((fsCall (.exists localDir)).bind fun there : Bool =>
        if there then .ret () else p) := by
    intro p hp
    refine passes_bind (passes_fsFault _) fun there => ?_
    split
    · exact passes_ret
    · exact hp
  refine hthere (passes_bind (passes_fsFault _) fun _ => passes_tryCatch (passes_fsFault _) ?_)
  split
  · exact hthere passes_raise
  · exact passes_raise

theorem endsBy_downloadPrefix (hos : exc.isOSError = true) (keyPrefix : String) (localDir : FilePath) :
    EndsBy (S := storeSig) (.inr op) exc (downloadPrefix store keyPrefix localDir) := by
  unfold downloadPrefix
  refine endsBy_bind (raisesOn_translate (Q := fun _ => False) (raisesOn_request _) fun _ => False.elim)
    fun keys => ?_
  split
  · exact (raisesOn_raise : RaisesOn (fsFault op exc) (· = exc) _).endsBy
  refine endsBy_bind (raisesOn_fsFault _) fun _ => endsBy_bind (raisesOn_fsFault _) fun tmpDir => ?_
  refine endsBy_tryFinally (endsBy_bind ?_ fun _ => (passes_publish tmpDir localDir).endsBy)
    (raisesOn_fsFault _) (passes_fsFault _)
  exact raisesOn_forEach fun key _ => raisesOn_downloadObject_fsFault store hos keyPrefix tmpDir key

theorem endsBy_ensureCached (hos : exc.isOSError = true) (keyPrefix : String) (localDir : FilePath) :
    EndsBy (S := storeSig) (.inr op) exc (ensureCached store keyPrefix localDir) := by
  refine endsBy_bind (raisesOn_fsFault _) fun cached => ?_
  split
  · exact passes_ret.endsBy
  · exact endsBy_downloadPrefix store hos keyPrefix localDir

/-! ### The read of the manifest -/

def isRead : storeSig.Op → Bool
  | .inr (.readBytes _) => true
  | _ => false

theorem not_read_of_later {tmpDir : FilePath} {op : storeSig.Op} (h : laterCall tmpDir op) :
    isRead op = false := by
  rcases h with h | h | rfl
  · unfold loopCall at h
    split at h <;> first | rfl | exact h.elim
  · unfold publishCall at h
    split at h <;> first | rfl | exact h.elim
  · rfl

/-- Nothing is read before the manifest. -/
theorem ensureCached_calls (keyPrefix : String) (localDir : FilePath) :
    (ensureCached store keyPrefix localDir).Calls fun op => isRead op = false := by
  have hfs : ∀ op, isRead (.inr op) = false → (fsCall op).Calls fun op => isRead op = false :=
    fun op h => calls_fsCall (P := fun op => isRead op = false) h
  refine calls_bind (fun cached => ?_) (hfs _ rfl)
  split
  · exact calls_ret
  unfold downloadPrefix
  refine calls_bind (fun keys => ?_) (calls_tryCatch (fun _ => calls_raise) (calls_inl
    (calls_bind (fun _ => calls_ret) (calls_s3Request keyPrefix rfl))))
  split
  · exact calls_raise
  refine calls_bind (fun _ => calls_bind (fun tmpDir => ?_) (hfs _ rfl)) (hfs _ rfl)
  exact calls_tryFinally (hfs _ rfl) (body_calls.mono fun _ => not_read_of_later)

/-- The manifest is read once. -/
theorem loadManifest_runs {path : FilePath} {uri : String} {tr : List (Event storeSig Exc)}
    {r : Except Exc Manifest} (h : (loadManifest store path uri).Runs tr r) :
    (∃ content, tr = [⟨.inr (.readBytes path), .ok content⟩] ∧
      ∀ manifest, store.modelValidateJson content = .ok manifest → r = .ok manifest) ∨
    ∃ x, tr = [⟨.inr (.readBytes path), .error x⟩] ∧ r = .error (manifestError uri x) := by
  unfold loadManifest at h
  simp only [fsCall_eq] at h
  rcases runs_tryCatch.mp h with ⟨manifest, rfl, hbody⟩ | ⟨x, t₁, t₂, rfl, hbody, rfl, rfl⟩
  · rcases runs_perform_bind.mp hbody with ⟨_, hr, -⟩ | ⟨content, t, rfl, hvalid⟩
    · cases hr
    split at hvalid
    · obtain ⟨rfl, hr⟩ := hvalid
      rename_i hok
      refine Or.inl ⟨content, rfl, fun manifest' hvalid' => ?_⟩
      rw [hok] at hvalid'
      cases hvalid'
      exact hr
    · cases hvalid.2
  · rcases runs_perform_bind.mp hbody with ⟨x', hr, rfl⟩ | ⟨content, t, rfl, hvalid⟩
    · cases hr
      exact Or.inr ⟨x, rfl, rfl⟩
    split at hvalid
    · cases hvalid.2
    · obtain ⟨rfl, -⟩ := hvalid
      rename_i herr
      refine Or.inl ⟨content, rfl, fun manifest hok => ?_⟩
      rw [hok] at herr
      cases herr

/-- The end of a fetch: a manifest that is valid makes its bundle. -/
theorem loadBundle_runs {path localDir : FilePath} {uri : String} {tr : List (Event storeSig Exc)}
    {r : Except Exc TemplateBundle}
    (h : ((loadManifest store path uri).bind fun manifest => .ret ⟨manifest, localDir⟩).Runs tr r) :
    (∃ content, tr = [⟨.inr (.readBytes path), .ok content⟩] ∧
      ∀ manifest, store.modelValidateJson content = .ok manifest → ∃ bundle, r = .ok bundle) ∨
    ∃ x, tr = [⟨.inr (.readBytes path), .error x⟩] ∧ r = .error (manifestError uri x) := by
  rcases runs_bind.mp h with ⟨exc', rfl, hload⟩ | ⟨manifest, t₁, t₂, rfl, hload, rfl, rfl⟩
  · rcases loadManifest_runs store hload with ⟨content, rfl, hr⟩ | ⟨x, rfl, hr⟩
    · exact Or.inl ⟨content, rfl, fun manifest hok => by cases hr manifest hok⟩
    · cases hr
      exact Or.inr ⟨x, rfl, rfl⟩
  · rcases loadManifest_runs store hload with ⟨content, rfl, -⟩ | ⟨x, -, hr⟩
    · exact Or.inl ⟨content, rfl, fun _ _ => ⟨_, rfl⟩⟩
    · cases hr

theorem manifestError_osError (uri : String) (h : exc.isOSError = true) :
    ∃ message, manifestError uri exc = .docGen ⟨.templateNotFoundError, message⟩ := by
  unfold manifestError
  exact ⟨_, if_pos h⟩

/-! ### The fetch -/

/-- The manifests that are read are valid. -/
def ReadsValid (store : TemplateStore) (tr : List (Event storeSig Exc)) : Prop :=
  ∀ p content, ⟨.inr (.readBytes p), .ok content⟩ ∈ tr →
    ∃ manifest, store.modelValidateJson content = .ok manifest

/-- A fault of the read is raised as a missing template; any other fault is
raised as it is, or survived. -/
theorem fetch_fsFault {uri : String} {tr : List (Event storeSig Exc)} {r : Except Exc TemplateBundle}
    (hos : exc.isOSError = true) (h : (fetch store uri).Runs tr r) (he : fsFault op exc ∈ tr)
    (hno : NoOther (fsFault op exc) tr) (hvalid : ReadsValid store tr) :
    ((∃ p, op = .readBytes p) ∧ ∃ message, r = .error (.docGen ⟨.templateNotFoundError, message⟩)) ∨
      (∀ p, op ≠ .readBytes p) ∧ ((∃ bundle, r = .ok bundle) ∨ r = .error exc) := by
  rcases fetch_cases store uri with ⟨message, hf⟩ | ⟨x, -, -, hf⟩
  · rw [hf] at h
    rw [h.1] at he
    cases he
  rw [hf] at h
  unfold fetchPrefix at h
  split at h
  · rw [h.1] at he
    cases he
  rename_i localDir _
  have hnotread : ∀ {t s}, (ensureCached store x localDir).Runs t s → fsFault op exc ∈ t →
      ∀ p, op ≠ .readBytes p := by
    rintro t s ht hmem p rfl
    cases (ensureCached_calls store x localDir).runs ht _ hmem
  rcases runs_bind.mp h with ⟨exc', rfl, hcached⟩ | ⟨⟨⟩, t₁, t₂, rfl, hcached, h⟩
  · obtain rfl := endsBy_ensureCached store hos x localDir _ _ hcached hno he exc' rfl
    exact Or.inr ⟨hnotread hcached he, Or.inr rfl⟩
  have hload := loadBundle_runs store h
  rcases List.mem_append.mp he with hbefore | hlast
  · -- the move has survived, and the manifest is loaded
    refine Or.inr ⟨hnotread hcached hbefore, Or.inl ?_⟩
    rcases hload with ⟨content, rfl, hr⟩ | ⟨y, rfl, -⟩
    · obtain ⟨manifest, hok⟩ := hvalid _ content (List.mem_append_right _ List.mem_cons_self)
      exact hr manifest hok
    · cases hno _ (List.mem_append_right _ List.mem_cons_self) ⟨y, rfl⟩
      exact absurd rfl (hnotread hcached hbefore _)
  · rcases hload with ⟨content, rfl, -⟩ | ⟨y, rfl, rfl⟩
    · cases List.mem_singleton.mp hlast
    · cases List.mem_singleton.mp hlast
      obtain ⟨message, hm⟩ := manifestError_osError uri hos
      exact Or.inl ⟨⟨_, rfl⟩, message, congrArg _ hm⟩

/-- **A local fault is reported as a missing template exactly if it is one of
the read of the manifest.** In a fetch in which one call on the file system
raised an `OSError` and no other call raised, whatever the calls answered, and
in which a manifest that was read is valid: the fetch returns, or raises what
is not final, exactly if that call is not the read. -/
theorem fetch_fault_transient_iff (uri : String) {tr : List (Event storeSig Exc)}
    {r : Except Exc TemplateBundle} (hos : exc.isOSError = true) (h : (fetch store uri).Runs tr r)
    (he : fsFault op exc ∈ tr) (hno : NoOther (fsFault op exc) tr) (hvalid : ReadsValid store tr) :
    ((∃ bundle, r = .ok bundle) ∨ ∃ x, r = .error x ∧ x.permanent = false) ↔ ∀ p, op ≠ .readBytes p := by
  rcases fetch_fsFault store hos h he hno hvalid with ⟨⟨p, rfl⟩, message, rfl⟩ | ⟨hop, hr⟩
  · refine iff_of_false ?_ fun hop => hop p rfl
    rintro (⟨_, hr⟩ | ⟨x, hr, hx⟩)
    · cases hr
    · cases hr
      cases hx
  · refine iff_of_true (hr.imp_right ?_) hop
    rintro rfl
    exact ⟨exc, rfl, not_permanent_of_isOSError hos⟩

end

/-! ### What the handler makes of it -/

theorem Exc.permanent_iff {x : Exc} : x.permanent = true ↔ ∃ e, x = .docGen e ∧ e.cls.permanent = true := by
  cases x <;> simp [Exc.permanent]

section

variable {ρ : Type} {op : FsOp} {exc : Exc} {store : TemplateStore} {bucket : String}
  {sha256 : Bytes → String} {request : GenerationRequest}

/-- A port that calls the file system is the fetch. -/
theorem fetch_of_fsFault {op₀ : PortOp ρ} {t : List (Event (hostSig ρ) Exc)} {x : Except Exc op₀.Res}
    (h : ((hostPorts ρ store bucket sha256).impl op₀).Runs t x) (he : (fsFault op exc).inl ∈ t) :
    ∃ uri, op₀ = .fetch uri := by
  rcases hput : op₀.isPut with _ | _
  · rcases hfetch : op₀.isFetch with _ | _
    · obtain rfl := host_call_runs hfetch hput h
      cases List.mem_singleton.mp he
    · cases op₀ <;> first | exact ⟨_, rfl⟩ | cases hfetch
  · cases op₀ with
    | put key content contentType ttl =>
      obtain ⟨v, rfl, hv⟩ := runs_inl.mp h
      obtain ⟨u, rfl, -⟩ := runs_inl.mp hv
      obtain ⟨y, hy, heq⟩ := List.mem_map.mp he
      obtain ⟨z, -, rfl⟩ := List.mem_map.mp hy
      cases heq
    | _ => cases hput

/-- The pipeline ends with what the fetch raised, or the fetch has survived. -/
theorem process_request_fsFault {generatedAt : String} {tr : List (Event (hostSig ρ) Exc)}
    {r : Except Exc GenerationResult} (hos : exc.isOSError = true)
    (h : (processRequest (hostPorts ρ store bucket sha256) request generatedAt).Runs tr r)
    (he : (fsFault op exc).inl ∈ tr) (hno : NoOther (fsFault op exc).inl tr)
    (hvalid : ReadsValid store (tr.filterMap Event.left?)) :
    (∃ x, r = caught request generatedAt none x ∧ (x.permanent = true ↔ ∃ p, op = .readBytes p)) ∨
    (∀ p, op ≠ .readBytes p) ∧ ∃ t bundle, (fetch store request.templateUri).Runs t (.ok bundle) ∧
      fsFault op exc ∈ t := by
  rw [← processRequest_interp, runs_interp] at h
  obtain ⟨es, hi, hr⟩ := h
  obtain ⟨⟨op₀, x₀⟩, he₀, t, het, hsub, ht⟩ := hi.mem he
  obtain ⟨uri, rfl⟩ := fetch_of_fsFault ht het
  obtain ⟨u, rfl, hu⟩ := runs_inl.mp ht
  have hmem : fsFault op exc ∈ u := by
    obtain ⟨x, hx, heq⟩ := List.mem_map.mp het
    rwa [Event.inl_injective heq] at hx
  have hnot : NoOther (fsFault op exc) u := fun x hx hraised =>
    Event.inl_injective (hno _ (hsub _ (List.mem_map_of_mem hx)) hraised)
  have hread : ReadsValid store u := fun p content hx => hvalid p content
    (List.mem_filterMap.mpr ⟨_, hsub _ (List.mem_map_of_mem hx), rfl⟩)
  rcases process_request_runs hr with ⟨x, rfl, rfl⟩ | ⟨bundle, r', hb, rfl⟩
  · cases List.mem_singleton.mp he₀
    refine Or.inl ⟨x, rfl, ?_⟩
    rcases fetch_fsFault store hos hu hmem hnot hread with ⟨hop, message, hx⟩ | ⟨hop, ⟨_, hx⟩ | hx⟩
    · cases hx
      exact iff_of_true rfl hop
    · cases hx
    · cases hx
      exact iff_of_false (by rw [not_permanent_of_isOSError hos]; exact Bool.false_ne_true)
        fun ⟨p, hp⟩ => hop p hp
  · obtain ⟨tl, rfl, htl⟩ := hb.fetch_first
    rcases List.mem_cons.mp he₀ with hfirst | hrest
    · cases hfirst
      rcases fetch_fsFault store hos hu hmem hnot hread with ⟨-, message, hx⟩ | ⟨hop, -⟩
      · cases hx
      · exact Or.inr ⟨hop, u, bundle, hu, hmem⟩
    · cases htl _ hrest

variable {deps : HandlerDeps (hostSig ρ) ρ} {msg : Msg}

/-- Below the delivery bound, a message whose fetch met the fault is acked with
a permanent failure if the manifest could not be read, and otherwise given
back, unless the fetch survived. -/
theorem fs_fault_verdict {tr : List (Event (msgSig.sum (hostSig ρ)) Exc)} {r : Except Exc Outcome}
    (hports : deps.ports = hostPorts ρ store bucket sha256) (hos : exc.isOSError = true)
    (h : (handleMessage deps msg).Runs tr r) (hn : msg.numDelivered < deps.maxDeliver)
    (he : (fsFault op exc).inl.inr ∈ tr) (hno : ∀ e ∈ tr, e.Raised → e = (fsFault op exc).inl.inr)
    (hvalid : ∀ p content, (⟨.inr (.readBytes p), .ok content⟩ : Event storeSig Exc).inl.inr ∈ tr →
      ∃ manifest, store.modelValidateJson content = .ok manifest) :
    ∃ request, deps.decode msg.data = some request ∧
      ((∃ p, op = .readBytes p) → ∃ result error, result.status = .failed ∧ result.error = some error ∧
        error.permanent = true ∧ tr.filterMap Event.left? =
          [⟨.publishResult request.replyTo result, .ok ()⟩, ⟨.ack, .ok ()⟩]) ∧
      ((∀ p, op ≠ .readBytes p) → tr.filterMap Event.left? = [⟨.nak deps.nakDelay, .ok ()⟩] ∨
        ∃ t bundle, (fetch store request.templateUri).Runs t (.ok bundle) ∧ fsFault op exc ∈ t) := by
  obtain ⟨request, pipe, result, hdecode, hbuild, hpipe, hnopipe, hsub, hverdict⟩ := handled_fault h hn he hno
  have hread : ReadsValid store (pipe.filterMap Event.left?) := by
    intro p content hmem
    obtain ⟨x, hx, heq⟩ := List.mem_filterMap.mp hmem
    rcases x with ⟨op' | op', ans⟩
    · cases heq
      exact hvalid p content (hsub _ hx)
    · cases heq
  refine ⟨request, hdecode, ?_⟩
  by_cases hsurvives : (∀ p, op ≠ .readBytes p) ∧ ∃ t bundle,
      (fetch store request.templateUri).Runs t (.ok bundle) ∧ fsFault op exc ∈ t
  · exact ⟨fun ⟨p, hp⟩ => absurd hp (hsurvives.1 p), fun _ => Or.inr hsurvives.2⟩
  have hfail : FailsWith result (∃ p, op = .readBytes p) := by
    refine build_result_caught hbuild fun r hr => ?_
    rcases process_request_fsFault hos (hports ▸ hr) hpipe hnopipe hread with ⟨x, hc, hperm⟩ | h
    · exact ⟨x, none, hc, Exc.permanent_iff.symm.trans hperm⟩
    · exact absurd h hsurvives
  have hterminal := terminal_of_failsWith hfail
  obtain ⟨hs, error, herror, hperm⟩ := hfail
  rcases hverdict with ⟨ht, hacked⟩ | ⟨ht, hnak⟩
  · exact ⟨fun hop => ⟨result, error, hs, herror, hperm.mpr hop, hacked⟩,
      fun hop => absurd (hterminal.mp ht) fun ⟨p, hp⟩ => hop p hp⟩
  · refine ⟨fun hop => ?_, fun _ => Or.inl hnak⟩
    rw [hterminal.mpr hop] at ht
    cases ht

end

/-! ### A worker that is out of descriptors -/

def tooManyFiles : Exc := .osError 24 "[Errno 24] Too many open files"

/-- A fetch into an empty cache that cannot make its temporary directory. -/
def noTempDir : List (Event storeSig Exc) :=
  [⟨.inr (.isFile ["cache", "a", "manifest.json"]), .ok false⟩,
    ⟨.inl (.listObjectsV2 "bkt" "a/"), .ok [["a/manifest.json"]]⟩,
    ⟨.inr (.mkdir ["cache"]), .ok ()⟩,
    fsFault (.mkdtemp ["cache"]) tooManyFiles]

theorem fetch_cacheStore_a : fetch cacheStore "s3://bkt/a/" = fetchPrefix cacheStore "s3://bkt/a/" "a/" :=
  fetch_eq cacheStore (by decide) (by decide)

theorem localDir_cacheStore_a : localDirFor cacheStore "a/" = .ok ["cache", "a"] := by decide

theorem fetch_noTempDir : (fetch cacheStore "s3://bkt/a/").Runs noTempDir (.error tooManyFiles) := by
  rw [fetch_cacheStore_a, fetchPrefix, localDir_cacheStore_a]
  exact ⟨_, _, rfl, _, _, rfl, _, _, rfl, _, _, rfl, rfl, rfl⟩

theorem fetch_fault_transient_no_temp :
    ((∃ bundle, (.error tooManyFiles : Except Exc TemplateBundle) = .ok bundle) ∨
      ∃ x, (.error tooManyFiles : Except Exc TemplateBundle) = .error x ∧ x.permanent = false) ↔
    ∀ p, FsOp.mkdtemp ["cache"] ≠ .readBytes p := by
  have hmem : ∀ e ∈ noTempDir, (e.Raised → e = fsFault (.mkdtemp ["cache"]) tooManyFiles) ∧
      ∀ p content, e ≠ ⟨.inr (.readBytes p), .ok content⟩ := by
    intro e he
    simp only [noTempDir, List.mem_cons, List.not_mem_nil, or_false] at he
    rcases he with rfl | rfl | rfl | rfl <;>
      exact ⟨fun ⟨_, hx⟩ => (by first | rfl | cases hx), fun _ _ heq => by cases heq⟩
  refine fetch_fault_transient_iff cacheStore "s3://bkt/a/" rfl fetch_noTempDir
    (.tail _ (.tail _ (.tail _ (.head _)))) (fun e he => (hmem e he).1) fun p content hread => ?_
  exact absurd rfl ((hmem _ hread).2 p content)

/-- A bucket with one template. -/
def oneBucket : AnyBucket where
  objects := [("a/manifest.json", [1])]
  keys_nodup := List.nodup_singleton _
  isTemp name := name == "tmp"

/-- It is fetched into an empty cache. -/
theorem exec_fetch_one : ∃ t, (fetch cacheStore "s3://bkt/a/").Exec (oneBucket.sem ⟨false, fun _ => false⟩)
    FileTree.empty (.ok ⟨invoiceManifest, ["cache", "a"]⟩) t ∧
      t.isFile ["cache", "a", "manifest.json"] = true := by
  have hmkdir : ∀ {p : FilePath} {s : Files}, s.blocked p = false →
      oneBucket.sem ⟨false, fun _ => false⟩ (.inr (.mkdir p)) s (.ok ()) (s.addDirs p) := answer_mkdir_faulty
  rw [fetch_cacheStore_a, fetchPrefix, localDir_cacheStore_a]
  refine exec_goes_on (S := storeSig) (.inr (.isFile ["cache", "a", "manifest.json"])) (.ok false)
    (Or.inl ⟨rfl, rfl⟩) ?_
  refine exec_goes_on (S := storeSig) (.inl (.listObjectsV2 "bkt" "a/")) (.ok [["a/manifest.json"]])
    ⟨Or.inr ⟨_, rfl, by decide⟩, rfl⟩ ?_
  refine exec_goes_on (S := storeSig) (.inr (.mkdir ["cache"])) (.ok ()) (hmkdir (by decide)) ?_
  refine exec_goes_on (S := storeSig) (.inr (.mkdtemp ["cache"])) (.ok ["cache", "tmp"])
    (Or.inl (Or.inl ⟨"tmp", rfl, rfl, rfl⟩)) ?_
  refine exec_goes_on (S := storeSig) (.inr (.mkdir ["cache", "tmp"])) (.ok ()) (hmkdir (by decide)) ?_
  refine exec_goes_on (S := storeSig) (.inl (.getObject "bkt" "a/manifest.json")) (.ok [1])
    ⟨Or.inr (Or.inl ⟨[1], List.mem_singleton_self _, rfl⟩), rfl⟩ ?_
  refine exec_goes_on (S := storeSig) (.inr (.writeBytes ["cache", "tmp", "manifest.json"] [1])) (.ok ())
    (Or.inl ⟨rfl, rfl⟩) ?_
  refine exec_goes_on (S := storeSig) (.inr (.exists ["cache", "a"])) (.ok false) (Or.inl ⟨rfl, rfl⟩) ?_
  refine exec_goes_on (S := storeSig) (.inr (.mkdir ["cache"])) (.ok ()) (hmkdir (by decide)) ?_
  refine exec_goes_on (S := storeSig) (.inr (.replace ["cache", "tmp"] ["cache", "a"])) (.ok ())
    (Or.inl (Or.inl ⟨["cache"], "a", ⟨by decide, by decide, by decide, by decide, Or.inl rfl⟩, rfl, rfl, rfl⟩)) ?_
  refine exec_goes_on (S := storeSig) (.inr (.rmtree ["cache", "tmp"])) (.ok ()) (Or.inl ⟨rfl, rfl⟩) ?_
  refine exec_goes_on (S := storeSig) (.inr (.readBytes ["cache", "a", "manifest.json"])) (.ok [1])
    (Or.inl ⟨rfl, rfl⟩) ?_
  exact ⟨_, ⟨rfl, rfl⟩, rfl⟩

/-- The reads of the manifest. -/
def manifestReads : FsOp → Bool
  | .readBytes p => p == ["cache", "a", "manifest.json"]
  | _ => false

/-- The cached manifest cannot be opened for now, and the template is reported
as missing. -/
theorem read_fault_is_permanent : ¬ ∀ (store : TemplateStore) (b : AnyBucket) (uri : String)
    (bundle : TemplateBundle) (s : Files),
    (fetch store uri).Exec (b.sem ⟨false, fun _ => false⟩) FileTree.empty (.ok bundle) s →
    ∀ (op : FsOp) (fault : FsOp → Bool), (∀ op', fault op' = true → op' = op) →
    ∀ (r : Except Exc TemplateBundle) (t : Files), (fetch store uri).Exec (b.sem ⟨false, fault⟩) s r t →
      (∃ bundle, r = .ok bundle) ∨ ∃ x, r = .error x ∧ x.permanent = false := by
  intro h
  obtain ⟨s, hs, hfile⟩ := exec_fetch_one
  have honly : ∀ op', manifestReads op' = true → op' = .readBytes ["cache", "a", "manifest.json"] := by
    intro op' hop
    cases op' with
    | readBytes p => exact congrArg FsOp.readBytes (beq_iff_eq.mp hop)
    | _ => cases hop
  obtain ⟨t, hrun, -⟩ : ∃ t, (fetch cacheStore "s3://bkt/a/").Exec (oneBucket.sem ⟨false, manifestReads⟩) s
      (.error (manifestError "s3://bkt/a/" tooManyFiles)) t ∧ True := by
    rw [fetch_cacheStore_a, fetchPrefix, localDir_cacheStore_a]
    refine exec_goes_on (S := storeSig) (.inr (.isFile ["cache", "a", "manifest.json"])) (.ok true)
      (Or.inl ⟨congrArg _ hfile.symm, rfl⟩) ?_
    refine exec_goes_on (S := storeSig) (.inr (.readBytes ["cache", "a", "manifest.json"]))
      (.error tooManyFiles) (Or.inr ⟨rfl, ⟨24, _, rfl⟩, rfl⟩) ?_
    exact ⟨s, ⟨rfl, rfl⟩, trivial⟩
  rcases h _ _ _ _ s hs _ manifestReads honly _ t hrun with ⟨_, hr⟩ | ⟨x, hr, hx⟩
  · cases hr
  · cases hr
    cases hx

end DocGen
