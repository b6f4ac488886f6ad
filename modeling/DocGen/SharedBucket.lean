/-
# Many requests and the output bucket

`OutputBucket.lean` follows the duplicate runs of one request. Here any number
of runs of any number of requests share the bucket, as under the handlings of
all workers: the templates, the registry and the renderers are those of the
service (`Service`), each run reads what its own request names, and the runs go
on side by side, one port call or S3 request at a time, any of them stopped for
good at any point.

Runs that write one key must write one object there (`Consistent`); that is so
when the prefixes of two requests differ by more than their trailing slashes
(`consistent_of_prefixes`). The assertion of a run is still its trace, and the
upload of another run leaves it, since it is under another key or of the same
object.
-/
import DocGen.Lib.Calls
import DocGen.ObjectKeys
import DocGen.OutputBucket

namespace DocGen

open Prog

/-- What all runs share: the template of each URI, the registry and the
renderers. -/
structure Service (ρ : Type) where
  template : String → TemplateBundle
  registry : Engine → OutputFormat → Option ρ
  render : ρ → TemplateBundle → JsonDict → OutputFormat → Option String → RenderedArtifact
  filename : ∀ renderer bundle data fmt locale,
    (render renderer bundle data fmt locale).filename = bundle.manifest.filenameFor fmt

namespace Service

variable {ρ : Type} (svc : Service ρ)

/-- What the runs of a request see of it. -/
def world (request : GenerationRequest) : World ρ where
  bundle := svc.template request.templateUri
  registry := svc.registry
  render := svc.render
  filename renderer data fmt locale := svc.filename renderer _ data fmt locale

/-- The answers of the ports. -/
def answers : ∀ op : PortOp ρ, Except Exc op.Res → Prop
  | .fetch uri, x => ∀ b, x = .ok b → b = svc.template uri
  | .get engine fmt, x => ∀ renderer, x = .ok renderer → renderer = svc.registry engine fmt
  | .validate _ _, _ => True
  | .run renderer bundle data fmt locale, x =>
    ∀ art, x = .ok art → art = svc.render renderer bundle data fmt locale
  | .put _ _ _ _, x => ∃ exc, x = .error exc

/-- What a call of a run does to the storage. -/
def sem : Sem (runSig ρ) Exc ObjectStorage
  | .inl op, s, x, t => svc.answers op x ∧ t = s
  | .inr (.putObject bucket key body contentType), s, x, t =>
    t = s.put bucket key ⟨body, contentType⟩ ∨ ((∃ exc, x = .error exc) ∧ t = s)
  | .inr _, s, _, t => t = s

end Service

/-! ### A run fetches its own template -/

section

variable {ρ : Type} {request : GenerationRequest} {bucket : String} {sha256 : Bytes → String}
  {generatedAt : String}

/-- A call that fetches nothing but the request's template. -/
def FetchesOwn (request : GenerationRequest) (op : (runSig ρ).Op) : Prop :=
  ∀ uri, op = .inl (.fetch uri) → uri = request.templateUri

theorem calls_port {op : PortOp ρ} (h : FetchesOwn request (.inl op)) :
    ((Prog.perform (S := portSig ρ) op).inl (T := s3Sig) : Coroutine (runSig ρ) _).Calls (FetchesOwn request) :=
  calls_inl (calls_perform h)

theorem calls_s3 {α : Type} : ∀ p : Coroutine s3Sig α,
    (p.inr : Coroutine (runSig ρ) α).Calls (FetchesOwn request)
  | .ret _ => trivial
  | .raise _ => trivial
  | .call _ k => ⟨(fun _ h => nomatch h), fun x => calls_s3 (k x)⟩

theorem calls_raiseDocGen {S : Sig} {α : Type} {P : S.Op → Prop} (cls : DocGenErrorClass) (message : String) :
    (raiseDocGen cls message : Coroutine S α).Calls P := trivial

theorem checkFormat_calls (manifest : Manifest) (fmt : OutputFormat) :
    (checkFormat (storePorts ρ bucket sha256) manifest fmt).Calls (FetchesOwn request) := by
  unfold checkFormat
  split
  · exact calls_raiseDocGen _ _
  · refine calls_bind (fun renderer => ?_) (calls_port fun _ h => nomatch h)
    cases renderer with
    | none => exact calls_raiseDocGen _ _
    | some _ => exact calls_ret

theorem renderFormat_calls (bundle : TemplateBundle) (renderers : List (OutputFormat × ρ)) (fmt : OutputFormat) :
    (renderFormat (storePorts ρ bucket sha256) request bundle renderers fmt).Calls (FetchesOwn request) := by
  unfold renderFormat
  split
  · exact calls_raise
  · exact calls_port fun _ h => nomatch h

theorem processBundle_calls (bundle : TemplateBundle) :
    (processBundle (storePorts ρ bucket sha256) request generatedAt bundle).Calls (FetchesOwn request) := by
  refine calls_bind (fun renderers => ?_) (calls_forEach fun fmt _ => checkFormat_calls _ _)
  refine calls_bind (fun _ => ?_) (calls_port fun _ h => nomatch h)
  refine calls_bind (fun rendered => ?_) (calls_forEach fun fmt _ => renderFormat_calls _ _ _)
  exact calls_bind (fun _ => calls_ret) (calls_forEach fun art _ => calls_bind (fun _ => calls_ret) (calls_s3 _))

theorem exceptDocGenError_calls {P : (runSig ρ).Op → Prop} (version : Option String) (exc : Exc) :
    (exceptDocGenError request generatedAt version exc : Coroutine (runSig ρ) _).Calls P := by
  cases exc <;> trivial

theorem execution_calls : (execution ρ request bucket sha256 generatedAt).Calls (FetchesOwn request) := by
  refine calls_tryCatch (exceptDocGenError_calls none) (calls_bind (fun bundle => ?_) (calls_port ?_))
  · exact calls_tryCatch (exceptDocGenError_calls _) (processBundle_calls bundle)
  · intro uri h
    cases h
    rfl

/-- At each call of a run the service does what the world of its request does. -/
theorem sem_world {svc : Service ρ} {tr : List (Event (runSig ρ) Exc)} {op : (runSig ρ).Op}
    {k : (runSig ρ).Ans Exc op → Coroutine (runSig ρ) GenerationResult} {s u : ObjectStorage}
    {x : (runSig ρ).Ans Exc op} (h : Steps (execution ρ request bucket sha256 generatedAt) tr (.call op k))
    (hx : svc.sem op s x u) : (svc.world request).sem op s x u := by
  have hop : FetchesOwn request op := (h.calls execution_calls).1
  rcases op with op | op
  · refine ⟨?_, hx.2⟩
    cases op with
    | fetch uri =>
      intro b hb
      have huri : uri = request.templateUri := hop uri rfl
      rw [hx.1 b hb, huri]
      rfl
    | _ => exact hx.1
  · cases op <;> exact hx

end

/-! ### Any interleaving of the runs -/

namespace Service

variable {ρ : Type} (svc : Service ρ)

def key (request : GenerationRequest) (fmt : OutputFormat) : String := (svc.world request).key request fmt

def object (request : GenerationRequest) (fmt : OutputFormat) : Option StoredObject :=
  (svc.world request).object request fmt

/-- Some run may store the object under the key. -/
def Writes {ι : Type} (requests : ι → GenerationRequest) (k : String) (o : StoredObject) : Prop :=
  ∃ i, ∃ fmt ∈ (requests i).requestedFormats, svc.key (requests i) fmt = k ∧ svc.object (requests i) fmt = some o

/-- Runs that store under one key store one object. -/
def Consistent {ι : Type} (requests : ι → GenerationRequest) : Prop :=
  ∀ k o o', svc.Writes requests k o → svc.Writes requests k o' → o = o'

/-- The storage has only been written by the runs: every key of every bucket is
unchanged, or holds what a run stores there. -/
def Written {ι : Type} (requests : ι → GenerationRequest) (bucket : String) (s₀ s : ObjectStorage) : Prop :=
  ∀ b k, s b k = s₀ b k ∨ (b = bucket ∧ ∃ o, svc.Writes requests k o ∧ s b k = some o)

/-- What the runs have made of the storage. -/
structure Isolated (svc : Service ρ) {ι : Type} (requests : ι → GenerationRequest) (bucket : String)
    (sha256 : Bytes → String) (s₀ : ObjectStorage)
    (c : Threads (runSig ρ) Exc ι ObjectStorage GenerationResult) : Prop where
  written : svc.Written requests bucket s₀ c.shared
  /-- Once a run has returned SUCCESS, its keys hold the objects of its own
  request. -/
  stored : ∀ i result, c.thread i = .ret result → result.status = .success →
    ∀ fmt ∈ (requests i).requestedFormats, ∃ o, svc.object (requests i) fmt = some o ∧
      c.shared bucket (svc.key (requests i) fmt) = some o
  results : ∀ i result, c.thread i = .ret result → result.status = .success →
    result.artifacts.map Artifact.entry = (svc.world (requests i)).entries (requests i) bucket sha256
  /-- The size and the digest are those of the bytes stored at the URI. -/
  contents : ∀ i result, c.thread i = .ret result → result.status = .success →
    ∀ a ∈ result.artifacts, ∃ key o, a.uri = objectUri bucket key ∧ c.shared bucket key = some o ∧
      a.sizeBytes = o.body.length ∧ a.sha256 = sha256 o.body

end Service

/-- The runs of the requests, none of which has begun. -/
def requestRuns (ρ : Type) {ι : Type} (requests : ι → GenerationRequest) (bucket : String) (sha256 : Bytes → String)
    (generatedAt : ι → String) (s₀ : ObjectStorage) : Threads (runSig ρ) Exc ι ObjectStorage GenerationResult :=
  ⟨s₀, fun i => execution ρ (requests i) bucket sha256 (generatedAt i)⟩

section

variable {ρ ι : Type} {svc : Service ρ} {requests : ι → GenerationRequest} {bucket : String}
  {sha256 : Bytes → String} {generatedAt : String} {tr : List (Event (runSig ρ) Exc)}
  {p : Coroutine (runSig ρ) GenerationResult} {s₀ s u : ObjectStorage}

/-- What a run changes. -/
theorem Bucketed.change {w : World ρ} {request : GenerationRequest} (h : Bucketed w request bucket s u)
    (b k : String) : u b k = s b k ∨ (b = bucket ∧ ∃ fmt ∈ request.requestedFormats, ∃ o,
      w.key request fmt = k ∧ w.object request fmt = some o ∧ u b k = some o) := by
  by_cases hk : b = bucket ∧ ∃ fmt ∈ request.requestedFormats, k = w.key request fmt
  · obtain ⟨rfl, fmt, hF, rfl⟩ := hk
    rcases h.inside fmt hF with hs | ⟨o, ho, hs⟩
    · exact Or.inl hs
    · exact Or.inr ⟨rfl, fmt, hF, o, rfl, ho, hs⟩
  · exact Or.inl (h.outside b k fun hb fmt hF hkey => hk ⟨hb, fmt, hF, hkey⟩)

/-- An upload of a run is of a requested format. -/
theorem upload_requested {w : World ρ} {request : GenerationRequest}
    (h : Progress w request bucket sha256 generatedAt tr p s) {fmt : OutputFormat} {o : StoredObject}
    {e : Event (runSig ρ) Exc} (he : e ∈ tr) (hop : e.op = uploadOp w request bucket fmt o) :
    fmt ∈ request.requestedFormats := by
  obtain ⟨tr', r, hr, ha⟩ := h.steps.extend fun _ => .error (.other "Exception" "")
  have hall : ∀ e ∈ tr ++ tr', Admissible w e := fun e he =>
    (List.mem_append.mp he).elim (h.admissible e) fun he => admissible_error (ha e he)
  obtain ⟨fmt', hF, o', -, hop'⟩ := upload_origin hr hall (List.mem_append_left _ he) hop
  have hops := hop.symm.trans hop'
  injection hops with hops
  injection hops with _ hkey
  rw [w.key_injective request hkey]
  exact hF

/-- What another run changes leaves what this one has uploaded. -/
theorem Progress.change {w : World ρ} {request : GenerationRequest}
    (h : Progress w request bucket sha256 generatedAt tr p s)
    (hu : ∀ fmt ∈ request.requestedFormats, ∀ o, w.object request fmt = some o →
      u bucket (w.key request fmt) = s bucket (w.key request fmt) ∨ u bucket (w.key request fmt) = some o) :
    Progress w request bucket sha256 generatedAt tr p u where
  steps := h.steps
  admissible := h.admissible
  uploaded fmt o ho hup := by
    obtain ⟨e, he, hop, hok⟩ := hup
    rcases hu fmt (upload_requested h he hop) o ho with hsame | hnew
    · rw [hsame]
      exact h.uploaded fmt o ho ⟨e, he, hop, hok⟩
    · exact hnew

/-- A call of one run keeps what is written by runs, leads to its next point,
and leaves every other run where it is. -/
theorem isolated_step (hc : svc.Consistent requests) {i : ι} {op : (runSig ρ).Op}
    {k : (runSig ρ).Ans Exc op → Coroutine (runSig ρ) GenerationResult} {x : (runSig ρ).Ans Exc op}
    (hI : svc.Written requests bucket s₀ s)
    (h : Progress (svc.world (requests i)) (requests i) bucket sha256 generatedAt tr (.call op k) s)
    (hx : svc.sem op s x u) :
    svc.Written requests bucket s₀ u ∧
      Progress (svc.world (requests i)) (requests i) bucket sha256 generatedAt (tr ++ [⟨op, x⟩]) (k x) u ∧
      ∀ j at' tr' p', Progress (svc.world (requests j)) (requests j) bucket sha256 at' tr' p' s →
        Progress (svc.world (requests j)) (requests j) bucket sha256 at' tr' p' u := by
  have hsame : Bucketed (svc.world (requests i)) (requests i) bucket s s :=
    ⟨fun _ _ _ => rfl, fun _ _ => Or.inl rfl⟩
  obtain ⟨hb, hnext, -⟩ := progress_step hsame h (sem_world h.steps hx)
  refine ⟨fun b key => ?_, hnext, fun j at' tr' p' hj => hj.change fun fmt hF o ho => ?_⟩
  · rcases hb.change b key with hu | ⟨rfl, fmt, hF, o, hkey, ho, hu⟩
    · rw [hu]
      exact hI b key
    · exact Or.inr ⟨rfl, o, ⟨i, fmt, hF, hkey, ho⟩, hu⟩
  · rcases hb.change bucket ((svc.world (requests j)).key (requests j) fmt) with hu | ⟨-, f, hf, o', hkey, ho', hu⟩
    · exact Or.inl hu
    · have hoo : o' = o := hc _ o' o ⟨i, f, hf, hkey, ho'⟩ ⟨j, fmt, hF, rfl, ho⟩
      exact Or.inr (hoo ▸ hu)

variable [DecidableEq ι] {at' : ι → String} {c c' : Threads (runSig ρ) Exc ι ObjectStorage GenerationResult}

theorem isolated_of_reach (hc : svc.Consistent requests)
    (h : Threads.Reach svc.sem (fun _ => false) (requestRuns ρ requests bucket sha256 at' s₀) c) :
    svc.Isolated requests bucket sha256 s₀ c := by
  have hgood : Threads.Good (svc.Written requests bucket s₀)
      (fun i (_ : Unit) p s => ∃ tr,
        Progress (svc.world (requests i)) (requests i) bucket sha256 (at' i) tr p s)
      (fun _ _ => True) c := by
    refine Threads.invariant (fun _ _ _ => trivial) ?_ ?_ h
    · intro i _ op k s x u q v hI hT hx hq
      obtain ⟨tr, hT⟩ := hT
      obtain ⟨rfl, rfl⟩ := block_none.mp hq
      obtain ⟨hI', hT', hother⟩ := isolated_step hc hI hT hx
      exact ⟨hI', (), ⟨_, hT'⟩, fun j _ r _ _ ⟨tr', h'⟩ => ⟨⟨tr', hother _ _ _ _ h'⟩, trivial⟩⟩
    · refine ⟨fun _ _ => Or.inl rfl, fun _ => (), fun i => ⟨[], .nil, List.forall_mem_nil _, ?_⟩,
        fun _ _ _ => trivial⟩
      rintro _ _ _ ⟨e, he, -⟩
      cases he
  obtain ⟨hI, _, hT, -⟩ := hgood
  have hsucc : ∀ i result, c.thread i = .ret result → result.status = .success →
      (∀ fmt ∈ (requests i).requestedFormats, ∃ o, svc.object (requests i) fmt = some o ∧
        c.shared bucket (svc.key (requests i) fmt) = some o) ∧
      result.artifacts.map Artifact.entry = (svc.world (requests i)).entries (requests i) bucket sha256 := by
    intro i result hi hs
    obtain ⟨tr, hP⟩ := hT i
    rw [hi] at hP
    exact hP.success hs
  refine ⟨hI, fun i result hi hs => (hsucc i result hi hs).1, fun i result hi hs => (hsucc i result hi hs).2,
    fun i result hi hs a ha => ?_⟩
  obtain ⟨hst, hent⟩ := hsucc i result hi hs
  obtain ⟨fmt, hF, o, ho, he⟩ := mem_entries (hent ▸ List.mem_map_of_mem ha :
    a.entry ∈ (svc.world (requests i)).entries (requests i) bucket sha256)
  obtain ⟨o', ho', hso⟩ := hst fmt hF
  obtain rfl : o = o' := Option.some.inj (ho.symm.trans ho')
  simp only [Artifact.entry, Prod.mk.injEq] at he
  exact ⟨_, o, he.1, hso, he.2.1, he.2.2⟩

/-- **Requests are isolated.** In every state that any interleaving of any
number of runs of any requests reaches, if runs that store under one key store
one object: every key holds its initial object or what a run stores there, and
a run that has returned SUCCESS has the objects of its own request under its
keys, with the sizes and digests it lists, whatever the other runs go on to
do. -/
theorem requests_isolated (hc : svc.Consistent requests)
    (h : Threads.Reach svc.sem (fun _ => false) (requestRuns ρ requests bucket sha256 at' s₀) c) :
    svc.Isolated requests bucket sha256 s₀ c ∧
    ∀ i result, c.thread i = .ret result → result.status = .success →
      ∀ c', Threads.Reach svc.sem (fun _ => false) c c' →
        ∀ fmt ∈ (requests i).requestedFormats, ∃ o, svc.object (requests i) fmt = some o ∧
          c'.shared bucket (svc.key (requests i) fmt) = some o := by
  refine ⟨isolated_of_reach hc h, fun i result hi hs c' hc' => ?_⟩
  exact (isolated_of_reach hc (h.trans hc')).stored i result (Threads.ret_of_reach hc' hi) hs

end

/-! ### Prefixes that keep requests apart -/

/-- Keys of templates whose file names have no directory are equal only under
prefixes that differ in trailing slashes. -/
theorem prefix_of_key_eq {m m' : Manifest} {p q : String} {f g : OutputFormat}
    (hm : '/' ∉ m.resolveOutputBasename.toList) (hm' : '/' ∉ m'.resolveOutputBasename.toList)
    (h : buildObjectKey p (m.filenameFor f) = buildObjectKey q (m'.filenameFor g)) :
    rstrip '/' p = rstrip '/' q := by
  have hdir : ∀ {m : Manifest} (p : String) (f : OutputFormat), '/' ∉ m.resolveOutputBasename.toList →
      (rpartition '/' (buildObjectKey p (m.filenameFor f))).1 = rstrip '/' p := by
    intro m p f hm
    have hname : '/' ∉ (lstrip '/' (m.filenameFor f)).toList := by
      rw [toList_lstrip]
      intro hmem
      have hmem := (List.dropWhile_sublist _).subset hmem
      simp only [Manifest.filenameFor, String.toList_append, List.mem_append] at hmem
      rcases hmem with (hmem | hmem) | hmem
      · exact hm hmem
      · revert hmem
        decide
      · revert hmem
        cases f <;> decide
    exact congrArg Prod.fst (rpartition_append '/' (rstrip '/' p) hname)
  rw [← hdir p f hm, ← hdir q g hm', h]

/-- Requests whose prefixes differ by more than trailing slashes are
consistent, and so are runs of one request. -/
theorem consistent_of_prefixes {ρ ι : Type} {svc : Service ρ} {requests : ι → GenerationRequest}
    (hname : ∀ i, '/' ∉ (svc.template (requests i).templateUri).manifest.resolveOutputBasename.toList)
    (hp : ∀ i j, rstrip '/' (requests i).keyPrefix = rstrip '/' (requests j).keyPrefix →
      requests i = requests j) : svc.Consistent requests := by
  rintro k o o' ⟨i, f, -, hkey, ho⟩ ⟨j, g, -, hkey', ho'⟩
  have hprefix := prefix_of_key_eq (hname i) (hname j) (hkey.trans hkey'.symm)
  rw [hp i j hprefix] at hkey ho
  have hfmt : f = g := (svc.world (requests j)).key_injective (requests j) (hkey.trans hkey'.symm)
  rw [hfmt, ho'] at ho
  exact (Option.some.inj ho).symm

/-! ### Two callers -/

/-- A service with one template, whose renderer prints a fixed page. -/
def invoiceService : Service Unit where
  template _ := invoiceBundle
  registry _ _ := some ()
  render _ bundle _ fmt _ := ⟨fmt, bundle.manifest.filenameFor fmt, [37, 80, 68, 70]⟩
  filename _ _ _ _ _ := rfl

/-- The request under another prefix. -/
def requestUnder (keyPrefix : String) (h : keyPrefix ≠ "") : GenerationRequest :=
  { makeRequest with keyPrefix := keyPrefix, keyPrefix_ne := h }

/-- Every such request succeeds, whatever is in the storage. -/
theorem exec_requestUnder (keyPrefix : String) (h : keyPrefix ≠ "") (s : ObjectStorage) :
    ∃ result t, result.status = .success ∧ (execution Unit (requestUnder keyPrefix h) "outputs" (fun _ => "digest")
      "2026-06-18T00:00:00+00:00").Exec invoiceService.sem s (.ok result) t := by
  refine ⟨_, _, ?_, .ok invoiceBundle, _, ⟨?_, rfl⟩, .ok (some ()), _, ⟨?_, rfl⟩, .ok (), _,
    ⟨trivial, rfl⟩, .ok ⟨.pdf, "invoice.pdf", [37, 80, 68, 70]⟩, _, ⟨?_, rfl⟩, .ok (), _, Or.inl rfl,
    rfl, rfl⟩
  · rfl
  all_goals intro _ h; cases h; rfl

def twoCallers : Bool → GenerationRequest
  | true => requestUnder "billing/" (by decide)
  | false => requestUnder "sales/" (by decide)

theorem twoCallers_consistent : invoiceService.Consistent twoCallers := by
  refine consistent_of_prefixes (fun i => ?_) fun i j h => ?_
  · cases i <;> decide
  · revert h
    cases i <;> cases j
    · exact fun _ => rfl
    · exact fun h => absurd h (by decide)
    · exact fun h => absurd h (by decide)
    · exact fun _ => rfl

/-- Both succeed, and each has its object under its key. -/
theorem requests_isolated_two : ∃ c : Threads (runSig Unit) Exc Bool ObjectStorage GenerationResult,
    (∀ b, ∃ result, c.thread b = .ret result ∧ result.status = .success) ∧
    invoiceService.Isolated twoCallers "outputs" (fun _ => "digest") (fun _ _ => none) c := by
  obtain ⟨result, s, hs, hx⟩ := exec_requestUnder "billing/" (by decide) fun _ _ => none
  obtain ⟨result', s', hs', hx'⟩ := exec_requestUnder "sales/" (by decide) s
  have h₁ : Threads.Reach invoiceService.sem (fun _ => false) (requestRuns Unit twoCallers "outputs"
      (fun _ => "digest") (fun _ : Bool => "2026-06-18T00:00:00+00:00") fun _ _ => none) _ :=
    Threads.reach_exec (fun _ => false) (i := true) hx rfl
  have h₂ := h₁.trans (Threads.reach_exec (fun _ => false) (i := false) hx' rfl)
  refine ⟨_, fun b => ?_, (requests_isolated twoCallers_consistent h₂).1⟩
  cases b
  · exact ⟨result', by simp, hs'⟩
  · exact ⟨result, by simp, hs⟩

end DocGen
