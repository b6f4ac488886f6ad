/-
# What one processing of a request does

The pipeline makes its calls in five phases: fetch, one lookup for each
requested format, validate, one render for each format, one put for each
artifact. A run stops in one of them or goes through all (`BundleRun`,
`process_request_runs`); a call that raises is the last one. All-or-nothing
(`process_request_all_or_nothing`) is read off the phases.
-/
import DocGen.Handling
import DocGen.Lib.Lists

namespace DocGen

open Prog

namespace PortOp

variable {ρ : Type}

def isFetch : PortOp ρ → Bool
  | .fetch _ => true
  | _ => false

def isRun : PortOp ρ → Bool
  | .run _ _ _ _ _ => true
  | _ => false

def isPut : PortOp ρ → Bool
  | .put _ _ _ _ => true
  | _ => false

end PortOp

/-- A list of port calls with their answers. -/
abbrev PortTrace (ρ : Type) : Type := List (Event (portSig ρ) Exc)

/-! ### The phases -/

section

variable {ρ : Type} (request : GenerationRequest) (generatedAt : String) (bundle : TemplateBundle)

def fetched : Event (portSig ρ) Exc := ⟨.fetch request.templateUri, .ok bundle⟩

/-- The registry has the renderer `x.2` for the format `x.1`. -/
def found (x : OutputFormat × ρ) : Event (portSig ρ) Exc :=
  ⟨.get bundle.manifest.engine x.1, .ok (some x.2)⟩

def validated : Event (portSig ρ) Exc :=
  ⟨.validate request.data bundle.manifest.requiredFields, .ok ()⟩

/-- The render call of a format and its renderer. -/
def runOp (x : OutputFormat × ρ) : PortOp ρ :=
  .run x.2 bundle request.data x.1 request.options.locale

/-- That call, answered by the artifact. -/
def rendered (z : (OutputFormat × ρ) × RenderedArtifact) : Event (portSig ρ) Exc :=
  ⟨runOp request bundle z.1, .ok z.2⟩

/-- The call that stores an artifact. -/
def putOp (art : RenderedArtifact) : PortOp ρ :=
  .put (buildObjectKey request.keyPrefix art.filename) art.content art.contentType
    request.options.presignTtl

/-- That call, answered by the object stored. -/
def stored (z : RenderedArtifact × StoredArtifact) : Event (portSig ρ) Exc :=
  ⟨putOp request z.1, .ok z.2⟩

/-- The result's entry for an artifact and what `put` returned for it. -/
def resultArtifact (z : RenderedArtifact × StoredArtifact) : Artifact where
  format := z.1.format
  uri := z.2.uri
  presignedUrl := z.2.presignedUrl
  sizeBytes := z.2.sizeBytes
  sha256 := z.2.sha256

/-- What an exception ends the request with: a failed result for a
`DocGenError`, itself for any other. -/
def caught (templateVersion : Option String) : Exc → Except Exc GenerationResult
  | .docGen exc => .ok (failureFromError request exc generatedAt templateVersion)
  | exc => .error exc

/-- The format check passed, with these renderers. -/
structure Checked (renderers : List (OutputFormat × ρ)) : Prop where
  formats : renderers.map Prod.fst = request.requestedFormats
  supported : ∀ x ∈ renderers, x.1 ∈ bundle.manifest.supportedFormats

/-- The calls up to the validation gate. -/
def gate (renderers : List (OutputFormat × ρ)) : PortTrace ρ :=
  fetched request bundle :: (renderers.map (found bundle) ++ [validated request bundle])

/-- The runs of the pipeline once the template is fetched, by the phase they
stop in. The trace starts with the fetch. -/
inductive BundleRun : PortTrace ρ → Except Exc GenerationResult → Prop
  | unsupported (renderers : List (OutputFormat × ρ)) (fmt : OutputFormat) (post : List OutputFormat)
      (message : String) (hF : request.requestedFormats = renderers.map Prod.fst ++ fmt :: post)
      (hfmt : fmt ∉ bundle.manifest.supportedFormats) :
      BundleRun (fetched request bundle :: renderers.map (found bundle))
        (.error (.docGen ⟨.unsupportedFormatError, message⟩))
  | noRenderer (renderers : List (OutputFormat × ρ)) (fmt : OutputFormat) (post : List OutputFormat)
      (message : String) (hF : request.requestedFormats = renderers.map Prod.fst ++ fmt :: post) :
      BundleRun (fetched request bundle :: (renderers.map (found bundle) ++
          [⟨.get bundle.manifest.engine fmt, .ok none⟩]))
        (.error (.docGen ⟨.unsupportedFormatError, message⟩))
  | getRaised (renderers : List (OutputFormat × ρ)) (fmt : OutputFormat) (exc : Exc) :
      BundleRun (fetched request bundle :: (renderers.map (found bundle) ++
        [⟨.get bundle.manifest.engine fmt, .error exc⟩])) (.error exc)
  | validateRaised (renderers : List (OutputFormat × ρ)) (exc : Exc) :
      BundleRun (fetched request bundle :: (renderers.map (found bundle) ++
        [⟨.validate request.data bundle.manifest.requiredFields, .error exc⟩])) (.error exc)
  | runRaised (renderers : List (OutputFormat × ρ)) (hc : Checked request bundle renderers)
      (arts : List ((OutputFormat × ρ) × RenderedArtifact)) (x : OutputFormat × ρ) (exc : Exc) :
      BundleRun (gate request bundle renderers ++ (arts.map (rendered request bundle) ++
        [⟨runOp request bundle x, .error exc⟩])) (.error exc)
  | putRaised (arts : List ((OutputFormat × ρ) × RenderedArtifact))
      (hc : Checked request bundle (arts.map Prod.fst))
      (puts : List (RenderedArtifact × StoredArtifact)) (art : RenderedArtifact)
      (post : List RenderedArtifact) (exc : Exc)
      (hA : arts.map Prod.snd = puts.map Prod.fst ++ art :: post) :
      BundleRun (gate request bundle (arts.map Prod.fst) ++ (arts.map (rendered request bundle) ++
        (puts.map (stored request) ++ [⟨putOp request art, .error exc⟩]))) (.error exc)
  | done (arts : List ((OutputFormat × ρ) × RenderedArtifact))
      (hc : Checked request bundle (arts.map Prod.fst))
      (puts : List (RenderedArtifact × StoredArtifact))
      (hA : puts.map Prod.fst = arts.map Prod.snd) :
      BundleRun (gate request bundle (arts.map Prod.fst) ++ (arts.map (rendered request bundle) ++
        puts.map (stored request)))
        (.ok (successResult request (puts.map resultArtifact) bundle.manifest.version generatedAt))

end

/-! ### A run is one of the phases -/

section

variable {ρ : Type} {request : GenerationRequest} {generatedAt : String} {bundle : TemplateBundle}
  {tr : PortTrace ρ}

/-- One turn of the format check. -/
theorem check_format_runs {fmt : OutputFormat} {r : Except Exc (OutputFormat × ρ)}
    (h : (checkFormat (Ports.calls ρ) bundle.manifest fmt).Runs tr r) :
    (∃ renderer, r = .ok (fmt, renderer) ∧ fmt ∈ bundle.manifest.supportedFormats ∧
      tr = [found bundle (fmt, renderer)]) ∨
    (∃ message, r = .error (.docGen ⟨.unsupportedFormatError, message⟩) ∧
      fmt ∉ bundle.manifest.supportedFormats ∧ tr = []) ∨
    (∃ message, r = .error (.docGen ⟨.unsupportedFormatError, message⟩) ∧
      tr = [⟨.get bundle.manifest.engine fmt, .ok none⟩]) ∨
    ∃ exc, r = .error exc ∧ tr = [⟨.get bundle.manifest.engine fmt, .error exc⟩] := by
  unfold checkFormat at h
  split at h
  · rename_i hfmt
    obtain ⟨rfl, rfl⟩ := h
    exact Or.inr (Or.inl ⟨_, rfl, hfmt, rfl⟩)
  · rename_i hfmt
    rcases runs_perform_bind.mp h with ⟨exc, rfl, rfl⟩ | ⟨renderer, tr', rfl, h'⟩
    · exact Or.inr (Or.inr (Or.inr ⟨exc, rfl, rfl⟩))
    · rcases renderer with _ | renderer
      · obtain ⟨rfl, rfl⟩ := h'
        exact Or.inr (Or.inr (Or.inl ⟨_, rfl, rfl⟩))
      · obtain ⟨rfl, rfl⟩ := h'
        exact Or.inl ⟨renderer, rfl, not_not.mp hfmt, rfl⟩

/-- The format check passed. -/
theorem all_checked {fmts : List OutputFormat} {renderers : List (OutputFormat × ρ)}
    (h : AllRun (checkFormat (Ports.calls ρ) bundle.manifest) fmts tr renderers) :
    renderers.map Prod.fst = fmts ∧ (∀ x ∈ renderers, x.1 ∈ bundle.manifest.supportedFormats) ∧
      tr = renderers.map (found bundle) := by
  have hturn : ∀ fmt y t, (checkFormat (Ports.calls ρ) bundle.manifest fmt).Runs t (.ok y) →
      ∃ z : OutputFormat × ρ, z.1 = fmt ∧ id z = y ∧ z.1 ∈ bundle.manifest.supportedFormats ∧
        t = [found bundle z] := by
    intro fmt y t ht
    rcases check_format_runs ht with ⟨renderer, hy, hs, rfl⟩ | ⟨_, hy, _⟩ | ⟨_, hy, _⟩ | ⟨_, hy, _⟩
    · cases hy
      exact ⟨_, rfl, rfl, hs, rfl⟩
    all_goals cases hy
  obtain ⟨zs, rfl, hz, hQ, rfl⟩ := AllRun.collect Prod.fst id _ (found bundle) hturn h
  rw [List.map_id] at hz
  subst hz
  exact ⟨rfl, hQ, rfl⟩

/-- With distinct formats, the subscript finds each entry of `renderers`, so the
render loop calls the renderer of each entry in turn. -/
theorem render_loop {renderers : List (OutputFormat × ρ)} (hc : Checked request bundle renderers) :
    forEach (renderFormat (Ports.calls ρ) request bundle renderers) request.requestedFormats =
      forEach (fun x => Prog.perform (S := portSig ρ) (runOp request bundle x)) renderers := by
  have hnd : (renderers.map Prod.fst).Nodup := hc.formats ▸ request.requestedFormats_nodup
  rw [← hc.formats, forEach_map]
  refine forEach_congr fun x hx => ?_
  rw [renderFormat, lookup_of_mem hnd hx]
  rfl

theorem all_rendered {xs : List (OutputFormat × ρ)} {arts : List RenderedArtifact}
    (h : AllRun (fun x => Prog.perform (S := portSig ρ) (runOp request bundle x)) xs tr arts) :
    ∃ zs : List ((OutputFormat × ρ) × RenderedArtifact), zs.map Prod.fst = xs ∧
      zs.map Prod.snd = arts ∧ tr = zs.map (rendered request bundle) := by
  obtain ⟨zs, h₁, h₂, -, h₃⟩ := AllRun.collect Prod.fst Prod.snd (fun _ => True)
    (rendered request bundle)
    (fun x art t ht => ⟨(x, art), rfl, rfl, trivial, runs_perform.mp ht⟩) h
  exact ⟨zs, h₁, h₂, h₃⟩

/-- One turn of the store loop. -/
theorem store_artifact_runs {art : RenderedArtifact} {r : Except Exc Artifact}
    (h : (storeArtifact (Ports.calls ρ) request art).Runs tr r) :
    (∃ st, r = .ok (resultArtifact (art, st)) ∧ tr = [stored request (art, st)]) ∨
    ∃ exc, r = .error exc ∧ tr = [⟨putOp request art, .error exc⟩] := by
  rcases runs_perform_bind.mp h with ⟨exc, rfl, rfl⟩ | ⟨st, tr', rfl, rfl, rfl⟩
  · exact Or.inr ⟨exc, rfl, rfl⟩
  · exact Or.inl ⟨st, rfl, rfl⟩

theorem all_stored {arts : List RenderedArtifact} {artifacts : List Artifact}
    (h : AllRun (storeArtifact (Ports.calls ρ) request) arts tr artifacts) :
    ∃ zs : List (RenderedArtifact × StoredArtifact), zs.map Prod.fst = arts ∧
      zs.map resultArtifact = artifacts ∧ tr = zs.map (stored request) := by
  have hturn : ∀ art y t, (storeArtifact (Ports.calls ρ) request art).Runs t (.ok y) →
      ∃ z : RenderedArtifact × StoredArtifact, z.1 = art ∧ resultArtifact z = y ∧ True ∧
        t = [stored request z] := by
    intro art y t ht
    rcases store_artifact_runs ht with ⟨st, hy, rfl⟩ | ⟨_, hy, _⟩
    · cases hy
      exact ⟨(art, st), rfl, rfl, trivial, rfl⟩
    · cases hy
  obtain ⟨zs, h₁, h₂, -, h₃⟩ := AllRun.collect Prod.fst resultArtifact (fun _ => True)
    (stored request) hturn h
  exact ⟨zs, h₁, h₂, h₃⟩

theorem fetched_gate (renderers : List (OutputFormat × ρ)) (l : PortTrace ρ) :
    fetched request bundle :: (renderers.map (found bundle) ++
        ⟨.validate request.data bundle.manifest.requiredFields, .ok ()⟩ :: l) =
      gate request bundle renderers ++ l := by
  simp [gate, validated]

/-- The phases after the fetch are those of `BundleRun`. -/
theorem process_bundle_runs {r : Except Exc GenerationResult}
    (h : (processBundle (Ports.calls ρ) request generatedAt bundle).Runs tr r) :
    BundleRun request generatedAt bundle (fetched request bundle :: tr) r := by
  unfold processBundle at h
  rcases runs_bind.mp h with ⟨exc, rfl, hloop⟩ | ⟨renderers, tr₁, tr₂, rfl, hloop, h₁⟩
  · -- the format check raised in some turn
    rcases runs_forEach hloop with ⟨_, hr, -⟩ | ⟨pre, fmt, post, rs, t₁, t₂, e, hF, rfl, hpre, hturn, hr⟩
    · cases hr
    cases hr
    obtain ⟨rfl, -, rfl⟩ := all_checked hpre
    rcases check_format_runs hturn with ⟨_, hr, -⟩ | ⟨message, hr, hfmt, rfl⟩ | ⟨message, hr, rfl⟩ |
      ⟨e', hr, rfl⟩ <;> cases hr
    · rw [List.append_nil]
      exact .unsupported rs fmt post message hF hfmt
    · exact .noRenderer rs fmt post message hF
    · exact .getRaised rs fmt exc
  obtain ⟨hfmts, hsup, rfl⟩ := all_checked (all_of_returns hloop)
  have hc : Checked request bundle renderers := ⟨hfmts, hsup⟩
  rcases runs_perform_bind.mp h₁ with ⟨exc, rfl, rfl⟩ | ⟨⟨⟩, tr₃, rfl, h₂⟩
  · exact .validateRaised renderers exc
  rw [render_loop hc] at h₂
  rcases runs_bind.mp h₂ with ⟨exc, rfl, hloop⟩ | ⟨arts, tr₄, tr₅, rfl, hloop, h₃⟩
  · -- a render raised
    rcases runs_forEach hloop with ⟨_, hr, -⟩ | ⟨pre, x, post, as, t₁, t₂, e, hF, rfl, hpre, hturn, hr⟩
    · cases hr
    cases hr
    obtain ⟨zs, rfl, -, rfl⟩ := all_rendered hpre
    obtain rfl := runs_perform.mp hturn
    rw [fetched_gate]
    exact .runRaised renderers hc zs x exc
  obtain ⟨zs, rfl, rfl, rfl⟩ := all_rendered (all_of_returns hloop)
  rcases runs_bind.mp h₃ with ⟨exc, rfl, hloop⟩ | ⟨artifacts, tr₆, tr₇, rfl, hloop, rfl, rfl⟩
  · -- a put raised
    rcases runs_forEach hloop with ⟨_, hr, -⟩ | ⟨pre, art, post, as, t₁, t₂, e, hF, rfl, hpre, hturn, hr⟩
    · cases hr
    cases hr
    obtain ⟨ps, rfl, -, rfl⟩ := all_stored hpre
    rcases store_artifact_runs hturn with ⟨_, hr, -⟩ | ⟨e', hr, rfl⟩
    · cases hr
    cases hr
    rw [fetched_gate]
    exact .putRaised zs hc ps art post exc hF
  obtain ⟨ps, hps, rfl, rfl⟩ := all_stored (all_of_returns hloop)
  rw [fetched_gate, List.append_nil]
  exact .done zs hc ps hps

theorem except_doc_gen_error_runs {version : Option String} {exc : Exc}
    {r : Except Exc GenerationResult} :
    (exceptDocGenError request generatedAt version exc : Coroutine (portSig ρ) _).Runs tr r ↔
      tr = [] ∧ r = caught request generatedAt version exc := by
  cases exc <;> exact Iff.rfl

/-- What a run after the fetch ends the request with. -/
def finish (request : GenerationRequest) (generatedAt : String) (bundle : TemplateBundle) :
    Except Exc GenerationResult → Except Exc GenerationResult
  | .ok result => .ok result
  | .error exc => caught request generatedAt (some bundle.manifest.version) exc

/-- An exception that passes the inner `except` passes the outer one. -/
theorem caught_of_error {version v : Option String} {exc exc' : Exc}
    (h : caught request generatedAt version exc = .error exc') :
    caught request generatedAt v exc' = .error exc' := by
  cases exc <;> cases h <;> rfl

/-- A run of the pipeline is a fetch that raises, or one of the phases. -/
theorem process_request_runs {r : Except Exc GenerationResult}
    (h : (processRequest (Ports.calls ρ) request generatedAt).Runs tr r) :
    (∃ exc, tr = [⟨.fetch request.templateUri, .error exc⟩] ∧
      r = caught request generatedAt none exc) ∨
    ∃ bundle r', BundleRun request generatedAt bundle tr r' ∧
      r = finish request generatedAt bundle r' := by
  have hinner : ∀ {bundle tr r}, ((processBundle (Ports.calls ρ) request generatedAt bundle).tryCatch
      (exceptDocGenError request generatedAt (some bundle.manifest.version))).Runs tr r →
      ∃ r', BundleRun request generatedAt bundle (fetched request bundle :: tr) r' ∧
        r = finish request generatedAt bundle r' := by
    intro bundle tr r h
    rcases runs_tryCatch.mp h with ⟨result, rfl, hr⟩ | ⟨exc, tr₁, tr₂, rfl, hr, he⟩
    · exact ⟨_, process_bundle_runs hr, rfl⟩
    · obtain ⟨rfl, rfl⟩ := except_doc_gen_error_runs.mp he
      rw [List.append_nil]
      exact ⟨_, process_bundle_runs hr, rfl⟩
  rcases runs_tryCatch.mp h with ⟨result, rfl, hr⟩ | ⟨exc, tr₁, tr₂, rfl, hr, he⟩
  · rcases runs_perform_bind.mp hr with ⟨_, he, _⟩ | ⟨bundle, tr', rfl, h₁⟩
    · cases he
    · obtain ⟨r', hb, hr'⟩ := hinner h₁
      exact Or.inr ⟨bundle, r', hb, hr'⟩
  · obtain ⟨rfl, rfl⟩ := except_doc_gen_error_runs.mp he
    rw [List.append_nil]
    rcases runs_perform_bind.mp hr with ⟨_, he, rfl⟩ | ⟨bundle, tr', rfl, h₁⟩
    · cases he
      exact Or.inl ⟨exc, rfl, rfl⟩
    · obtain ⟨r', hb, hr'⟩ := hinner h₁
      refine Or.inr ⟨bundle, r', hb, ?_⟩
      -- only an exception that is no `DocGenError` gets here
      rcases r' with exc' | result
      · exact (caught_of_error hr'.symm).trans hr'
      · cases hr'

/-! ### All or nothing -/

theorem forall_gate {p : Event (portSig ρ) Exc → Prop} {renderers : List (OutputFormat × ρ)}
    (hf : p (fetched request bundle)) (hg : ∀ x ∈ renderers, p (found bundle x))
    (hv : p (validated request bundle)) : ∀ e ∈ gate request bundle renderers, p e := by
  intro e he
  rcases List.mem_cons.mp he with rfl | he
  · exact hf
  rcases List.mem_append.mp he with he | he
  · obtain ⟨x, hx, rfl⟩ := List.mem_map.mp he
    exact hg x hx
  · obtain rfl := List.mem_singleton.mp he
    exact hv

theorem gate_not_run {renderers : List (OutputFormat × ρ)} :
    ∀ e ∈ gate request bundle renderers, ¬ e.op.isRun :=
  forall_gate Bool.false_ne_true (fun _ _ => Bool.false_ne_true) Bool.false_ne_true

theorem gate_not_put {renderers : List (OutputFormat × ρ)} :
    ∀ e ∈ gate request bundle renderers, ¬ e.op.isPut :=
  forall_gate Bool.false_ne_true (fun _ _ => Bool.false_ne_true) Bool.false_ne_true

theorem gate_ok {renderers : List (OutputFormat × ρ)} :
    ∀ e ∈ gate request bundle renderers, e.Ok :=
  forall_gate Event.ok_mk (fun _ _ => Event.ok_mk) Event.ok_mk

theorem rendered_not_put {arts : List ((OutputFormat × ρ) × RenderedArtifact)} :
    ∀ e ∈ arts.map (rendered request bundle), ¬ e.op.isPut :=
  List.forall_mem_map.mpr fun _ _ => Bool.false_ne_true

theorem rendered_ok {arts : List ((OutputFormat × ρ) × RenderedArtifact)} :
    ∀ e ∈ arts.map (rendered request bundle), e.Ok :=
  List.forall_mem_map.mpr fun _ _ => Event.ok_mk

theorem stored_ok {puts : List (RenderedArtifact × StoredArtifact)} :
    ∀ e ∈ (puts.map (stored request) : PortTrace ρ), e.Ok :=
  List.forall_mem_map.mpr fun _ _ => Event.ok_mk

theorem forall_append {p : Event (portSig ρ) Exc → Prop} {l m : PortTrace ρ} (hl : ∀ e ∈ l, p e)
    (hm : ∀ e ∈ m, p e) : ∀ e ∈ l ++ m, p e := by
  intro e he
  exact (List.mem_append.mp he).elim (hl e) (hm e)

/-- The support check passed in a run with the calls `tr`. -/
def Supported (request : GenerationRequest) (tr : PortTrace ρ) : Prop :=
  ∃ bundle renderers, fetched request bundle ∈ tr ∧ Checked request bundle renderers ∧
    ∀ x ∈ renderers, found bundle x ∈ tr

/-- The support check failed in a run with the calls `tr`. -/
def Unsupported (request : GenerationRequest) (tr : PortTrace ρ) : Prop :=
  ∃ bundle fmt, fetched request bundle ∈ tr ∧ fmt ∈ request.requestedFormats ∧
    (fmt ∉ bundle.manifest.supportedFormats ∨
      (⟨.get bundle.manifest.engine fmt, .ok none⟩ : Event (portSig ρ) Exc) ∈ tr)

/-- The calls of a run up to the one that raises, if any does. -/
inductive Ended (request : GenerationRequest) (generatedAt : String) (bundle : TemplateBundle) :
    PortTrace ρ → Except Exc GenerationResult → Prop
  | raised {body : PortTrace ρ} (hok : ∀ e ∈ body, e.Ok) (hf : fetched request bundle ∈ body)
      (op : PortOp ρ) (exc : Exc) :
      Ended request generatedAt bundle (body ++ [⟨op, .error exc⟩]) (.error exc)
  | refused {body : PortTrace ρ} (hok : ∀ e ∈ body, e.Ok) (hf : fetched request bundle ∈ body)
      (hu : Unsupported request body) (hs : ¬ Supported request body) (message : String) :
      Ended request generatedAt bundle body (.error (.docGen ⟨.unsupportedFormatError, message⟩))
  | done {body : PortTrace ρ} (hok : ∀ e ∈ body, e.Ok) (hf : fetched request bundle ∈ body)
      (hs : Supported request body) (artifacts : List Artifact) :
      Ended request generatedAt bundle body
        (.ok (successResult request artifacts bundle.manifest.version generatedAt))

/-- The lookups of a prefix of the formats do not pass the check. -/
theorem not_supported {renderers : List (OutputFormat × ρ)} {fmt : OutputFormat}
    {post : List OutputFormat} {tl : PortTrace ρ}
    (hF : request.requestedFormats = renderers.map Prod.fst ++ fmt :: post)
    (htl : ∀ e ∈ tl, ∀ b x, e ≠ found b x ∧ e ≠ fetched request b) :
    ¬ Supported request (fetched request bundle :: (renderers.map (found bundle) ++ tl)) := by
  rintro ⟨b, rs, hb, hc, hx⟩
  have hfmt : fmt ∈ rs.map Prod.fst := by rw [hc.formats, hF]; simp
  obtain ⟨x, hxr, rfl⟩ := List.mem_map.mp hfmt
  have hnd := request.requestedFormats_nodup
  rw [hF, List.nodup_append] at hnd
  rcases List.mem_cons.mp (hx x hxr) with he | he
  · cases he
  rcases List.mem_append.mp he with he | he
  · obtain ⟨y, hy, he⟩ := List.mem_map.mp he
    have hxy : y.1 = x.1 := by
      injection he with h₁ h₂
      injection h₁
    exact hnd.2.2 _ (List.mem_map_of_mem hy) _ List.mem_cons_self hxy
  · exact (htl _ he b x).1 rfl

/-- What holds of the fetch and of each lookup holds up to the gate. -/
theorem forall_lookups {p : Event (portSig ρ) Exc → Prop} {renderers : List (OutputFormat × ρ)}
    (hf : p (fetched request bundle)) (hg : ∀ x, p (found bundle x)) :
    ∀ e ∈ fetched request bundle :: renderers.map (found bundle), p e :=
  List.forall_mem_cons.mpr ⟨hf, List.forall_mem_map.mpr fun x _ => hg x⟩

theorem lookups_ok {renderers : List (OutputFormat × ρ)} :
    ∀ e ∈ fetched request bundle :: renderers.map (found bundle), e.Ok :=
  forall_lookups Event.ok_mk fun _ => Event.ok_mk

theorem supported_of_gate {renderers : List (OutputFormat × ρ)}
    (hc : Checked request bundle renderers) (l : PortTrace ρ) :
    Supported request (gate request bundle renderers ++ l) := by
  refine ⟨bundle, renderers, by simp [gate], hc, fun x hx => ?_⟩
  have : found bundle x ∈ renderers.map (found bundle) := List.mem_map_of_mem hx
  simp [gate, this]

theorem BundleRun.ended {r : Except Exc GenerationResult}
    (h : BundleRun request generatedAt bundle tr r) : Ended request generatedAt bundle tr r := by
  cases h with
  | unsupported renderers fmt post message hF hfmt =>
    have hs : ¬ Supported request (fetched request bundle :: (renderers.map (found bundle) ++ [])) :=
      not_supported hF (by simp)
    rw [List.append_nil] at hs
    exact .refused lookups_ok List.mem_cons_self
      ⟨bundle, fmt, List.mem_cons_self, by rw [hF]; simp, Or.inl hfmt⟩ hs message
  | noRenderer renderers fmt post message hF =>
    refine .refused ?_ List.mem_cons_self
      ⟨bundle, fmt, List.mem_cons_self, by rw [hF]; simp, Or.inr (by simp)⟩
      (not_supported hF (by simp [found, fetched])) message
    rw [← List.cons_append]
    exact forall_append lookups_ok (List.forall_mem_singleton.mpr Event.ok_mk)
  | getRaised renderers fmt exc =>
    rw [← List.cons_append]
    exact .raised lookups_ok List.mem_cons_self _ _
  | validateRaised renderers exc =>
    rw [← List.cons_append]
    exact .raised lookups_ok List.mem_cons_self _ _
  | runRaised renderers hc arts x exc =>
    rw [← List.append_assoc]
    exact .raised (forall_append gate_ok rendered_ok) (by simp [gate]) _ _
  | putRaised arts hc puts art post exc hA =>
    rw [← List.append_assoc, ← List.append_assoc]
    exact .raised (forall_append (forall_append gate_ok rendered_ok) stored_ok) (by simp [gate]) _ _
  | done arts hc puts hA =>
    exact .done (forall_append gate_ok (forall_append rendered_ok stored_ok)) (by simp [gate])
      (supported_of_gate hc _) _

/-- A run calls no renderer and stores nothing; or passes the gate and stores
nothing; or renders every format before it stores anything, and then returns
unless a put raises. -/
theorem BundleRun.phase {r : Except Exc GenerationResult}
    (h : BundleRun request generatedAt bundle tr r) :
    (∀ e ∈ tr, ¬ e.op.isRun ∧ ¬ e.op.isPut) ∨
    (∃ renderers rest, Checked request bundle renderers ∧
      tr = gate request bundle renderers ++ rest ∧ ∀ e ∈ tr, ¬ e.op.isPut) ∨
    ∃ (arts : List ((OutputFormat × ρ) × RenderedArtifact)) (rest : PortTrace ρ),
      Checked request bundle (arts.map Prod.fst) ∧
      tr = gate request bundle (arts.map Prod.fst) ++ (arts.map (rendered request bundle) ++ rest) ∧
      (∀ e ∈ rest, ∃ z ∈ arts, e.op = putOp request z.2) ∧
      ((∃ result, r = .ok result) ∨ ∃ e ∈ tr, e.op.isPut ∧ ¬ e.Ok) := by
  have hno : ¬ (false = true) ∧ ¬ (false = true) := by decide
  have early : ∀ {renderers : List (OutputFormat × ρ)} {op : PortOp ρ} (ans),
      ¬ op.isRun ∧ ¬ op.isPut → ∀ e ∈ fetched request bundle :: (renderers.map (found bundle) ++
        [(⟨op, ans⟩ : Event (portSig ρ) Exc)]), ¬ e.op.isRun ∧ ¬ e.op.isPut := by
    intro renderers op ans hop
    rw [← List.cons_append]
    exact forall_append (forall_lookups hno fun _ => hno) (List.forall_mem_singleton.mpr hop)
  have stores : ∀ {arts : List ((OutputFormat × ρ) × RenderedArtifact)}
      {puts : List (RenderedArtifact × StoredArtifact)},
      (∀ a ∈ puts.map Prod.fst, a ∈ arts.map Prod.snd) →
      ∀ e ∈ (puts.map (stored request) : PortTrace ρ), ∃ z ∈ arts, e.op = putOp request z.2 := by
    intro arts puts hsub
    refine List.forall_mem_map.mpr fun p hp => ?_
    obtain ⟨z, hz, he⟩ := List.mem_map.mp (hsub _ (List.mem_map_of_mem hp))
    exact ⟨z, hz, by rw [he]; rfl⟩
  cases h with
  | unsupported renderers fmt post message hF hfmt => exact Or.inl (forall_lookups hno fun _ => hno)
  | noRenderer renderers fmt post message hF => exact Or.inl (early _ hno)
  | getRaised renderers fmt exc => exact Or.inl (early _ hno)
  | validateRaised renderers exc => exact Or.inl (early _ hno)
  | runRaised renderers hc arts x exc =>
    refine Or.inr (Or.inl ⟨_, _, hc, rfl, forall_append gate_not_put
      (forall_append rendered_not_put ?_)⟩)
    exact List.forall_mem_singleton.mpr Bool.false_ne_true
  | putRaised arts hc puts art post exc hA =>
    refine Or.inr (Or.inr ⟨_, _, hc, rfl, forall_append (stores fun a ha => ?_) ?_,
      Or.inr ⟨⟨putOp request art, .error exc⟩, by simp, rfl, Event.not_ok_mk⟩⟩)
    · rw [hA]
      exact List.mem_append_left _ ha
    · obtain ⟨z, hz, rfl⟩ := List.mem_map.mp (hA ▸ List.mem_append_right _ List.mem_cons_self :
        art ∈ arts.map Prod.snd)
      exact List.forall_mem_singleton.mpr ⟨z, hz, rfl⟩
  | done arts hc puts hA =>
    exact Or.inr (Or.inr ⟨_, _, hc, rfl, stores fun a ha => hA ▸ ha, Or.inl ⟨_, rfl⟩⟩)

/-- A renderer is called only past the gate. -/
theorem BundleRun.render_gated {r : Except Exc GenerationResult}
    (h : BundleRun request generatedAt bundle tr r) {pre post : PortTrace ρ}
    {e : Event (portSig ρ) Exc} (htr : tr = pre ++ e :: post) (he : e.op.isRun) :
    ∃ renderers, Checked request bundle renderers ∧ gate request bundle renderers <+: pre := by
  rcases h.phase with hno | ⟨renderers, rest, hc, rfl, -⟩ | ⟨arts, rest, hc, rfl, -⟩
  · exact absurd he (hno e (by simp [htr])).1
  · exact ⟨renderers, hc, Event.prefix_of_split gate_not_run htr he⟩
  · exact ⟨_, hc, Event.prefix_of_split gate_not_run htr he⟩

/-- An artifact is stored only once every format is rendered. -/
theorem BundleRun.put_gated {r : Except Exc GenerationResult}
    (h : BundleRun request generatedAt bundle tr r) {pre post : PortTrace ρ}
    {e : Event (portSig ρ) Exc} (htr : tr = pre ++ e :: post) (he : e.op.isPut) :
    ∃ arts : List ((OutputFormat × ρ) × RenderedArtifact),
      Checked request bundle (arts.map Prod.fst) ∧
      gate request bundle (arts.map Prod.fst) ++ arts.map (rendered request bundle) <+: pre := by
  rcases h.phase with hno | ⟨renderers, rest, hc, rfl, hno⟩ | ⟨arts, rest, hc, rfl, -⟩
  · exact absurd he (hno e (by simp [htr])).2
  · exact absurd he (hno e (by simp [htr]))
  · rw [← List.append_assoc] at htr
    exact ⟨arts, hc, Event.prefix_of_split (forall_append gate_not_put rendered_not_put) htr he⟩

/-- A run that does not return and in which no put raised has stored nothing. -/
theorem BundleRun.untouched {exc : Exc} (h : BundleRun request generatedAt bundle tr (.error exc))
    (hput : ∀ e ∈ tr, e.op.isPut → e.Ok) : ∀ e ∈ tr, ¬ e.op.isPut := by
  rcases h.phase with hno | ⟨-, -, -, -, hno⟩ | ⟨-, -, -, -, -, ⟨_, hr⟩ | ⟨e, he, hp, hnok⟩⟩
  · exact fun e he => (hno e he).2
  · exact hno
  · cases hr
  · exact absurd (hput e he hp) hnok

/-- The calls that lead to a rendered artifact. -/
theorem mem_phases {arts : List ((OutputFormat × ρ) × RenderedArtifact)}
    {z : (OutputFormat × ρ) × RenderedArtifact} (hz : z ∈ arts) (rest : PortTrace ρ) :
    let tr := gate request bundle (arts.map Prod.fst) ++ (arts.map (rendered request bundle) ++ rest)
    fetched request bundle ∈ tr ∧ found bundle z.1 ∈ tr ∧ rendered request bundle z ∈ tr := by
  have hx : found bundle z.1 ∈ (arts.map Prod.fst).map (found bundle) :=
    List.mem_map_of_mem (List.mem_map_of_mem hz)
  refine ⟨by simp [gate], ?_, ?_⟩
  · rw [gate]
    exact List.mem_append_left _ (List.mem_cons_of_mem _ (List.mem_append_left _ hx))
  · exact List.mem_append_right _ (List.mem_append_left _ (List.mem_map_of_mem hz))

/-- Each put is of an artifact rendered for a requested format. -/
theorem BundleRun.put_origin {r : Except Exc GenerationResult}
    (h : BundleRun request generatedAt bundle tr r) {e : Event (portSig ρ) Exc} (he : e ∈ tr)
    (hp : e.op.isPut) : ∃ z : (OutputFormat × ρ) × RenderedArtifact,
      z.1.1 ∈ request.requestedFormats ∧ fetched request bundle ∈ tr ∧ found bundle z.1 ∈ tr ∧
      rendered request bundle z ∈ tr ∧ e.op = putOp request z.2 := by
  rcases h.phase with hno | ⟨-, -, -, -, hno⟩ | ⟨arts, rest, hc, rfl, hrest, -⟩
  · exact absurd hp (hno e he).2
  · exact absurd hp (hno e he)
  rcases List.mem_append.mp he with he | he
  · exact absurd hp (gate_not_put e he)
  rcases List.mem_append.mp he with he | he
  · exact absurd hp (rendered_not_put e he)
  obtain ⟨z, hz, hop⟩ := hrest e he
  obtain ⟨hf, hx, hr⟩ := mem_phases hz rest
  refine ⟨z, ?_, hf, hx, hr, hop⟩
  rw [← hc.formats]
  exact List.mem_map_of_mem (List.mem_map_of_mem hz)

/-! The contract. -/

/-- What an exception of a run with the calls `tr` ends the request with: a
failed result for a `DocGenError`, with the template's version if fetch had
returned; itself for any other. -/
def EndsWith (request : GenerationRequest) (tr : PortTrace ρ) (r : Except Exc GenerationResult) :
    Exc → Prop
  | .docGen exc => ∃ result message, r = .ok result ∧ result.status = .failed ∧
      result.artifacts = [] ∧
      result.error = some ⟨exc.cls.code.value, message, exc.cls.permanent⟩ ∧
      ∀ version, result.templateVersion = some version ↔
        ∃ bundle, fetched request bundle ∈ tr ∧ bundle.manifest.version = version
  | exc => r = .error exc

/-- The result is SUCCESS. -/
def Succeeds (r : Except Exc GenerationResult) : Prop :=
  ∃ result, r = .ok result ∧ result.status = .success

/-- All or nothing, for a run with the calls `tr` that ends with `r`. -/
structure AllOrNothing (request : GenerationRequest) (tr : PortTrace ρ)
    (r : Except Exc GenerationResult) : Prop where
  /-- A renderer runs only past the gate. -/
  renderGated : ∀ pre e post, tr = pre ++ e :: post → e.op.isRun → ∃ bundle renderers,
    Checked request bundle renderers ∧ gate request bundle renderers <+: pre
  /-- A put comes only after every distinct format is rendered. -/
  putGated : ∀ pre e post, tr = pre ++ e :: post → e.op.isPut →
    ∃ bundle, ∃ arts : List ((OutputFormat × ρ) × RenderedArtifact),
      Checked request bundle (arts.map Prod.fst) ∧
      gate request bundle (arts.map Prod.fst) ++ arts.map (rendered request bundle) <+: pre
  /-- A failure before that leaves the store untouched. -/
  untouched : ¬ Succeeds r → (∀ e ∈ tr, e.op.isPut → e.Ok) → ∀ e ∈ tr, ¬ e.op.isPut
  succeeds_iff : Succeeds r ↔ (∀ e ∈ tr, e.Ok) ∧ Supported request tr
  /-- On success, one artifact for each distinct format, with what `put`
  returned for the bytes rendered for it. -/
  artifacts : ∀ result, r = .ok result → result.status = .success → result.error = none ∧
    ∃ bundle, ∃ arts : List ((OutputFormat × ρ) × RenderedArtifact),
    ∃ puts : List (RenderedArtifact × StoredArtifact),
      Checked request bundle (arts.map Prod.fst) ∧ puts.map Prod.fst = arts.map Prod.snd ∧
      tr = gate request bundle (arts.map Prod.fst) ++ (arts.map (rendered request bundle) ++
        puts.map (stored request)) ∧
      result.artifacts = puts.map resultArtifact ∧
      ((∀ z ∈ arts, z.2.format = z.1.1) →
        result.artifacts.map (·.format) = request.requestedFormats)
  /-- The first call that raises is the last call, and decides the end. -/
  raised : ∀ pre op exc post, tr = pre ++ ⟨op, .error exc⟩ :: post →
    (∀ e ∈ pre, e.Ok) ∧ post = [] ∧ EndsWith request tr r exc
  /-- With no call that raises, the support check has raised. -/
  refused : (∀ e ∈ tr, e.Ok) → ¬ Succeeds r → Unsupported request tr ∧
    ∃ message, EndsWith request tr r (.docGen ⟨.unsupportedFormatError, message⟩)

/-- The fetch is the first call, and there is no other. -/
theorem BundleRun.fetch_first {r : Except Exc GenerationResult}
    (h : BundleRun request generatedAt bundle tr r) :
    ∃ tl, tr = fetched request bundle :: tl ∧ ∀ e ∈ tl, e.op.isFetch = false := by
  cases h <;> (try simp only [gate, List.cons_append]) <;> refine ⟨_, rfl, ?_⟩ <;>
    simp only [List.forall_mem_append, List.forall_mem_map, List.forall_mem_singleton] <;>
    simp [found, validated, rendered, runOp, stored, putOp, PortOp.isFetch]

theorem BundleRun.fetched_iff {r : Except Exc GenerationResult}
    (h : BundleRun request generatedAt bundle tr r) (b : TemplateBundle) :
    fetched request b ∈ tr ↔ b = bundle := by
  obtain ⟨tl, rfl, htl⟩ := h.fetch_first
  constructor
  · intro hb
    rcases List.mem_cons.mp hb with he | he
    · cases he; rfl
    · exact absurd (htl _ he) (by simp [fetched, PortOp.isFetch])
  · intro hb
    rw [hb]
    exact List.mem_cons_self

/-- An exception past the fetch is caught with the template's version. -/
theorem ends_with {exc : Exc} (h : BundleRun request generatedAt bundle tr (.error exc)) :
    EndsWith request tr (caught request generatedAt (some bundle.manifest.version) exc) exc := by
  cases exc with
  | docGen e =>
    refine ⟨_, _, rfl, rfl, rfl, rfl, fun version => ?_⟩
    simp only [h.fetched_iff, exists_eq_left]
    exact Option.some_inj
  | _ => rfl

theorem not_succeeds_caught {version : Option String} {exc : Exc} :
    ¬ Succeeds (caught request generatedAt version exc) := by
  rintro ⟨result, hr, hs⟩
  cases exc <;> cases hr
  cases hs

theorem not_succeeds_error {exc : Exc} :
    ¬ Succeeds (finish request generatedAt bundle (.error exc)) :=
  not_succeeds_caught

/-- A run that stops at the fetch. -/
theorem all_or_nothing_fetch (exc : Exc) : AllOrNothing request
    ([⟨.fetch request.templateUri, .error exc⟩] : PortTrace ρ)
    (caught request generatedAt none exc) := by
  have honly : ∀ pre e post, ([⟨.fetch request.templateUri, .error exc⟩] : PortTrace ρ) =
      pre ++ e :: post → e = ⟨.fetch request.templateUri, .error exc⟩ := by
    intro pre e post h
    have he : e ∈ pre ++ e :: post := by simp
    rw [← h] at he
    exact List.mem_singleton.mp he
  have hnok : ¬ ∀ e ∈ ([⟨.fetch request.templateUri, .error exc⟩] : PortTrace ρ), e.Ok :=
    fun h => Event.not_ok_mk (h _ List.mem_cons_self)
  refine ⟨fun pre e post h he => ?_, fun pre e post h he => ?_, fun _ _ => ?_, ?_, ?_,
    fun pre op exc' post h => ?_, fun h => absurd h hnok⟩
  · rw [honly pre e post h] at he
    cases he
  · rw [honly pre e post h] at he
    cases he
  · exact List.forall_mem_singleton.mpr Bool.false_ne_true
  · exact iff_of_false not_succeeds_caught fun h => hnok h.1
  · intro result hr hs
    exact absurd ⟨result, hr, hs⟩ not_succeeds_caught
  · obtain ⟨rfl, he, rfl⟩ := Event.last_of_split (List.forall_mem_nil _) h Event.not_ok_mk
    cases he
    refine ⟨by simp, rfl, ?_⟩
    cases exc with
    | docGen e =>
      refine ⟨_, _, rfl, rfl, rfl, rfl, fun version => ?_⟩
      simp [failureFromError, failureResult, fetched]
    | _ => rfl

/-- A run that ends with SUCCESS went through every phase. -/
theorem success_done {result : GenerationResult}
    (h : (processRequest (Ports.calls ρ) request generatedAt).Runs tr (.ok result))
    (hs : result.status = .success) :
    ∃ bundle, ∃ arts : List ((OutputFormat × ρ) × RenderedArtifact),
    ∃ puts : List (RenderedArtifact × StoredArtifact),
      Checked request bundle (arts.map Prod.fst) ∧ puts.map Prod.fst = arts.map Prod.snd ∧
      tr = gate request bundle (arts.map Prod.fst) ++ (arts.map (rendered request bundle) ++
        puts.map (stored request)) ∧ result.artifacts = puts.map resultArtifact := by
  rcases process_request_runs h with ⟨exc, -, hr⟩ | ⟨bundle, r', hb, hr⟩
  · exact absurd ⟨result, hr.symm, hs⟩ not_succeeds_caught
  · cases hb with
    | done arts hc puts hA =>
      cases hr
      exact ⟨bundle, arts, puts, hc, hA, rfl, rfl⟩
    | _ => exact absurd ⟨result, hr.symm, hs⟩ not_succeeds_error

theorem BundleRun.all_or_nothing {r : Except Exc GenerationResult}
    (h : BundleRun request generatedAt bundle tr r) :
    AllOrNothing request tr (finish request generatedAt bundle r) where
  renderGated pre e post htr he := ⟨bundle, h.render_gated htr he⟩
  putGated pre e post htr he := ⟨bundle, h.put_gated htr he⟩
  untouched hs hput := by
    rcases r with exc | result
    · exact h.untouched hput
    · cases h
      exact absurd ⟨_, rfl, rfl⟩ hs
  succeeds_iff := by
    cases h.ended with
    | raised hok hf op exc =>
      refine iff_of_false not_succeeds_error fun hs => ?_
      exact Event.not_ok_mk (hs.1 ⟨op, .error exc⟩ (by simp))
    | refused hok hf hu hs message => exact iff_of_false not_succeeds_error fun h' => hs h'.2
    | done hok hf hs artifacts => exact iff_of_true ⟨_, rfl, rfl⟩ ⟨hok, hs⟩
  artifacts result hr hs := by
    cases h with
    | done arts hc puts hA =>
      cases hr
      refine ⟨rfl, bundle, arts, puts, hc, hA, rfl, rfl, fun hlabel => ?_⟩
      have hp : puts.map (fun z => z.1.format) = arts.map (fun z => z.2.format) := by
        have := congrArg (List.map RenderedArtifact.format) hA
        rwa [List.map_map, List.map_map] at this
      calc (puts.map resultArtifact).map (·.format)
          = puts.map (fun z => z.1.format) := by rw [List.map_map]; rfl
        _ = arts.map (fun z => z.1.1) := hp.trans (List.map_congr_left hlabel)
        _ = request.requestedFormats := by rw [← hc.formats, List.map_map]; rfl
    | _ => exact absurd ⟨result, hr, hs⟩ not_succeeds_error
  raised pre op exc post htr := by
    cases h.ended with
    | raised hok hf op' exc' =>
      obtain ⟨rfl, he, rfl⟩ := Event.last_of_split hok htr Event.not_ok_mk
      cases he
      exact ⟨hok, rfl, ends_with h⟩
    | refused hok hf hu hs message =>
      exact absurd (hok ⟨op, .error exc⟩ (by simp [htr])) Event.not_ok_mk
    | done hok hf hs artifacts =>
      exact absurd (hok ⟨op, .error exc⟩ (by simp [htr])) Event.not_ok_mk
  refused hok hs := by
    cases h.ended with
    | raised _ hf op exc => exact absurd (hok ⟨op, .error exc⟩ (by simp)) Event.not_ok_mk
    | refused _ hf hu _ message => exact ⟨hu, message, ends_with h⟩
    | done _ hf _ artifacts => exact absurd ⟨_, rfl, rfl⟩ hs

/-- **All or nothing.** Whatever the ports answer, every run of
`process_request` is all-or-nothing up to storage. -/
theorem process_request_all_or_nothing {r : Except Exc GenerationResult}
    (h : (processRequest (Ports.calls ρ) request generatedAt).Runs tr r) :
    AllOrNothing request tr r := by
  rcases process_request_runs h with ⟨exc, rfl, rfl⟩ | ⟨bundle, r', hb, rfl⟩
  · exact all_or_nothing_fetch exc
  · exact hb.all_or_nothing

/-- An exception that a call raised is the one that the request ends with. -/
theorem process_request_raised {r : Except Exc GenerationResult} {op : PortOp ρ} {exc : Exc}
    (h : (processRequest (Ports.calls ρ) request generatedAt).Runs tr r)
    (he : (⟨op, .error exc⟩ : Event (portSig ρ) Exc) ∈ tr) :
    ∃ version, r = caught request generatedAt version exc := by
  rcases process_request_runs h with ⟨exc', rfl, rfl⟩ | ⟨bundle, r', hb, rfl⟩
  · cases List.mem_singleton.mp he
    exact ⟨none, rfl⟩
  obtain ⟨pre, post, htr⟩ := List.append_of_mem he
  cases hb.ended with
  | raised hok hf op' exc' =>
    obtain ⟨-, heq, -⟩ := Event.last_of_split hok htr Event.not_ok_mk
    cases heq
    exact ⟨_, rfl⟩
  | refused hok => exact absurd (hok _ he) Event.not_ok_mk
  | done hok => exact absurd (hok _ he) Event.not_ok_mk

/-- What the request ends with for an exception of the pipeline. -/
theorem build_result_caught {P : Sig} {deps : HandlerDeps P ρ} {result : GenerationResult}
    {permanent : Prop} {tr : List (Event P Exc)}
    (h : (buildResult deps request).Runs tr (.ok result))
    (hx : ∀ r, (processRequest deps.ports request deps.startedAt).Runs tr r →
      ∃ x version, r = caught request deps.startedAt version x ∧
        ((∃ e, x = .docGen e ∧ e.cls.permanent = true) ↔ permanent)) :
    FailsWith result permanent := by
  rcases runs_tryCatch.mp h with ⟨_, hr, hp⟩ | ⟨exc, t₁, t₂, rfl, hp, rfl, hr⟩
  · cases hr
    obtain ⟨x, version, hc, hperm⟩ := hx _ hp
    cases x with
    | docGen e =>
      cases hc
      refine ⟨rfl, _, rfl, Iff.trans ⟨fun hp => ⟨e, rfl, hp⟩, fun ⟨_, he, hp⟩ => ?_⟩ hperm⟩
      cases he
      exact hp
    | _ => cases hc
  · cases hr
    rw [List.append_nil] at hx
    obtain ⟨x, version, hc, hperm⟩ := hx _ hp
    refine ⟨rfl, _, rfl, iff_of_false Bool.false_ne_true fun hp => ?_⟩
    obtain ⟨e, rfl, -⟩ := hperm.mpr hp
    cases hc

end

def invoiceBundle : TemplateBundle where
  manifest := invoiceManifest
  root := ["cache", "invoice"]

/-- The one put of a request for one PDF raises: its calls before that are all
made, and the exception is the handler's to see. -/
theorem process_request_all_or_nothing_put_raised :
    AllOrNothing makeRequest
      ([⟨.fetch makeRequest.templateUri, .ok invoiceBundle⟩, ⟨.get .jinjaHtml .pdf, .ok (some ())⟩,
        ⟨.validate makeRequest.data [], .ok ()⟩,
        ⟨.run () invoiceBundle makeRequest.data .pdf (some "fr-BE"),
          .ok ⟨.pdf, "invoice.pdf", [37, 80, 68, 70]⟩⟩,
        ⟨.put "billing/invoices/2026/06/inv-00042/invoice.pdf" [37, 80, 68, 70] "application/pdf" none,
          .error (.other "ReadTimeoutError" "timed out")⟩] : PortTrace Unit)
      (.error (.other "ReadTimeoutError" "timed out")) :=
  @process_request_all_or_nothing Unit makeRequest "2026-06-18T00:00:00+00:00" _ _
    ⟨_, _, rfl, _, _, rfl, _, _, rfl, _, _, rfl, _, _, rfl, rfl, rfl⟩

end DocGen
