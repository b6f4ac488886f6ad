/-
# The schema gate and the capacity of blocks

`adapters/validator_jsonschema.py`: before any render the data is checked
against the manifest's `required_fields`. A block of a spreadsheet takes its
capacity from `maxItems` of its source there, or from `max_rows`, which the
schema knows nothing of. So a list that is too long stops at the gate exactly
if the schema itself refuses the data (`overflow_refused_iff`); otherwise the
renderer is called, and it is the renderer that refuses.

`jsonschema` is a parameter: whether it finds a schema broken, and the error
it finds in data.
-/
import DocGen.Pipeline

namespace DocGen

open Prog

/-- What `jsonschema` answers: `SchemaError.message`, if `check_schema` raises,
and the path and message of `best_match`, if there is an error. -/
structure JsonSchema where
  checkSchema (schema : JsonDict) : Option String
  bestMatch (schema data : JsonDict) : Option (List String × String)

/-- `JsonSchemaValidator.validate`. -/
def validate (js : JsonSchema) (data schema : JsonDict) : Except Exc Unit :=
  if schema.isEmpty then .ok ()
  else
    match js.checkSchema schema with
    | some message =>
      .error (.docGen ⟨.schemaValidationError, "invalid required_fields schema: " ++ message⟩)
    | none =>
      match js.bestMatch schema data with
      | none => .ok ()
      | some (path, message) =>
        let location := if "/".intercalate path ≠ "" then "/".intercalate path else "<root>"
        .error (.docGen ⟨.schemaValidationError, "data invalid at " ++ location ++ ": " ++ message⟩)

/-- The gate refuses the data. -/
def Refuses (js : JsonSchema) (data schema : JsonDict) : Prop := ∃ exc, validate js data schema = .error exc

/-- A schema with a `maxItems` for a property is broken, or finds an error in
data with a longer list there. -/
def EnforcesMaxItems (js : JsonSchema) : Prop :=
  ∀ schema data source n xs, maxItems schema source = some n → data.lookup source = some (.arr xs) →
    n < xs.length → js.checkSchema schema ≠ none ∨ js.bestMatch schema data ≠ none

/-- The block's source is a list longer than the block. -/
def Overflows (m : Manifest) (data : JsonDict) (block : BlockSpec) : Prop :=
  ∃ xs n, data.lookup block.source = some (.arr xs) ∧ m.blockCapacity block = .ok n ∧ n < xs.length

theorem validate_error {js : JsonSchema} {data schema : JsonDict} {exc : Exc}
    (h : validate js data schema = .error exc) :
    ∃ message, exc = .docGen ⟨.schemaValidationError, message⟩ := by
  unfold validate at h
  split at h
  · cases h
  split at h
  · cases h
    exact ⟨_, rfl⟩
  split at h
  · cases h
  · cases h
    exact ⟨_, rfl⟩

theorem refuses_of_error {js : JsonSchema} {data schema : JsonDict} (hne : schema ≠ [])
    (h : js.checkSchema schema ≠ none ∨ js.bestMatch schema data ≠ none) : Refuses js data schema := by
  unfold Refuses validate
  rw [if_neg (by simpa using hne)]
  rcases hc : js.checkSchema schema with _ | message
  · rcases hb : js.bestMatch schema data with _ | ⟨path, message⟩
    · exact absurd (h.resolve_left fun h' => h' hc) fun h' => h' hb
    · exact ⟨_, rfl⟩
  · exact ⟨_, rfl⟩

/-- A capacity that is not the block's own is the schema's `maxItems`. -/
theorem capacity_of_schema {m : Manifest} {block : BlockSpec} {n : ℕ} (hrows : block.maxRows = none)
    (h : m.blockCapacity block = .ok n) : maxItems m.requiredFields block.source = some (n : ℤ) := by
  unfold Manifest.blockCapacity capacityOf at h
  rw [hrows] at h
  simp only at h
  split at h
  · rename_i k hk
    split at h
    · obtain rfl := Except.ok.inj h
      rw [hk, Int.toNat_of_nonneg (by omega)]
    · cases h
  · cases h

/-- A list longer than a capacity the schema sets is refused at the gate. -/
theorem refuses_overflow {js : JsonSchema} {m : Manifest} {data : JsonDict} {block : BlockSpec}
    (hjs : EnforcesMaxItems js) (hov : Overflows m data block) (hrows : block.maxRows = none) :
    Refuses js data m.requiredFields := by
  obtain ⟨xs, n, hxs, hn, hlt⟩ := hov
  have hmax := capacity_of_schema hrows hn
  refine refuses_of_error ?_ (hjs _ _ _ _ _ hmax hxs (by exact_mod_cast hlt))
  intro hnil
  rw [hnil] at hmax
  cases hmax

section

variable {ρ : Type} {js : JsonSchema} {request : GenerationRequest} {generatedAt : String}
  {bundle : TemplateBundle} {tr : PortTrace ρ} {r : Except Exc GenerationResult}

/-- The other ports in a run with the calls `tr`: the fetch returns the
template, the registry has every renderer, and the gate is the validator. -/
structure Gated (js : JsonSchema) (request : GenerationRequest) (bundle : TemplateBundle)
    (tr : PortTrace ρ) : Prop where
  fetch : fetched request bundle ∈ tr
  get : ∀ engine fmt x, ⟨.get engine fmt, x⟩ ∈ tr → ∃ renderer, x = .ok (some renderer)
  validate : ∀ data schema x, ⟨.validate data schema, x⟩ ∈ tr → x = DocGen.validate js data schema

/-- The request has failed with a permanent `VALIDATION_ERROR`, and nothing
was rendered. -/
def RefusedBeforeRender (tr : PortTrace ρ) (r : Except Exc GenerationResult) : Prop :=
  (∃ result message, r = .ok result ∧ result.status = .failed ∧
    result.error = some ⟨"VALIDATION_ERROR", message, true⟩) ∧ ∀ e ∈ tr, ¬ e.op.isRun

theorem requestedFormats_ne (request : GenerationRequest) : request.requestedFormats ≠ [] := by
  obtain ⟨o, os, ho⟩ := List.exists_cons_of_ne_nil request.outputs_ne
  refine List.ne_nil_of_mem (a := o.format) ((request.mem_requestedFormats _).mpr ⟨o, ?_, rfl⟩)
  rw [ho]
  exact List.mem_cons_self

/-- Past the gate, with the formats checked, something is rendered. -/
theorem render_of_checked {arts : List ((OutputFormat × ρ) × RenderedArtifact)}
    (hc : Checked request bundle (arts.map Prod.fst)) (rest : PortTrace ρ) :
    ∃ e ∈ gate request bundle (arts.map Prod.fst) ++ (arts.map (rendered request bundle) ++ rest),
      e.op.isRun := by
  rcases arts with _ | ⟨z, arts⟩
  · exact absurd hc.formats.symm (requestedFormats_ne request)
  · exact ⟨_, (mem_phases (List.mem_cons_self (a := z)) rest).2.2, rfl⟩

/-- The gate let the data pass, or refused it and was the last call. -/
theorem BundleRun.gate_cases (h : BundleRun request generatedAt bundle tr r)
    (hg : Gated js request bundle tr)
    (hsup : ∀ fmt ∈ request.requestedFormats, fmt ∈ bundle.manifest.supportedFormats) :
    (∃ exc, r = .error exc ∧ validate js request.data bundle.manifest.requiredFields = .error exc ∧
      ∀ e ∈ tr, ¬ e.op.isRun) ∨
    validate js request.data bundle.manifest.requiredFields = .ok () ∧ ∃ e ∈ tr, e.op.isRun := by
  have hpass : validated request bundle ∈ tr →
      validate js request.data bundle.manifest.requiredFields = .ok () := fun h' =>
    (hg.validate _ _ _ h').symm
  have hgate : ∀ renderers, validated request bundle ∈ (gate request bundle renderers : PortTrace ρ) :=
    fun renderers => by simp [gate]
  cases h with
  | unsupported renderers fmt post message hF hfmt =>
    exact absurd (hsup fmt (by rw [hF]; simp)) hfmt
  | noRenderer renderers fmt post message hF =>
    obtain ⟨_, hx⟩ := hg.get bundle.manifest.engine fmt (.ok none) (by simp)
    cases hx
  | getRaised renderers fmt exc =>
    obtain ⟨_, hx⟩ := hg.get bundle.manifest.engine fmt (.error exc) (by simp)
    cases hx
  | validateRaised renderers exc =>
    refine Or.inl ⟨exc, rfl, (hg.validate _ _ _ (by simp)).symm, ?_⟩
    rw [← List.cons_append]
    refine forall_append (forall_lookups Bool.false_ne_true fun _ => Bool.false_ne_true) ?_
    exact List.forall_mem_singleton.mpr Bool.false_ne_true
  | runRaised renderers hc arts x exc =>
    have hrun : ⟨runOp request bundle x, .error exc⟩ ∈ gate request bundle renderers ++
        (arts.map (rendered request bundle) ++ [⟨runOp request bundle x, .error exc⟩]) := by simp
    exact Or.inr ⟨hpass (List.mem_append_left _ (hgate _)), _, hrun, rfl⟩
  | putRaised arts hc puts art post exc hA =>
    exact Or.inr ⟨hpass (List.mem_append_left _ (hgate _)), render_of_checked hc _⟩
  | done arts hc puts hA =>
    exact Or.inr ⟨hpass (List.mem_append_left _ (hgate _)), render_of_checked hc _⟩

/-- **The gate.** A block's list longer than its capacity fails the request
before any render exactly if the schema gate refuses the data; which it does
if the capacity is the schema's. -/
theorem overflow_refused_iff {block : BlockSpec} (hjs : EnforcesMaxItems js)
    (h : (processRequest (Ports.calls ρ) request generatedAt).Runs tr r)
    (hg : Gated js request bundle tr)
    (hsup : ∀ fmt ∈ request.requestedFormats, fmt ∈ bundle.manifest.supportedFormats)
    (hov : Overflows bundle.manifest request.data block) :
    (RefusedBeforeRender tr r ↔ Refuses js request.data bundle.manifest.requiredFields) ∧
      (block.maxRows = none → Refuses js request.data bundle.manifest.requiredFields) := by
  refine ⟨?_, refuses_overflow hjs hov⟩
  rcases process_request_runs h with ⟨exc, rfl, -⟩ | ⟨b, r', hb, rfl⟩
  · have hf := hg.fetch
    simp [fetched] at hf
  obtain rfl := (hb.fetched_iff bundle).mp hg.fetch
  rcases hb.gate_cases hg hsup with ⟨exc, rfl, hv, hno⟩ | ⟨hv, e, he, hrun⟩
  · refine iff_of_true ⟨?_, hno⟩ ⟨exc, hv⟩
    obtain ⟨message, rfl⟩ := validate_error hv
    exact ⟨_, _, rfl, rfl, rfl⟩
  · refine iff_of_false (fun hr => hr.2 e he hrun) ?_
    rintro ⟨exc, hv'⟩
    rw [hv] at hv'
    cases hv'

end

/-! ### A block with rows of its own -/

/-- A validator that checks `maxItems` and nothing else. -/
def maxItemsSchema : JsonSchema where
  checkSchema _ := none
  bestMatch schema data := data.findSome? fun (source, x) =>
    match maxItems schema source, x with
    | some n, .arr xs => if n < xs.length then some ([source], "is too long") else none
    | _, _ => none

theorem max_items_schema_enforces : EnforcesMaxItems maxItemsSchema := by
  intro schema data source n xs hmax hxs hlt
  refine Or.inr fun hnone => ?_
  obtain ⟨l₁, l₂, rfl, -⟩ := List.lookup_eq_some_iff.mp hxs
  have hsource := List.findSome?_eq_none_iff.mp hnone (source, .arr xs) (by simp)
  simp [hmax, hlt] at hsource

/-- A workbook that reserves one row for `rows`. -/
def oneRowBlock : BlockSpec where
  source := "rows"
  columns := ["name"]
  anchor := some "A4"
  anchorName := none
  maxRows := some 1
  hideUnusedRows := true
  source_ne := by decide
  columns_ne := by decide
  exactlyOneAnchor := by decide
  maxRows_pos := by decide

def oneRowBundle : TemplateBundle where
  manifest := {
    id := "annex"
    version := "1"
    engine := .xlsx
    supportedFormats := [.xlsx]
    requiredFields := []
    outputBasename := none
    blocks := [oneRowBlock]
    blocksHaveResolvableCapacity := by simp [capacityOf, oneRowBlock] }
  root := ["cache", "annex"]

/-- A request with two rows. -/
def twoRowRequest : GenerationRequest :=
  { makeRequest with outputs := [⟨.xlsx⟩], outputs_ne := by decide,
                     data := [("rows", .arr [.obj [], .obj []])] }

/-- The gate lets the data pass, and the renderer refuses it. -/
def twoRowTrace : PortTrace Unit :=
  [⟨.fetch twoRowRequest.templateUri, .ok oneRowBundle⟩, ⟨.get .xlsx .xlsx, .ok (some ())⟩,
    ⟨.validate twoRowRequest.data [], .ok ()⟩,
    ⟨.run () oneRowBundle twoRowRequest.data .xlsx (some "fr-BE"), .error (.docGen
      ⟨.schemaValidationError, "2 rows supplied for block 'rows' but the template reserves only 1"⟩)⟩]

theorem two_row_trace_runs :
    (processRequest (Ports.calls Unit) twoRowRequest "2026-06-18T00:00:00+00:00").Runs twoRowTrace
      (.ok (failureFromError twoRowRequest ⟨.schemaValidationError,
        "2 rows supplied for block 'rows' but the template reserves only 1"⟩
        "2026-06-18T00:00:00+00:00" (some "1"))) :=
  ⟨_, _, rfl, _, _, rfl, _, _, rfl, _, _, rfl, rfl, rfl⟩

theorem gated_two_rows : Gated maxItemsSchema twoRowRequest oneRowBundle twoRowTrace where
  fetch := List.mem_cons_self
  get engine fmt x h := by
    simp [twoRowTrace] at h
    exact ⟨(), h.2⟩
  validate data schema x h := by
    simp [twoRowTrace] at h
    obtain ⟨⟨rfl, rfl⟩, rfl⟩ := h
    rfl

theorem overflows_two_rows : Overflows oneRowBundle.manifest twoRowRequest.data oneRowBlock :=
  ⟨[.obj [], .obj []], 1, rfl, rfl, by decide⟩

theorem overflow_refused_iff_max_rows :
    (RefusedBeforeRender twoRowTrace (.ok (failureFromError twoRowRequest ⟨.schemaValidationError,
        "2 rows supplied for block 'rows' but the template reserves only 1"⟩
        "2026-06-18T00:00:00+00:00" (some "1"))) ↔
      Refuses maxItemsSchema twoRowRequest.data oneRowBundle.manifest.requiredFields) ∧
      (oneRowBlock.maxRows = none →
        Refuses maxItemsSchema twoRowRequest.data oneRowBundle.manifest.requiredFields) :=
  overflow_refused_iff max_items_schema_enforces two_row_trace_runs gated_two_rows (by decide)
    overflows_two_rows

/-- With `max_rows` the renderer is called on a list that is too long. -/
theorem overflow_rendered : ¬ ∀ (js : JsonSchema) (request : GenerationRequest) (generatedAt : String)
    (bundle : TemplateBundle) (tr : PortTrace Unit) (r : Except Exc GenerationResult)
    (block : BlockSpec), EnforcesMaxItems js →
      (processRequest (Ports.calls Unit) request generatedAt).Runs tr r →
      Gated js request bundle tr →
      (∀ fmt ∈ request.requestedFormats, fmt ∈ bundle.manifest.supportedFormats) →
      bundle.manifest.engine = .xlsx → block ∈ bundle.manifest.blocks →
      Overflows bundle.manifest request.data block → RefusedBeforeRender tr r := by
  intro h
  have hrefused := h maxItemsSchema twoRowRequest _ oneRowBundle twoRowTrace _ oneRowBlock
    max_items_schema_enforces two_row_trace_runs gated_two_rows (by decide) rfl List.mem_cons_self
    overflows_two_rows
  exact hrefused.2 ⟨.run () oneRowBundle twoRowRequest.data .xlsx (some "fr-BE"), .error (.docGen
    ⟨.schemaValidationError, "2 rows supplied for block 'rows' but the template reserves only 1"⟩)⟩
    (by simp [twoRowTrace]) rfl

end DocGen
