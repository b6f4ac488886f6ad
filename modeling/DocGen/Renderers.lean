/-
# The renderers and what they raise

`adapters/renderers/registry.py` and the `render` of the four renderers. The
libraries behind them (Jinja and WeasyPrint, openpyxl, docxtpl, pypdf,
`zipfile`) are parameters: they read the files of the template, raise what they
like but no `DocGenError`, and save a document with the time of the save in it.

A renderer chosen by the registry raises `DocGenError`s only, and a permanent
one exactly if the template or the data is at fault (`render_verdict`). What it
returns does not depend on the time (`render_timeless`), nor on which executor
runs it (`executors_agree`).
-/
import DocGen.JinjaHtml
import DocGen.Lib.Raises
import DocGen.Ooxml
import DocGen.PdfForm
import DocGen.RenderPool
import DocGen.XlsxFill

namespace DocGen

open Prog

/-! ### The libraries -/

/-- `entrypoint` and `fields` of a manifest. -/
structure ManifestExtras where
  entrypoint : Option String
  fields : List (String × FieldTarget)

/-- The core properties of a document that the renderers set. -/
structure CoreProperties where
  created : ZipDate
  modified : ZipDate
  author : String
  lastModifiedBy : String
  revision : ℕ

/-- The libraries, over the files of the templates. A save is made at a time. -/
structure Libraries (V δ : Type) where
  jinja (data : JsonDict) (locale : Option String) : Jinja
  openpyxl : Openpyxl V
  loadWorkbook (entry : FilePath) : Except Exc (Workbook × Grid V × CoreProperties)
  saveWorkbook (now : ZipDate) (wb : Workbook) (g : Grid V) (props : CoreProperties) : Except Exc Package
  /-- `DocxTemplate(entry)` and its `render`. -/
  renderDocument (entry : FilePath) (data : JsonDict) (locale : Option String) : Except Exc (δ × CoreProperties)
  saveDocument (now : ZipDate) (document : δ) (props : CoreProperties) : Except Exc Package
  /-- `PdfReader(entry).get_fields()`. -/
  getFields (entry : FilePath) : Except Exc (Option (List (String × AcroField)))
  /-- The form with these values and this `/ID`. -/
  writeForm (entry : FilePath) (values : List (String × String)) (documentId : Bytes) : Except Exc Bytes
  sha256 (text : String) : Bytes
  writeZip (members : Package) : Bytes

/-! ### The source -/

inductive Renderer
  | jinjaHtml
  | xlsx
  | docx
  | pdfForm
  deriving DecidableEq

/-- `DefaultRendererRegistry._renderers`. -/
def renderers : List ((Engine × OutputFormat) × Renderer) :=
  [((.jinjaHtml, .pdf), .jinjaHtml), ((.jinjaHtml, .html), .jinjaHtml), ((.xlsx, .xlsx), .xlsx),
    ((.docx, .docx), .docx), ((.pdfForm, .pdf), .pdfForm)]

/-- `DefaultRendererRegistry.get`. -/
def registryGet (engine : Engine) (fmt : OutputFormat) : Option Renderer := renderers.lookup (engine, fmt)

/-- `_FIXED_TIMESTAMP`. -/
def fixedTimestamp : ZipDate := ⟨2000, 1, 1, 0, 0, 0⟩

/-- `_NORMALISED_AUTHOR`. -/
def normalisedAuthor : String := "document-generation"

/-- `_normalise_properties` of the xlsx renderer. -/
def normaliseWorkbookProperties (props : CoreProperties) : CoreProperties :=
  { props with
    created := fixedTimestamp
    modified := fixedTimestamp
    author := normalisedAuthor
    lastModifiedBy := normalisedAuthor }

/-- `_normalise_properties` of the docx renderer, which sets the revision too. -/
def normaliseDocumentProperties (props : CoreProperties) : CoreProperties :=
  { normaliseWorkbookProperties props with revision := 1 }

/-- What the `except` clauses of a `render` raise. -/
def renderError (engine : String) : Exc → Exc
  | .docGen exc => .docGen exc
  | exc => .docGen ⟨.renderError, engine ++ " render failed: " ++ exc.str⟩

/-- The end of a `render`: the artifact of a content, or what the `except`
clauses raise. -/
def artifactOf (engine : String) (manifest : Manifest) (fmt : OutputFormat) (content : Except Exc Bytes) :
    Except Exc RenderedArtifact :=
  match content with
  | .error exc => .error (renderError engine exc)
  | .ok content => .ok ⟨fmt, manifest.filenameFor fmt, content⟩

/-- `render` of an engine that produces one format only. -/
def renderOnly (engine : String) (only : OutputFormat) (content : Except Exc Bytes) (manifest : Manifest)
    (fmt : OutputFormat) : Except Exc RenderedArtifact :=
  if fmt ≠ only then
    .error (.docGen ⟨.renderError, engine ++ " engine cannot produce " ++ pyRepr fmt.value⟩)
  else artifactOf engine manifest fmt content

section

variable {V δ : Type} (L : Libraries V δ) (files : Files) (extras : Manifest → ManifestExtras) (now : ZipDate)
  (bundle : TemplateBundle) (data : JsonDict) (locale : Option String)

/-- `manifest.resolve_entrypoint()`. -/
def entryName : String := resolveEntrypoint bundle.manifest (extras bundle.manifest).entrypoint

/-- The entry file of a template. -/
def entryFile : Except Exc FilePath := resolveTemplateFile files bundle.root (entryName extras bundle)

/-- `XlsxRenderer._render`. -/
def xlsxContent : Except Exc Bytes := do
  let entry ← entryFile files extras bundle
  let (wb, g, props) ← L.loadWorkbook entry
  let g ← fill L.openpyxl wb bundle.manifest data g
  let package ← L.saveWorkbook now wb g (normaliseWorkbookProperties props)
  return normaliseOoxmlBytes L.writeZip package

/-- `DocxRenderer._render`. -/
def docxContent : Except Exc Bytes := do
  let entry ← entryFile files extras bundle
  let (document, props) ← L.renderDocument entry data locale
  let package ← L.saveDocument now document (normaliseDocumentProperties props)
  return normaliseOoxmlBytes L.writeZip package

/-- `_pin_document_id`. -/
def documentId : Bytes := (L.sha256 (bundle.manifest.id ++ ":" ++ bundle.manifest.version)).take 16

/-- `PdfFormRenderer._render`, once the fields of the form are read. -/
def fillForm (entry : FilePath) (declared : List (String × AcroField)) : Except Exc Bytes :=
  if declared = [] then
    .error (.docGen ⟨.templateNotFoundError, "template " ++ pyRepr bundle.manifest.id ++
      " declares engine 'pdf-form' but " ++ pyRepr (entryName extras bundle) ++ " has no AcroForm fields"⟩)
  else do
    let values ← resolveValues (extras bundle.manifest).fields declared data
    L.writeForm entry values (documentId L bundle)

/-- `PdfFormRenderer._render`. -/
def pdfContent : Except Exc Bytes := do
  let entry ← entryFile files extras bundle
  let fields ← L.getFields entry
  fillForm L extras bundle data entry (fields.getD [])

/-- `Renderer.render`, at a time. -/
def render (renderer : Renderer) (fmt : OutputFormat) : Except Exc RenderedArtifact :=
  match renderer with
  | .jinjaHtml => jinjaRender (L.jinja data locale) files bundle (extras bundle.manifest).entrypoint fmt
  | .xlsx => renderOnly "xlsx" .xlsx (xlsxContent L files extras now bundle data) bundle.manifest fmt
  | .docx => renderOnly "docx" .docx (docxContent L files extras now bundle data locale) bundle.manifest fmt
  | .pdfForm => renderOnly "pdf-form" .pdf (pdfContent L files extras bundle data) bundle.manifest fmt

end

/-- The `except` clauses of `InlineRenderExecutor.run`. -/
def inlineFailure : Exc → Exc
  | .docGen exc => .docGen exc
  | exc => .docGen ⟨.renderError, "render failed: " ++ exc.str⟩

/-- `InlineRenderExecutor.run`, of what the renderer's `render` ends with. -/
def inlineRun (outcome : Except Exc RenderedArtifact) : Except Exc RenderedArtifact :=
  outcome.mapError inlineFailure

/-! ### The errors of the libraries -/

def Exc.isDocGen : Exc → Bool
  | .docGen _ => true
  | _ => false

/-- No error is a `DocGenError`. -/
abbrev Plain {α : Type} (x : Except Exc α) : Prop := Raises (fun exc => exc.isDocGen = false) x

/-- openpyxl raises no `DocGenError`. -/
structure Openpyxl.NoDocGen {V : Type} (o : Openpyxl V) : Prop where
  getItem : ∀ key, Plain (o.getItem key)
  coordinateToTuple : ∀ coordinate, Plain (o.coordinateToTuple coordinate)
  cell : ∀ p, Plain (o.cell p)
  bind : ∀ x, Plain (o.bind x)
  readOnly : o.readOnly.isDocGen = false
  noSheet : ∀ title, (o.noSheet title).isDocGen = false

/-- No library raises a `DocGenError`. -/
structure Libraries.NoDocGen {V δ : Type} (L : Libraries V δ) : Prop where
  getSource : ∀ data locale files root name, Plain ((L.jinja data locale).getSource files root name)
  renderTemplate : ∀ data locale entry, Plain ((L.jinja data locale).renderTemplate entry)
  writePdf : ∀ data locale html baseUrl, Plain ((L.jinja data locale).writePdf html baseUrl)
  openpyxl : L.openpyxl.NoDocGen
  loadWorkbook : ∀ entry, Plain (L.loadWorkbook entry)
  saveWorkbook : ∀ now wb g props, Plain (L.saveWorkbook now wb g props)
  renderDocument : ∀ entry data locale, Plain (L.renderDocument entry data locale)
  saveDocument : ∀ now document props, Plain (L.saveDocument now document props)
  getFields : ∀ entry, Plain (L.getFields entry)
  writeForm : ∀ entry values documentId, Plain (L.writeForm entry values documentId)

section

variable {V : Type} {o : Openpyxl V} {wb : Workbook} {m : Manifest} {data : JsonDict} {sheet : Worksheet} {p : Pos}
  {x : Json} {g : Grid V}

theorem plain_assign (ho : o.NoDocGen) : Plain (assign o sheet p x g) := by
  unfold assign
  split
  · exact raises_error ho.readOnly
  · exact raises_bind (ho.bind _) fun _ => raises_ok

theorem plain_getSheet (ho : o.NoDocGen) (title : String) : Plain (getSheet o wb title) := by
  unfold getSheet
  split
  · exact raises_ok
  · exact raises_error (ho.noSheet title)

theorem plain_applyDefinedNames (ho : o.NoDocGen) (skip : List String) (g : Grid V) :
    Plain (applyDefinedNames o wb data skip g) := by
  refine raises_foldlM (fun g defined => ?_) _ _
  unfold applyDefinedName
  split
  · exact raises_ok
  split
  · exact raises_ok
  refine raises_foldlM (fun g destination => ?_) _ _
  unfold applyDestination
  split
  · exact raises_ok
  refine raises_bind ?_ fun ⟨_, _⟩ => plain_assign ho
  exact raises_bind (plain_getSheet ho _) fun _ => raises_bind (ho.getItem _) fun _ => raises_ok

theorem plain_setCell (ho : o.NoDocGen) : Plain (setCell o sheet p x g) := by
  refine raises_bind (ho.cell _) fun _ => ?_
  split
  · split
    · exact raises_bind (ho.cell _) fun _ => plain_assign ho
    · exact raises_ok
  · exact plain_assign ho

theorem plain_writeRow (ho : o.NoDocGen) {first : Pos} {columns : List String} {row : Json × ℕ} :
    Plain (writeRow o sheet first columns g row) := by
  refine raises_foldlM (fun g column => raises_bind ?_ fun _ => plain_setCell ho) _ _
  unfold rowGet
  split
  · exact raises_ok
  · exact raises_error rfl

theorem plain_dictItems (cells : Json) : Plain (dictItems cells) := by
  unfold dictItems
  split
  · exact raises_ok
  split
  · refine raises_foldlM (fun items pair => ?_) _ _
    unfold dictPair
    split
    · exact raises_error rfl
    · exact raises_ok
    · exact raises_error rfl
    · exact raises_error rfl
  · exact raises_error rfl

theorem plain_cellRef (ho : o.NoDocGen) (ref : String) : Plain (cellRef o wb ref) := by
  unfold cellRef
  split
  · exact raises_bind (plain_getSheet ho _) fun _ => raises_bind (ho.getItem _) fun _ => raises_ok
  · exact raises_bind (ho.getItem _) fun _ => raises_ok

theorem plain_applyCells (ho : o.NoDocGen) (cells : Json) (g : Grid V) : Plain (applyCells o wb cells g) := by
  refine raises_bind (plain_dictItems cells) fun items => raises_foldlM (fun g item => ?_) _ _
  exact raises_bind (plain_cellRef ho _) fun ⟨_, _⟩ => plain_assign ho

theorem plain_resolveReference (ho : o.NoDocGen) (reference : String) :
    Plain (resolveReference o wb reference) := by
  have hrest : ∀ sheet, Plain (o.coordinateToTuple (remove '$' (rpartition '!' reference).2) >>= fun p =>
      (.ok (sheet, p) : Except Exc (Worksheet × Pos))) :=
    fun sheet => raises_bind (ho.coordinateToTuple _) fun _ => raises_ok
  unfold resolveReference
  split
  · exact raises_bind (plain_getSheet ho _) hrest
  · exact hrest _

/-- The block cannot be filled: its source is no list, or has more rows than the
block, or its anchor is a name that the workbook does not declare. -/
inductive BlockAtFault (wb : Workbook) (m : Manifest) (data : JsonDict) (block : BlockSpec) : Prop
  | notList {x : Json} (hx : data.lookup block.source = some x) (htruthy : x.truthy = true)
      (hlist : ∀ xs, x ≠ .arr xs)
  | tooLong {rows : List Json} {n : ℕ} (hrows : blockRows data block = .ok rows)
      (hn : m.blockCapacity block = .ok n) (hlt : n < rows.length)
  | undeclared {rows : List Json} {n : ℕ} {name : String} (hrows : blockRows data block = .ok rows)
      (hn : m.blockCapacity block = .ok n) (hle : rows.length ≤ n) (hname : block.anchorName = some name)
      (hnone : wb.definedName? name = none)

variable {block : BlockSpec}

/-- The rows of a block are refused exactly if its source is no list. -/
theorem blockRows_refuses (data : JsonDict) (block : BlockSpec) :
    (∀ x, data.lookup block.source = some x → x.truthy = true → (∀ xs, x ≠ .arr xs) →
      ∃ message, blockRows data block = .error (.docGen ⟨.schemaValidationError, message⟩)) ∧
    ∀ exc, blockRows data block = .error exc → (∃ message, exc = .docGen ⟨.schemaValidationError, message⟩) ∧
      ∃ x, data.lookup block.source = some x ∧ x.truthy = true ∧ ∀ xs, x ≠ .arr xs := by
  unfold blockRows
  constructor
  · intro x hx ht hlist
    simp only [hx, Option.getD_some, if_pos ht]
    cases x with
    | arr xs => exact absurd rfl (hlist xs)
    | _ => exact ⟨_, rfl⟩
  · intro exc h
    rcases hx : data.lookup block.source with _ | x
    · rw [hx] at h
      cases h
    simp only [hx, Option.getD_some] at h
    by_cases ht : x.truthy = true
    · rw [if_pos ht] at h
      split at h
      · cases h
      · rename_i hlist
        cases h
        exact ⟨⟨_, rfl⟩, x, rfl, ht, hlist⟩
    · rw [if_neg ht] at h
      cases h

/-- An anchor is refused exactly if it is a name that is not declared. -/
theorem resolveAnchor_refuses (ho : o.NoDocGen) (block : BlockSpec) :
    (∀ name, block.anchorName = some name → wb.definedName? name = none →
      ∃ message, resolveAnchor o wb block = .error (.docGen ⟨.schemaValidationError, message⟩)) ∧
    ∀ e, resolveAnchor o wb block = .error (.docGen e) → e.cls = .schemaValidationError ∧
      ∃ name, block.anchorName = some name ∧ wb.definedName? name = none := by
  unfold resolveAnchor
  constructor
  · intro name hname hnone
    simp only [hname, hnone]
    exact ⟨_, rfl⟩
  · intro e h
    split at h
    · rename_i name hname
      split at h
      · rename_i hnone
        cases h
        exact ⟨rfl, name, hname, hnone⟩
      · split at h
        · cases h
        · exact absurd (plain_resolveReference ho _ _ h) Bool.noConfusion
    · exact absurd (plain_resolveReference ho _ _ h) Bool.noConfusion

/-- One turn of `_apply_blocks` raises a `DocGenError` exactly if the block is
at fault. -/
theorem applyBlock_refuses (ho : o.NoDocGen) (g : Grid V) (block : BlockSpec) :
    (BlockAtFault wb m data block →
      ∃ message, applyBlock o wb m data g block = .error (.docGen ⟨.schemaValidationError, message⟩)) ∧
    ∀ e, applyBlock o wb m data g block = .error (.docGen e) →
      e.cls = .schemaValidationError ∧ BlockAtFault wb m data block := by
  obtain ⟨hrows₁, hrows₂⟩ := blockRows_refuses data block
  obtain ⟨hanchor₁, hanchor₂⟩ := @resolveAnchor_refuses _ _ wb ho block
  have hcapacity : ∀ {n : ℕ}, m.blockCapacity block = .ok n →
      (m.blockCapacity block).mapError Exc.valueError = .ok n := fun hn => by rw [hn]; rfl
  unfold applyBlock
  constructor
  · rintro (⟨hx, ht, hlist⟩ | ⟨hrows, hn, hlt⟩ | ⟨hrows, hn, hle, hname, hnone⟩)
    · obtain ⟨message, h⟩ := hrows₁ _ hx ht hlist
      exact ⟨message, bind_error.mpr (Or.inl h)⟩
    · exact ⟨_, bind_error.mpr (Or.inr ⟨_, hrows, bind_error.mpr (Or.inr ⟨_, hcapacity hn, if_pos hlt⟩)⟩)⟩
    · obtain ⟨message, h⟩ := hanchor₁ _ hname hnone
      refine ⟨message, bind_error.mpr (Or.inr ⟨_, hrows, bind_error.mpr (Or.inr ⟨_, hcapacity hn, ?_⟩)⟩)⟩
      rw [if_neg (Nat.not_lt.mpr hle)]
      exact bind_error.mpr (Or.inl h)
  · intro e h
    rcases bind_error.mp h with h | ⟨rows, hrows, h⟩
    · obtain ⟨⟨message, he⟩, x, hx, ht, hlist⟩ := hrows₂ _ h
      cases he
      exact ⟨rfl, .notList hx ht hlist⟩
    rcases hn : m.blockCapacity block with message | n
    · rw [hn] at h
      cases h
    rw [hn] at h
    rcases bind_error.mp h with h | ⟨n', hn', h⟩
    · cases h
    cases hn'
    split at h
    · rename_i hlt
      cases h
      exact ⟨rfl, .tooLong hrows hn hlt⟩
    · rename_i hlt
      rcases bind_error.mp h with h | ⟨⟨sheet, first⟩, -, h⟩
      · obtain ⟨hcls, name, hname, hnone⟩ := hanchor₂ e h
        exact ⟨hcls, .undeclared hrows hn (Nat.not_lt.mp hlt) hname hnone⟩
      · have hplain : Plain (rows.zipIdx.foldlM (writeRow o sheet first block.columns) g) :=
          raises_foldlM (fun _ _ => plain_writeRow ho) _ _
        rcases bind_error.mp h with h | ⟨g', -, h⟩
        · exact absurd (hplain _ h) Bool.noConfusion
        · cases h

/-- The first block that is at fault, with the grid its turn begins from. -/
def FillAtFault (o : Openpyxl V) (wb : Workbook) (m : Manifest) (data : JsonDict) (g : Grid V) : Prop :=
  ∃ g₁ pre block post g₂, applyDefinedNames o wb data (m.blocks.map BlockSpec.source) g = .ok g₁ ∧
    m.blocks = pre ++ block :: post ∧ pre.foldlM (applyBlock o wb m data) g₁ = .ok g₂ ∧
    BlockAtFault wb m data block

/-- The fill steps raise a `DocGenError` exactly if they come to a block that is
at fault. -/
theorem fill_refuses (ho : o.NoDocGen) (g : Grid V) :
    (FillAtFault o wb m data g →
      ∃ message, fill o wb m data g = .error (.docGen ⟨.schemaValidationError, message⟩)) ∧
    ∀ e, fill o wb m data g = .error (.docGen e) →
      e.cls = .schemaValidationError ∧ FillAtFault o wb m data g := by
  unfold fill
  constructor
  · rintro ⟨g₁, pre, block, post, g₂, hnames, hblocks, hpre, hfault⟩
    obtain ⟨message, h⟩ := (applyBlock_refuses ho g₂ block).1 hfault
    refine ⟨message, bind_error.mpr (Or.inr ⟨g₁, hnames, bind_error.mpr (Or.inl ?_)⟩)⟩
    exact foldlM_error.mpr ⟨pre, block, post, g₂, hblocks, hpre, h⟩
  · intro e h
    rcases bind_error.mp h with h | ⟨g₁, hnames, h⟩
    · exact absurd (plain_applyDefinedNames ho _ _ _ h) Bool.noConfusion
    rcases bind_error.mp h with h | ⟨g₃, -, h⟩
    · obtain ⟨pre, block, post, g₂, hblocks, hpre, hturn⟩ := foldlM_error.mp h
      obtain ⟨hcls, hfault⟩ := (applyBlock_refuses ho g₂ block).2 e hturn
      exact ⟨hcls, g₁, pre, block, post, g₂, hnames, hblocks, hpre, hfault⟩
    · exact absurd (plain_applyCells ho _ _ _ h) Bool.noConfusion

end

/-! ### What a render ends with -/

/-- A `DocGenError` is raised exactly where there is a fault, and is permanent. -/
structure PermanentFor {α : Type} (fault : Prop) (x : Except Exc α) : Prop where
  raised : fault → ∃ e, x = .error (.docGen e)
  permanent : ∀ e, x = .error (.docGen e) → e.cls.permanent = true ∧ fault

/-- What a render ends with: the artifact of its format, named after the
template, or a `DocGenError`, which is permanent exactly where there is a fault
and a `RenderError` otherwise. -/
structure Verdict (fault : Prop) (m : Manifest) (fmt : OutputFormat) (x : Except Exc RenderedArtifact) : Prop where
  artifact : ∀ art, x = .ok art → art.format = fmt ∧ art.filename = m.filenameFor fmt
  classified : ∀ exc, x = .error exc → ∃ e, exc = .docGen e ∧ (e.cls.permanent = false → e.cls = .renderError)
  permanent : (∃ e, x = .error (.docGen e) ∧ e.cls.permanent = true) ↔ fault

theorem verdict_artifactOf {fault : Prop} {content : Except Exc Bytes} (h : PermanentFor fault content)
    (engine : String) (m : Manifest) (fmt : OutputFormat) :
    Verdict fault m fmt (artifactOf engine m fmt content) := by
  rcases content with exc | content
  · have hraised : ∀ e, artifactOf engine m fmt (.error (.docGen e)) = .error (.docGen e) := fun _ => rfl
    refine ⟨fun art hart => (by cases hart), fun exc' hexc => ?_, ?_⟩
    · cases exc with
      | docGen e =>
        cases hexc
        obtain ⟨hpermanent, -⟩ := h.permanent e rfl
        exact ⟨e, rfl, fun hnot => absurd (hpermanent.symm.trans hnot) Bool.noConfusion⟩
      | _ =>
        cases hexc
        exact ⟨_, rfl, fun _ => rfl⟩
    · constructor
      · rintro ⟨e, he, hpermanent⟩
        cases exc with
        | docGen e' =>
          cases he
          exact (h.permanent _ rfl).2
        | _ =>
          cases he
          cases hpermanent
      · intro hfault
        obtain ⟨e, he⟩ := h.raised hfault
        rw [he, hraised]
        exact ⟨e, rfl, (h.permanent e he).1⟩
  · refine ⟨fun art hart => ?_, fun exc hexc => (by cases hexc), ?_⟩
    · cases hart
      exact ⟨rfl, rfl⟩
    · constructor
      · rintro ⟨e, he, -⟩
        cases he
      · intro hfault
        obtain ⟨e, he⟩ := h.raised hfault
        cases he

/-- The jinja-html renderer ends like the others. -/
theorem jinjaRender_eq (jinja : Jinja) (files : Files) (bundle : TemplateBundle) (entrypoint : Option String)
    (fmt : OutputFormat) : jinjaRender jinja files bundle entrypoint fmt =
      artifactOf "jinja-html" bundle.manifest fmt (htmlContent jinja files bundle entrypoint fmt) := by
  unfold jinjaRender artifactOf
  rcases htmlContent jinja files bundle entrypoint fmt with exc | content
  · cases exc <;> rfl
  · rfl

section

variable {V δ : Type} (L : Libraries V δ) (files : Files) (extras : Manifest → ManifestExtras)
  (bundle : TemplateBundle) (data : JsonDict)

/-- The name of the entry file is one that the system takes, and leads out of
the template's root or to no file. -/
def EntryMissing : Prop := Readable files bundle.root (entryName extras bundle) ∧
  ¬ (Within bundle.root (Path.join bundle.root (entryName extras bundle)) ∧
    files.isFile (Path.join bundle.root (entryName extras bundle)) = true)

/-- The form has no fields, or a key is mapped to one that it does not declare. -/
def FormAtFault (mapping : List (String × FieldTarget)) (declared : List (String × AcroField)) : Prop :=
  declared = [] ∨ ∃ item ∈ mapping, Undeclared declared item

/-- The template or the data is at fault: the entry file is missing, a block of
the workbook cannot be filled, or the form does not fit the manifest. -/
inductive AtFault : Renderer → Prop
  | entry (renderer : Renderer) (h : EntryMissing files extras bundle) : AtFault renderer
  | block {entry : FilePath} {wb : Workbook} {g : Grid V} {props : CoreProperties}
      (hentry : entryFile files extras bundle = .ok entry) (hload : L.loadWorkbook entry = .ok (wb, g, props))
      (h : FillAtFault L.openpyxl wb bundle.manifest data g) : AtFault .xlsx
  | form {entry : FilePath} {fields : Option (List (String × AcroField))}
      (hentry : entryFile files extras bundle = .ok entry) (hfields : L.getFields entry = .ok fields)
      (h : FormAtFault (extras bundle.manifest).fields (fields.getD [])) : AtFault .pdfForm

variable {L files extras bundle data}

theorem entryFile_error {e : DocGenError} (h : entryFile files extras bundle = .error (.docGen e)) :
    e.cls.permanent = true ∧ EntryMissing files extras bundle := by
  have hcases := resolveTemplateFile_outcome files bundle.root (entryName extras bundle)
  rw [show resolveTemplateFile files bundle.root (entryName extras bundle) = _ from h] at hcases
  cases hcases with
  | outside hplain hout message => exact ⟨rfl, ⟨hplain, fun hin => absurd hin hout⟩, fun hfound => hout hfound.1⟩
  | missing hplain _ hshort hmiss message =>
    exact ⟨rfl, ⟨hplain, fun _ => hshort⟩, fun hfound => Bool.noConfusion (hmiss.symm.trans hfound.2)⟩

theorem entryFile_missing (h : EntryMissing files extras bundle) :
    ∃ message, entryFile files extras bundle = .error (.docGen ⟨.templateNotFoundError, message⟩) := by
  rcases hentry : entryFile files extras bundle with exc | entry
  · obtain ⟨message, rfl⟩ := (resolved_error hentry).mpr h.1
    exact ⟨message, rfl⟩
  · obtain ⟨-, hin, -, hfile⟩ := resolved_ok hentry
    exact absurd ⟨hin, hfile⟩ h.2

/-- A content that starts with the entry file, and goes on with `f`. -/
theorem permanent_entry {fault : Prop} {f : FilePath → Except Exc Bytes}
    (hmissing : EntryMissing files extras bundle → fault)
    (hfault : fault → EntryMissing files extras bundle ∨
      ∃ entry e, entryFile files extras bundle = .ok entry ∧ f entry = .error (.docGen e))
    (hf : ∀ entry, entryFile files extras bundle = .ok entry →
      ∀ e, f entry = .error (.docGen e) → e.cls.permanent = true ∧ fault) :
    PermanentFor fault (entryFile files extras bundle >>= f) := by
  constructor
  · intro h
    rcases hfault h with h | ⟨entry, e, hentry, he⟩
    · obtain ⟨message, herr⟩ := entryFile_missing h
      exact ⟨_, bind_error.mpr (Or.inl herr)⟩
    · exact ⟨e, bind_error.mpr (Or.inr ⟨entry, hentry, he⟩)⟩
  · intro e h
    rcases bind_error.mp h with h | ⟨entry, hentry, h⟩
    · exact (entryFile_error h).imp_right hmissing
    · exact hf entry hentry e h

theorem permanent_xlsx (hL : L.NoDocGen) (now : ZipDate) :
    PermanentFor (AtFault L files extras bundle data .xlsx) (xlsxContent L files extras now bundle data) := by
  refine permanent_entry (.entry _) (fun h => ?_) fun entry hentry e h => ?_
  · cases h with
    | entry _ h => exact Or.inl h
    | @block entry wb g props hentry hload h =>
      obtain ⟨message, hfill⟩ := (fill_refuses hL.openpyxl g).1 h
      refine Or.inr ⟨entry, _, hentry, bind_error.mpr (Or.inr ⟨_, hload, bind_error.mpr (Or.inl hfill)⟩)⟩
  · rcases bind_error.mp h with h | ⟨⟨wb, g, props⟩, hload, h⟩
    · exact absurd (hL.loadWorkbook _ _ h) Bool.noConfusion
    rcases bind_error.mp h with h | ⟨g', -, h⟩
    · obtain ⟨hcls, hfault⟩ := (fill_refuses hL.openpyxl g).2 e h
      rw [hcls]
      exact ⟨rfl, .block hentry hload hfault⟩
    rcases bind_error.mp h with h | ⟨package, -, h⟩
    · exact absurd (hL.saveWorkbook _ _ _ _ _ h) Bool.noConfusion
    · cases h

theorem permanent_docx (hL : L.NoDocGen) (now : ZipDate) (locale : Option String) :
    PermanentFor (AtFault L files extras bundle data .docx)
      (docxContent L files extras now bundle data locale) := by
  refine permanent_entry (.entry _) (fun h => ?_) fun entry hentry e h => ?_
  · cases h with
    | entry _ h => exact Or.inl h
  · rcases bind_error.mp h with h | ⟨⟨document, props⟩, -, h⟩
    · exact absurd (hL.renderDocument _ _ _ _ h) Bool.noConfusion
    rcases bind_error.mp h with h | ⟨package, -, h⟩
    · exact absurd (hL.saveDocument _ _ _ _ h) Bool.noConfusion
    · cases h

/-- The form is refused exactly if it does not fit the manifest. -/
theorem fillForm_refuses (hL : L.NoDocGen) (entry : FilePath) (declared : List (String × AcroField)) :
    (FormAtFault (extras bundle.manifest).fields declared →
      ∃ e, fillForm L extras bundle data entry declared = .error (.docGen e)) ∧
    ∀ e, fillForm L extras bundle data entry declared = .error (.docGen e) → e.cls.permanent = true ∧
      FormAtFault (extras bundle.manifest).fields declared := by
  obtain ⟨hraises, hclass⟩ := @resolve_values_error declared data (extras bundle.manifest).fields
  unfold fillForm
  by_cases hempty : declared = []
  · rw [if_pos hempty]
    refine ⟨fun _ => ⟨_, rfl⟩, fun e h => ?_⟩
    cases h
    exact ⟨rfl, Or.inl hempty⟩
  rw [if_neg hempty]
  constructor
  · rintro (h | h)
    · exact absurd h hempty
    · obtain ⟨exc, herr⟩ := hraises.mpr h
      obtain ⟨message, rfl⟩ := hclass exc herr
      exact ⟨_, bind_error.mpr (Or.inl herr)⟩
  · intro e h
    rcases bind_error.mp h with h | ⟨values, -, h⟩
    · obtain ⟨message, he⟩ := hclass _ h
      cases he
      exact ⟨rfl, Or.inr (hraises.mp ⟨_, h⟩)⟩
    · exact absurd (hL.writeForm _ _ _ _ h) Bool.noConfusion

theorem permanent_pdf (hL : L.NoDocGen) :
    PermanentFor (AtFault L files extras bundle data .pdfForm) (pdfContent L files extras bundle data) := by
  refine permanent_entry (.entry _) (fun h => ?_) fun entry hentry e h => ?_
  · cases h with
    | entry _ h => exact Or.inl h
    | @form entry fields hentry hfields h =>
      obtain ⟨e, he⟩ := (fillForm_refuses hL entry (fields.getD [])).1 h
      exact Or.inr ⟨entry, e, hentry, bind_error.mpr (Or.inr ⟨fields, hfields, he⟩)⟩
  · rcases bind_error.mp h with h | ⟨fields, hfields, h⟩
    · exact absurd (hL.getFields _ _ h) Bool.noConfusion
    · obtain ⟨hpermanent, hfault⟩ := (fillForm_refuses hL entry (fields.getD [])).2 e h
      exact ⟨hpermanent, .form hentry hfields hfault⟩

/-- The jinja-html engine, whatever it makes of the text. -/
theorem permanent_html (hL : L.NoDocGen) (locale : Option String) {content : String → Except Exc Bytes}
    (hcontent : ∀ html, Plain (content html)) : PermanentFor (AtFault L files extras bundle data .jinjaHtml)
      ((renderHtml (L.jinja data locale) files bundle.root (entryName extras bundle)).bind content) := by
  have heq : (renderHtml (L.jinja data locale) files bundle.root (entryName extras bundle)).bind content =
      entryFile files extras bundle >>= fun _ =>
        (((L.jinja data locale).getSource files bundle.root (entryName extras bundle)).bind
          (L.jinja data locale).renderTemplate) >>= content := by
    unfold renderHtml openEntry entryFile
    rcases resolveTemplateFile files bundle.root (entryName extras bundle) with exc | entry <;> rfl
  rw [heq]
  refine permanent_entry (.entry _) (fun h => ?_) fun entry hentry e h => ?_
  · cases h with
    | entry _ h => exact Or.inl h
  · rcases bind_error.mp h with h | ⟨html, -, h⟩
    · rcases bind_error.mp h with h | ⟨source, -, h⟩
      · exact absurd (hL.getSource _ _ _ _ _ _ h) Bool.noConfusion
      · exact absurd (hL.renderTemplate _ _ _ _ h) Bool.noConfusion
    · exact absurd (hcontent _ _ h) Bool.noConfusion

end

/-- The registry's renderer of an engine produces the format. -/
theorem registryGet_some {engine : Engine} {fmt : OutputFormat} {renderer : Renderer}
    (h : registryGet engine fmt = some renderer) :
    (renderer = .jinjaHtml ∧ (fmt = .pdf ∨ fmt = .html)) ∨ (renderer = .xlsx ∧ fmt = .xlsx) ∨
      (renderer = .docx ∧ fmt = .docx) ∨ (renderer = .pdfForm ∧ fmt = .pdf) := by
  revert h
  cases engine <;> cases fmt <;> cases renderer <;> decide

section

variable {V δ : Type} {L : Libraries V δ} {files : Files} {extras : Manifest → ManifestExtras}
  {bundle : TemplateBundle} {data : JsonDict}

/-- **The verdict of a render.** A renderer that the registry has for a format
returns the artifact of that format, named after the template, or raises a
`DocGenError`: a permanent one exactly if the template or the data is at fault,
a `RenderError` otherwise. -/
theorem render_verdict (hL : L.NoDocGen) {engine : Engine} {fmt : OutputFormat} {renderer : Renderer}
    (hget : registryGet engine fmt = some renderer) (now : ZipDate) (locale : Option String) :
    Verdict (AtFault L files extras bundle data renderer) bundle.manifest fmt
      (render L files extras now bundle data locale renderer fmt) := by
  rcases registryGet_some hget with ⟨rfl, rfl | rfl⟩ | ⟨rfl, rfl⟩ | ⟨rfl, rfl⟩ | ⟨rfl, rfl⟩
  · rw [render, jinjaRender_eq]
    exact verdict_artifactOf (permanent_html hL locale fun html => hL.writePdf data locale html _) ..
  · rw [render, jinjaRender_eq]
    exact verdict_artifactOf (permanent_html hL locale fun html => raises_ok) ..
  · exact verdict_artifactOf (permanent_xlsx hL now) ..
  · exact verdict_artifactOf (permanent_docx hL now locale) ..
  · exact verdict_artifactOf (permanent_pdf hL) ..

end

/-! ### Libraries that stamp what they save -/

/-- Documents of one part, saved with the time. -/
def stampLibraries : Libraries (Option String) Unit where
  jinja _ _ := emptyJinja
  openpyxl := plainOpenpyxl
  loadWorkbook _ := .error (.other "BadZipFile" "File is not a zip file")
  saveWorkbook now _ _ _ := .ok [⟨"xl/workbook.xml", now, [1]⟩]
  renderDocument _ _ _ := .ok ((), ⟨fixedTimestamp, fixedTimestamp, "", "", 1⟩)
  saveDocument now _ _ := .ok [⟨"word/document.xml", now, [1]⟩]
  getFields _ := .ok none
  writeForm _ _ _ := .ok []
  sha256 _ := []
  writeZip members := members.flatMap Member.content

theorem plain_parseA1 (coordinate : String) : Plain (parseA1 coordinate) := by
  unfold parseA1
  dsimp only
  split
  · exact raises_ok
  · exact raises_error rfl

theorem plainOpenpyxl_noDocGen : plainOpenpyxl.NoDocGen where
  getItem key := plain_getItem key ▸ plain_parseA1 _
  coordinateToTuple coordinate := plain_parseA1 coordinate
  cell p := by
    show Plain (ite _ _ _)
    split
    · exact raises_ok
    · exact raises_error rfl
  bind x := by
    cases x with
    | null => exact raises_ok
    | str s => exact raises_ok
    | _ => exact raises_error rfl
  readOnly := rfl
  noSheet _ := rfl

theorem stampLibraries_noDocGen : stampLibraries.NoDocGen where
  getSource _ _ files root name := by
    show Plain (ite _ _ _)
    split
    · exact raises_error rfl
    split
    · exact raises_ok
    · exact raises_error rfl
  renderTemplate _ _ _ := raises_ok
  writePdf _ _ _ _ := raises_ok
  openpyxl := plainOpenpyxl_noDocGen
  loadWorkbook _ := raises_error rfl
  saveWorkbook _ _ _ _ := raises_ok
  renderDocument _ _ _ := raises_ok
  saveDocument _ _ _ := raises_ok
  getFields _ := raises_ok
  writeForm _ _ _ := raises_ok

/-- A docx template. -/
def docxBundle : TemplateBundle where
  manifest := { invoiceManifest with engine := .docx, supportedFormats := [.docx] }
  root := ["cache", "agreement"]

def noExtras (_ : Manifest) : ManifestExtras := ⟨none, []⟩

/-- The directory of the template is not there. -/
theorem render_verdict_missing : ∃ e, render stampLibraries htmlFiles noExtras fixedTimestamp docxBundle [] none
    .docx .docx = .error (.docGen e) ∧ e.cls.permanent = true := by
  refine (@render_verdict _ _ _ htmlFiles noExtras docxBundle [] stampLibraries_noDocGen .docx .docx .docx rfl
    fixedTimestamp none).permanent.mpr (.entry _ ⟨⟨by decide, fun _ => by decide⟩, by decide⟩)

/-! ### The time of a render -/

/-- Two saves of one document: both raise the same, or the packages differ but
in the order, the dates and the times. -/
inductive SameSave : Except Exc Package → Except Exc Package → Prop
  | raised (exc : Exc) : SameSave (.error exc) (.error exc)
  | saved {package package' : Package} (h : SamePackage package package') : SameSave (.ok package) (.ok package')

/-- The time of a save reaches nothing but the dates and the times. -/
structure Libraries.Timeless {V δ : Type} (L : Libraries V δ) : Prop where
  saveWorkbook : ∀ now now' wb g props, SameSave (L.saveWorkbook now wb g props) (L.saveWorkbook now' wb g props)
  saveDocument : ∀ now now' document props,
    SameSave (L.saveDocument now document props) (L.saveDocument now' document props)

theorem SameSave.normalised {save save' : Except Exc Package} (h : SameSave save save') (write : Package → Bytes) :
    (save >>= fun package => (.ok (normaliseOoxmlBytes write package) : Except Exc Bytes)) =
      save' >>= fun package => .ok (normaliseOoxmlBytes write package) := by
  cases h with
  | raised exc => rfl
  | saved h => exact congrArg (fun package => Except.ok (write package)) h.repack_eq

section

variable {V δ : Type} {L : Libraries V δ} {files : Files} {extras : Manifest → ManifestExtras}
  {bundle : TemplateBundle} {data : JsonDict}

/-- What a render ends with does not depend on the time. -/
theorem render_timeless (hL : L.Timeless) (now now' : ZipDate) (locale : Option String) (renderer : Renderer)
    (fmt : OutputFormat) : render L files extras now bundle data locale renderer fmt =
      render L files extras now' bundle data locale renderer fmt := by
  have hxlsx : xlsxContent L files extras now bundle data = xlsxContent L files extras now' bundle data := by
    refine congrArg (entryFile files extras bundle >>= ·) (funext fun entry => ?_)
    refine congrArg (L.loadWorkbook entry >>= ·) (funext fun ⟨wb, g, props⟩ => ?_)
    exact congrArg (fill L.openpyxl wb bundle.manifest data g >>= ·)
      (funext fun _ => (hL.saveWorkbook now now' ..).normalised _)
  have hdocx : docxContent L files extras now bundle data locale =
      docxContent L files extras now' bundle data locale := by
    refine congrArg (entryFile files extras bundle >>= ·) (funext fun entry => ?_)
    exact congrArg (L.renderDocument entry data locale >>= ·)
      (funext fun ⟨_, _⟩ => (hL.saveDocument now now' ..).normalised _)
  cases renderer with
  | jinjaHtml => rfl
  | xlsx => rw [render, render, hxlsx]
  | docx => rw [render, render, hdocx]
  | pdfForm => rfl

theorem artifactOf_error {engine : String} {m : Manifest} {fmt : OutputFormat} {content : Except Exc Bytes}
    {exc : Exc} (h : artifactOf engine m fmt content = .error exc) : ∃ e, exc = .docGen e := by
  rcases content with exc' | content
  · cases h
    cases exc' <;> exact ⟨_, rfl⟩
  · cases h

theorem renderOnly_error {engine : String} {only fmt : OutputFormat} {m : Manifest} {content : Except Exc Bytes}
    {exc : Exc} (h : renderOnly engine only content m fmt = .error exc) : ∃ e, exc = .docGen e := by
  unfold renderOnly at h
  split at h
  · cases h
    exact ⟨_, rfl⟩
  · exact artifactOf_error h

/-- A render raises nothing but a `DocGenError`, whatever the libraries raise. -/
theorem render_error {now : ZipDate} {locale : Option String} {renderer : Renderer} {fmt : OutputFormat} {exc : Exc}
    (h : render L files extras now bundle data locale renderer fmt = .error exc) : ∃ e, exc = .docGen e := by
  cases renderer with
  | jinjaHtml =>
    rw [render, jinjaRender_eq] at h
    exact artifactOf_error h
  | xlsx => exact renderOnly_error h
  | docx => exact renderOnly_error h
  | pdfForm => exact renderOnly_error h

/-- The answers to the calls of the executor: those of the semaphore return, and
a job ends as its render does at some time, or with its pool broken. -/
def ExecutorAnswer (L : Libraries V δ) (files : Files) (extras : Manifest → ManifestExtras) :
    Event (executorSig Renderer) Exc → Prop
  | ⟨.runInExecutor job, x⟩ =>
    (∃ now, x = render L files extras now job.bundle job.data job.locale job.renderer job.fmt) ∨
      ∃ message, x = .error (.brokenProcessPool message)
  | e => e.Ok

/-- Every call but the job itself is one of the semaphore's, and returns. -/
theorem ExecutorAnswer.job_or_ok {e : Event (executorSig Renderer) Exc} (h : ExecutorAnswer L files extras e) :
    (∃ job, e.op = .runInExecutor job) ∨ e.Ok := by
  obtain ⟨op, x⟩ := e
  cases op with
  | runInExecutor job => exact Or.inl ⟨job, rfl⟩
  | acquire => exact Or.inr h
  | release => exact Or.inr h

/-- An executor that hands on every `DocGenError` hands on what a render ends with. -/
theorem render_mapError {f : Exc → Exc} (hf : ∀ e, f (.docGen e) = .docGen e) {now : ZipDate}
    {locale : Option String} {renderer : Renderer} {fmt : OutputFormat} :
    (render L files extras now bundle data locale renderer fmt).mapError f =
      render L files extras now bundle data locale renderer fmt := by
  rcases hx : render L files extras now bundle data locale renderer fmt with exc | art
  · obtain ⟨e, rfl⟩ := render_error hx
    exact congrArg Except.error (hf e)
  · rfl

/-- A run of the executor ends as the render does, or its pool broke under the job. -/
theorem processPoolRun_render {semaphore : Bool} {job : Job Renderer}
    {tr : List (Event (executorSig Renderer) Exc)} {r : Except Exc RenderedArtifact}
    (h : (processPoolRun semaphore job).Runs tr r) (hans : ∀ e ∈ tr, ExecutorAnswer L files extras e) :
    (∃ now, r = render L files extras now job.bundle job.data job.locale job.renderer job.fmt) ∨
      ∃ message, (⟨.runInExecutor job, .error (.brokenProcessPool message)⟩ : Event (executorSig Renderer) Exc) ∈ tr ∧
        r = .error (.docGen ⟨.renderError, "render pool broken: " ++ message⟩) := by
  obtain ⟨x, rfl, hmem⟩ := processPoolRun_answer h fun e he => (hans e he).job_or_ok
  rcases hans _ hmem with ⟨now, rfl⟩ | ⟨message, rfl⟩
  · exact Or.inl ⟨now, render_mapError fun _ => rfl⟩
  · exact Or.inr ⟨message, hmem, rfl⟩

/-- **Executors agree.** Through the pool a render ends as it does inline,
whenever either of the two is made, unless the pool broke under the job: then
with the error that is retried. -/
theorem executors_agree (hL : L.Timeless) {semaphore : Bool} {job : Job Renderer}
    {tr : List (Event (executorSig Renderer) Exc)} {r : Except Exc RenderedArtifact}
    (h : (processPoolRun semaphore job).Runs tr r) (hans : ∀ e ∈ tr, ExecutorAnswer L files extras e)
    (now : ZipDate) :
    r = inlineRun (render L files extras now job.bundle job.data job.locale job.renderer job.fmt) ∨
      ∃ message, (⟨.runInExecutor job, .error (.brokenProcessPool message)⟩ : Event (executorSig Renderer) Exc) ∈ tr ∧
        r = .error (.docGen ⟨.renderError, "render pool broken: " ++ message⟩) := by
  rcases processPoolRun_render h hans with ⟨now', rfl⟩ | hbroken
  · rw [inlineRun, render_mapError fun _ => rfl]
    exact Or.inl (render_timeless hL now' now job.locale job.renderer job.fmt)
  · exact Or.inr hbroken

end

theorem stampLibraries_timeless : stampLibraries.Timeless where
  saveWorkbook now now' _ _ _ := by
    refine .saved ⟨fun name => Iff.rfl, fun name _ => rfl, fun b b' hb hb' => ?_⟩
    simp [Package.read, lastAt, corePropsName] at hb
  saveDocument now now' _ _ := by
    refine .saved ⟨fun name => Iff.rfl, fun name _ => rfl, fun b b' hb hb' => ?_⟩
    simp [Package.read, lastAt, corePropsName] at hb

def docxFiles : Files :=
  (FileTree.empty.addDirs ["cache", "agreement"]).setEntry ["cache", "agreement"] "template.docx"
    (.file []) rfl rfl

def docxJob : Job Renderer :=
  ⟨.docx, docxBundle, [], .docx, none⟩

def docxArtifact : RenderedArtifact :=
  ⟨.docx, "invoice.docx", [1]⟩

/-- The calls of one render in the pool, and how the job ended. -/
def docxCalls (x : Except Exc RenderedArtifact) : List (Event (executorSig Renderer) Exc) :=
  [⟨.acquire, .ok ()⟩, ⟨.runInExecutor docxJob, x⟩, ⟨.release, .ok ()⟩]

theorem docxCalls_runs {x : Except Exc RenderedArtifact} :
    (processPoolRun true docxJob).Runs (docxCalls x) (x.mapError renderFailure) := by
  cases x <;> exact ⟨_, _, rfl, _, _, rfl, _, _, rfl, rfl, rfl⟩

/-- The artifact of a render in the pool, and of one inline at a later time; and
the same render in a pool that breaks. -/
theorem executors_agree_docx :
    ((processPoolRun true docxJob).Runs (docxCalls (.ok docxArtifact)) (.ok docxArtifact) ∧
      inlineRun (render stampLibraries docxFiles noExtras ⟨2026, 6, 18, 8, 0, 0⟩ docxBundle [] none .docx .docx) =
        .ok docxArtifact) ∧
    ∀ message, (processPoolRun true docxJob).Runs (docxCalls (.error (.brokenProcessPool message)))
      (.error (.docGen ⟨.renderError, "render pool broken: " ++ message⟩)) := by
  have hrender : render stampLibraries docxFiles noExtras fixedTimestamp docxBundle [] none .docx .docx =
      .ok docxArtifact := by decide
  have hans : ∀ e ∈ docxCalls (.ok docxArtifact), ExecutorAnswer stampLibraries docxFiles noExtras e := by
    simp only [docxCalls, List.forall_mem_cons]
    exact ⟨⟨(), rfl⟩, Or.inl ⟨fixedTimestamp, hrender.symm⟩, ⟨(), rfl⟩, List.forall_mem_nil _⟩
  have hrun : (processPoolRun true docxJob).Runs (docxCalls (.ok docxArtifact)) (.ok docxArtifact) :=
    docxCalls_runs
  refine ⟨⟨hrun, ?_⟩, fun message => docxCalls_runs⟩
  rcases executors_agree stampLibraries_timeless hrun hans ⟨2026, 6, 18, 8, 0, 0⟩ with h | ⟨_, -, h⟩
  · exact h.symm
  · cases h

end DocGen
