/-
# The jinja-html engine and its entry file

`adapters/renderers/jinja_html_pdf.py`: the guard resolves the manifest's
entrypoint under the template's root, and Jinja's loader is then given the name
itself and resolves it in its own way. Jinja and WeasyPrint are parameters;
what the loader does with a name is a hypothesis, `Jinja.Loads`.
-/
import DocGen.Confinement

namespace DocGen

open DocGen.Path

/-! ### The entrypoint -/

/-- `_DEFAULT_ENTRYPOINT`. -/
def Engine.defaultEntrypoint : Engine → String
  | .jinjaHtml => "template.html"
  | .xlsx => "template.xlsx"
  | .docx => "template.docx"
  | .pdfForm => "template.pdf"

/-- `resolve_entrypoint`, of a manifest with this `entrypoint`. -/
def resolveEntrypoint (manifest : Manifest) (entrypoint : Option String) : String :=
  (entrypoint.filter (· ≠ "")).getD manifest.engine.defaultEntrypoint

/-! ### The engine -/

/-- Jinja and WeasyPrint, for the data and locale of one request: the file that
`FileSystemLoader(root)` opens for a name, the text that the template of a file
renders to, and the PDF of a text. -/
structure Jinja where
  getSource : Files → FilePath → String → Except Exc FilePath
  renderTemplate : FilePath → Except Exc String
  writePdf : String → String → Except Exc Bytes

/-- What the loader leaves of a name: its pieces, without the empty ones and
those that are `.`. -/
def pieces (name : String) : FilePath := (split '/' name).filter fun piece => piece ≠ "" ∧ piece ≠ "."

/-- The loader refuses a name with a `..` piece, and otherwise opens what its
pieces lead to from the root, if there is a file. -/
structure Jinja.Loads (jinja : Jinja) : Prop where
  refuses : ∀ files root name, ".." ∈ split '/' name →
    ∃ message, jinja.getSource files root name = .error (.other "TemplateNotFound" message)
  opens : ∀ files root name, ".." ∉ split '/' name → files.isFile (root ++ pieces name) = true →
    jinja.getSource files root name = .ok (root ++ pieces name)
  misses : ∀ files root name, ".." ∉ split '/' name → files.isFile (root ++ pieces name) = false →
    ∃ message, jinja.getSource files root name = .error (.other "TemplateNotFound" message)

section

variable (jinja : Jinja) (files : Files)

/-- The file that `_render_html` opens. What the guard returns is dropped. -/
def openEntry (root : FilePath) (entrypoint : String) : Except Exc FilePath := do
  let _ ← resolveTemplateFile files root entrypoint
  jinja.getSource files root entrypoint

/-- `_render_html`. -/
def renderHtml (root : FilePath) (entrypoint : String) : Except Exc String :=
  (openEntry jinja files root entrypoint).bind jinja.renderTemplate

/-- What the `except` clauses of `render` raise. -/
def htmlError : Exc → Exc
  | .docGen exc => .docGen exc
  | exc => .docGen ⟨.renderError, "jinja-html render failed: " ++ exc.str⟩

/-- The body of the `try` in `render`. -/
def htmlContent (bundle : TemplateBundle) (entrypoint : Option String) (fmt : OutputFormat) :
    Except Exc Bytes :=
  (renderHtml jinja files bundle.root (resolveEntrypoint bundle.manifest entrypoint)).bind fun html =>
    match fmt with
    | .html => .ok html.toUTF8.toList
    | .pdf => jinja.writePdf html (pathText bundle.root)
    | fmt => .error (.docGen ⟨.renderError, "jinja-html engine cannot produce " ++ pyRepr fmt.value⟩)

/-- `render`. -/
def jinjaRender (bundle : TemplateBundle) (entrypoint : Option String) (fmt : OutputFormat) :
    Except Exc RenderedArtifact :=
  match htmlContent jinja files bundle entrypoint fmt with
  | .error exc => .error (htmlError exc)
  | .ok content => .ok ⟨fmt, bundle.manifest.filenameFor fmt, content⟩

end

/-! ### One name, resolved twice -/

/-- The name does not climb, and does not start at another root. -/
def ReadAlike (root : FilePath) (name : String) : Prop :=
  ".." ∉ split '/' name ∧ (name.toList.head? = some '/' → root = [])

instance (root : FilePath) (name : String) : Decidable (ReadAlike root name) :=
  inferInstanceAs (Decidable (_ ∧ _))

/-- A name that does not climb, resolved by the guard. -/
theorem join_pieces {root : FilePath} {name : String} (h : ".." ∉ split '/' name) :
    Path.join root name = (if name.toList.head? = some '/' then [] else root) ++ pieces name :=
  walk_down _ h

/-- Guard and loader agree on such a name if they start at one root. -/
theorem join_eq_iff {root : FilePath} {name : String} (h : ".." ∉ split '/' name) :
    Path.join root name = root ++ pieces name ↔ (name.toList.head? = some '/' → root = []) := by
  rw [join_pieces h, List.append_left_inj]
  by_cases habs : name.toList.head? = some '/'
  · rw [if_pos habs]
    exact ⟨fun h _ => h.symm, fun h => (h habs).symm⟩
  · rw [if_neg habs]
    exact ⟨fun _ h => absurd h habs, fun _ => rfl⟩

theorem readAlike_default (root : FilePath) (engine : Engine) : ReadAlike root engine.defaultEntrypoint := by
  cases engine <;> exact ⟨by decide, fun h => absurd h (by decide)⟩

/-- An entrypoint that the engine does not confuse: the system takes it, and
where it leads to a file it is read alike. -/
structure EntryFit (files : Files) (root : FilePath) (name : String) : Prop extends Readable files root name where
  alike : Within root (Path.join root name) → files.isFile (Path.join root name) = true → ReadAlike root name

section

variable {jinja : Jinja} {files : Files} {root target : FilePath} {name : String}

/-- The loader opens the file that the guard resolved exactly for these names. -/
theorem getSource_resolved_iff (hjinja : jinja.Loads)
    (h : resolveTemplateFile files root name = .ok target) :
    jinja.getSource files root name = .ok target ↔ ReadAlike root name := by
  obtain ⟨-, -, rfl, hfile⟩ := resolved_ok h
  constructor
  · intro hopen
    by_cases hclimb : ".." ∈ split '/' name
    · obtain ⟨message, herr⟩ := hjinja.refuses files root name hclimb
      rw [herr] at hopen
      cases hopen
    refine ⟨hclimb, (join_eq_iff hclimb).mp ?_⟩
    by_cases hthere : files.isFile (root ++ pieces name) = true
    · rw [hjinja.opens files root name hclimb hthere] at hopen
      exact (Except.ok.inj hopen).symm
    · obtain ⟨message, herr⟩ := hjinja.misses files root name hclimb (Bool.not_eq_true _ ▸ hthere)
      rw [herr] at hopen
      cases hopen
  · rintro ⟨hclimb, hroot⟩
    have heq := (join_eq_iff hclimb).mpr hroot
    rw [heq] at hfile ⊢
    exact hjinja.opens files root name hclimb hfile

theorem openEntry_ok (h : resolveTemplateFile files root name = .ok target) :
    openEntry jinja files root name = jinja.getSource files root name := by
  rw [openEntry, h]
  rfl

theorem openEntry_error {exc : Exc} (h : resolveTemplateFile files root name = .error exc) :
    openEntry jinja files root name = .error exc := by
  rw [openEntry, h]
  rfl

variable {bundle : TemplateBundle} {entrypoint : Option String}

/-- An entry file that is not opened fails the render, for every format. -/
theorem jinjaRender_unopened {exc : Exc}
    (h : openEntry jinja files bundle.root (resolveEntrypoint bundle.manifest entrypoint) = .error exc)
    (fmt : OutputFormat) : jinjaRender jinja files bundle entrypoint fmt = .error (htmlError exc) := by
  rw [jinjaRender, htmlContent, renderHtml, h]
  rfl

/-- Only a template error comes out as one. -/
theorem htmlError_templateNotFound {exc : Exc} {message : String}
    (h : htmlError exc = .docGen ⟨.templateNotFoundError, message⟩) :
    exc = .docGen ⟨.templateNotFoundError, message⟩ := by
  cases exc with
  | docGen e => exact h
  | _ => cases h

/-- A name that climbs and comes back passes the guard and is refused by the
loader: the render fails with the error that is retried, for every format. -/
theorem climbing_render_error (hjinja : jinja.Loads)
    (h : resolveTemplateFile files bundle.root (resolveEntrypoint bundle.manifest entrypoint) = .ok target)
    (hclimb : ".." ∈ split '/' (resolveEntrypoint bundle.manifest entrypoint)) (fmt : OutputFormat) :
    ∃ message, jinjaRender jinja files bundle entrypoint fmt =
      .error (.docGen ⟨.renderError, "jinja-html render failed: " ++ message⟩) := by
  obtain ⟨message, herr⟩ := hjinja.refuses files bundle.root _ hclimb
  exact ⟨message, jinjaRender_unopened ((openEntry_ok h).trans herr) fmt⟩

/-- So does a name that the system does not take. -/
theorem unreadable_render_error
    (h : ¬ Readable files bundle.root (resolveEntrypoint bundle.manifest entrypoint)) (fmt : OutputFormat) :
    ∃ message, jinjaRender jinja files bundle entrypoint fmt =
      .error (.docGen ⟨.renderError, "jinja-html render failed: " ++ message⟩) := by
  have hcases := resolveTemplateFile_outcome files bundle.root (resolveEntrypoint bundle.manifest entrypoint)
  generalize hr : resolveTemplateFile files bundle.root (resolveEntrypoint bundle.manifest entrypoint) = r
    at hcases
  cases hcases with
  | nul => exact ⟨_, jinjaRender_unopened (openEntry_error hr) fmt⟩
  | long => exact ⟨_, jinjaRender_unopened (openEntry_error hr) fmt⟩
  | outside hplain hout => exact absurd ⟨hplain, fun hin => absurd hin hout⟩ h
  | missing hplain _ hshort => exact absurd ⟨hplain, fun _ => hshort⟩ h
  | found hplain _ hshort => exact absurd ⟨hplain, fun _ => hshort⟩ h

/-- **One file.** The engine goes on with the file that the guard resolved, and
an entrypoint with no file to open is reported as a template error, exactly for
the entrypoints that it does not confuse. -/
theorem html_entry_opened_iff (hjinja : jinja.Loads) :
    ((∀ target, resolveTemplateFile files bundle.root (resolveEntrypoint bundle.manifest entrypoint) = .ok target →
        jinja.getSource files bundle.root (resolveEntrypoint bundle.manifest entrypoint) = .ok target ∧
          renderHtml jinja files bundle.root (resolveEntrypoint bundle.manifest entrypoint) =
            jinja.renderTemplate target) ∧
      ∀ exc, openEntry jinja files bundle.root (resolveEntrypoint bundle.manifest entrypoint) = .error exc →
        ∀ fmt, ∃ message, jinjaRender jinja files bundle entrypoint fmt =
          .error (.docGen ⟨.templateNotFoundError, message⟩)) ↔
      EntryFit files bundle.root (resolveEntrypoint bundle.manifest entrypoint) := by
  generalize hname : resolveEntrypoint bundle.manifest entrypoint = name
  constructor
  · rintro ⟨hopen, hreport⟩
    have hreadable : Readable files bundle.root name := by
      rcases hr : resolveTemplateFile files bundle.root name with exc | target
      · obtain ⟨message, hrender⟩ := hreport exc (openEntry_error hr) .html
        rw [jinjaRender_unopened (hname ▸ openEntry_error hr)] at hrender
        exact (resolved_error hr).mp ⟨message, htmlError_templateNotFound (Except.error.inj hrender)⟩
      · exact (resolved_ok hr).1
    refine ⟨hreadable, fun hin hfile => ?_⟩
    have hok := resolved_iff.mpr ⟨hreadable, hin, rfl, hfile⟩
    exact (getSource_resolved_iff hjinja hok).mp (hopen _ hok).1
  · intro hfit
    have hsource : ∀ target, resolveTemplateFile files bundle.root name = .ok target →
        jinja.getSource files bundle.root name = .ok target := by
      intro target hok
      obtain ⟨-, hin, rfl, hfile⟩ := resolved_ok hok
      exact (getSource_resolved_iff hjinja hok).mpr (hfit.alike hin hfile)
    refine ⟨fun target hok => ⟨hsource target hok, ?_⟩, fun exc herr fmt => ?_⟩
    · rw [renderHtml, openEntry_ok hok, hsource target hok]
      rfl
    · rw [jinjaRender_unopened (hname ▸ herr)]
      rcases hr : resolveTemplateFile files bundle.root name with exc' | target
      · cases (openEntry_error hr).symm.trans herr
        obtain ⟨message, rfl⟩ := (resolved_error hr).mpr hfit.toReadable
        exact ⟨message, rfl⟩
      · rw [openEntry_ok hr, hsource target hr] at herr
        cases herr

end

/-! ### A template with one file -/

/-- The loader, with templates that render to nothing. -/
def emptyJinja : Jinja where
  getSource files root name :=
    if ".." ∈ split '/' name then .error (.other "TemplateNotFound" name)
    else if files.isFile (root ++ pieces name) = true then .ok (root ++ pieces name)
    else .error (.other "TemplateNotFound" name)
  renderTemplate _ := .ok ""
  writePdf _ _ := .ok []

theorem emptyJinja_loads : emptyJinja.Loads where
  refuses _ _ name hclimb := ⟨name, if_pos hclimb⟩
  opens _ _ _ hclimb hthere := (if_neg hclimb).trans (if_pos hthere)
  misses _ _ name hclimb hmiss := ⟨name, (if_neg hclimb).trans (if_neg (Bool.not_eq_true _ ▸ hmiss))⟩

def htmlBundle : TemplateBundle := ⟨invoiceManifest, ["cache", "t"]⟩

theorem html_entry_opened_dot :
    emptyJinja.getSource htmlFiles ["cache", "t"] "./template.html" = .ok ["cache", "t", "template.html"] := by
  have hfit : EntryFit htmlFiles htmlBundle.root
      (resolveEntrypoint htmlBundle.manifest (some "./template.html")) :=
    ⟨⟨by decide, fun _ => by decide⟩, fun _ _ => ⟨by decide, by decide⟩⟩
  exact (((html_entry_opened_iff emptyJinja_loads).mpr hfit).1 _ (by decide)).1

/-- `partials/../template.html` passes the guard. -/
theorem climbing_entry_not_opened : ¬ ∀ (jinja : Jinja), jinja.Loads →
    ∀ (files : Files) (root target : FilePath) (name : String),
      resolveTemplateFile files root name = .ok target →
        jinja.getSource files root name = .ok target ∧
          renderHtml jinja files root name = jinja.renderTemplate target := by
  intro h
  obtain ⟨hopen, -⟩ := h emptyJinja emptyJinja_loads htmlFiles ["cache", "t"]
    ["cache", "t", "template.html"] "partials/../template.html" (by decide)
  revert hopen
  decide

end DocGen
