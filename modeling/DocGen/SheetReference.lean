/-
# Which cell a reference names

A reference to a cell of a sheet is read in two places. A block's anchor is
split at its last `!`, so a title may hold one; a key of `data["cells"]` is
split at its first, so there a title with a `!` names another sheet or none
(`references_agree_iff`).

A block has exactly one anchor that is set, but an anchor name that is empty
is not `None`: `_resolve_anchor` looks it up, and does not get to the anchor
that is set. A name that is set leads to its destination unless the title of
the sheet there holds a single quote (`resolve_anchor_iff`).
-/
import DocGen.Workbook

namespace DocGen

section

variable {V : Type} {o : Openpyxl V} {wb : Workbook} {sheet : Worksheet} {c : A1Coordinate}

theorem getSheet_title (hs : sheet ∈ wb.sheets) : getSheet o wb sheet.title = .ok sheet := by
  rw [getSheet, Workbook.sheet?_title hs]

theorem getSheet_ok {title : String} (h : getSheet o wb title = .ok sheet) : sheet.title = title := by
  unfold getSheet at h
  split at h
  · rename_i hf
    cases h
    exact Workbook.title_of_sheet? hf
  · cases h

/-- An anchor is split before its coordinate, whatever the title. -/
theorem resolve_reference_title (hA1 : ReadsA1 o) (title : String) :
    resolveReference o wb (title ++ "!" ++ c.text) = (getSheet o wb title).map fun sheet => (sheet, c.pos) := by
  have hr : rpartition '!' (title ++ "!" ++ c.text) = (title, c.text) :=
    rpartition_append '!' title A1Coordinate.bang_not_mem_text
  have hbang : '!' ∈ (title ++ "!" ++ c.text).toList := by simp
  rw [resolveReference, if_pos hbang, hr, A1Coordinate.remove_text, hA1.coordinateToTuple]
  cases getSheet o wb title <;> rfl

/-- An anchor is read as the sheet with its title. -/
theorem resolve_reference_sheet (hA1 : ReadsA1 o) (hs : sheet ∈ wb.sheets) :
    resolveReference o wb (sheet.title ++ "!" ++ c.text) = .ok (sheet, c.pos) := by
  rw [resolve_reference_title hA1, getSheet_title hs]
  rfl

/-- Without a sheet an anchor is read on the active one. -/
theorem resolve_reference_active (hA1 : ReadsA1 o) :
    resolveReference o wb c.text = .ok (wb.active, c.pos) := by
  have hr : rpartition '!' c.text = ("", c.text) := by
    have hne : ∀ x ∈ c.text.toList.reverse, decide (x ≠ '!') = true := by
      intro x hx
      simp only [decide_eq_true_eq]
      rintro rfl
      exact A1Coordinate.bang_not_mem_text (List.mem_reverse.mp hx)
    rw [rpartition, List.takeWhile_eq_self_iff.mpr hne, List.dropWhile_eq_nil_iff.mpr hne,
      List.reverse_reverse, String.ofList_toList]
    rfl
  rw [resolveReference, if_neg A1Coordinate.bang_not_mem_text, hr, A1Coordinate.remove_text]
  show (o.coordinateToTuple c.plain >>= fun p => pure (wb.active, p)) = _
  rw [hA1.coordinateToTuple]
  rfl

/-- A key of `data["cells"]` is read as the sheet with its title if that holds
no `!`. -/
theorem cell_ref_sheet (hA1 : ReadsA1 o) (hs : sheet ∈ wb.sheets) (ht : '!' ∉ sheet.title.toList) :
    cellRef o wb (sheet.title ++ "!" ++ c.text) = .ok (sheet, c.pos) := by
  have hp : partition '!' (sheet.title ++ "!" ++ c.text) = (sheet.title, c.text) :=
    partition_append '!' ht c.text
  have hbang : '!' ∈ (sheet.title ++ "!" ++ c.text).toList := by simp
  rw [cellRef, if_pos hbang, hp, getSheet_title hs]
  show (o.getItem c.text >>= fun p => pure (sheet, p)) = _
  rw [hA1.getItem]
  rfl

/-- A key with a `!` is read as a sheet whose title holds none. -/
theorem cell_ref_title {ref : String} {p : Pos} (hbang : '!' ∈ ref.toList)
    (h : cellRef o wb ref = .ok (sheet, p)) : '!' ∉ sheet.title.toList := by
  rw [cellRef, if_pos hbang] at h
  obtain ⟨s, hs, h⟩ := bind_ok.mp h
  obtain ⟨p', -, h⟩ := bind_ok.mp h
  cases h
  rw [getSheet_ok hs]
  exact partition_fst_not_mem '!' ref

/-- **References.** A key of `data["cells"]` and a block's anchor with the
same text name the same cell, of the sheet with the title they give, exactly
if that title holds no `!`. -/
theorem references_agree_iff (hA1 : ReadsA1 o) (hs : sheet ∈ wb.sheets) {block : BlockSpec}
    (hblock : block.anchor = some (sheet.title ++ "!" ++ c.text)) (hname : block.anchorName = none) :
    (cellRef o wb (sheet.title ++ "!" ++ c.text) = resolveAnchor o wb block ∧
      ∃ p, resolveAnchor o wb block = .ok (sheet, p)) ↔ '!' ∉ sheet.title.toList := by
  have hanchor : resolveAnchor o wb block = .ok (sheet, c.pos) := by
    rw [resolveAnchor, hname, hblock]
    exact resolve_reference_sheet hA1 hs
  rw [hanchor]
  constructor
  · rintro ⟨h, -⟩
    exact cell_ref_title (by simp) h
  · exact fun ht => ⟨cell_ref_sheet hA1 hs ht, c.pos, rfl⟩

end

/-- The cell `A4`, and `$A$4`. -/
def a4 (absolute : Bool) : A1Coordinate where
  letters := ['A']
  digits := ['4']
  absColumn := absolute
  absRow := absolute
  letters_alpha := List.forall_mem_singleton.mpr rfl
  letters_length := by decide
  digits_digit := List.forall_mem_singleton.mpr rfl
  row_range := by decide

/-- A workbook of one sheet, with a name for its cell `A4`. -/
def oneSheetBook (title : String) : Workbook where
  sheets := [⟨title, []⟩]
  active := ⟨title, []⟩
  definedNames := [⟨"start", [(title, "$A$4")], by decide⟩]
  titles_nodup := List.nodup_singleton _
  active_mem := List.mem_cons_self
  names_nodup := List.nodup_singleton _

theorem rows_ne : "rows" ≠ "" := by decide

theorem name_ne_nil : ["name"] ≠ [] := List.cons_ne_nil _ _

/-- A block of one column, with these anchors. -/
def anchoredBlock (anchor anchorName : Option String) (h : isSet anchor ≠ isSet anchorName) :
    BlockSpec where
  source := "rows"
  columns := ["name"]
  anchor := anchor
  anchorName := anchorName
  maxRows := some 4
  hideUnusedRows := true
  source_ne := rows_ne
  columns_ne := name_ne_nil
  exactlyOneAnchor := h
  maxRows_pos := by simp

theorem references_agree_iff_bang :
    (cellRef plainOpenpyxl (oneSheetBook "a!b") ("a!b" ++ "!" ++ (a4 false).text) =
        resolveAnchor plainOpenpyxl (oneSheetBook "a!b")
          (anchoredBlock (some "a!b!A4") none (by decide)) ∧
      ∃ p, resolveAnchor plainOpenpyxl (oneSheetBook "a!b")
        (anchoredBlock (some "a!b!A4") none (by decide)) = .ok (⟨"a!b", []⟩, p)) ↔
      '!' ∉ "a!b".toList :=
  @references_agree_iff _ plainOpenpyxl (oneSheetBook "a!b") ⟨"a!b", []⟩ (a4 false) plain_reads_a1
    List.mem_cons_self (anchoredBlock (some "a!b!A4") none (by decide)) rfl rfl

/-- On a sheet whose title holds a `!` the two readers differ. -/
theorem references_differ : ¬ ∀ (V : Type) (o : Openpyxl V) (wb : Workbook) (sheet : Worksheet)
    (c : A1Coordinate) (block : BlockSpec), ReadsA1 o → sheet ∈ wb.sheets →
      block.anchor = some (sheet.title ++ "!" ++ c.text) → block.anchorName = none →
      cellRef o wb (sheet.title ++ "!" ++ c.text) = resolveAnchor o wb block ∧
        ∃ p, resolveAnchor o wb block = .ok (sheet, p) := by
  intro h
  obtain ⟨heq, p, hp⟩ := h _ plainOpenpyxl (oneSheetBook "a!b") ⟨"a!b", []⟩ (a4 false)
    (anchoredBlock (some "a!b!A4") none (by decide)) plain_reads_a1 List.mem_cons_self rfl rfl
  exact cell_ref_title (by decide) (heq.trans hp) (by decide)

section

variable {V : Type} {o : Openpyxl V} {wb : Workbook} {sheet : Worksheet} {c : A1Coordinate}

/-- The location a block declares: the sheet and the cell of an anchor that is
set, or the cell that the defined name it names refers to. -/
inductive Declares (wb : Workbook) (block : BlockSpec) : Worksheet → Pos → Prop
  | sheet {sheet : Worksheet} {c : A1Coordinate} (hs : sheet ∈ wb.sheets)
      (h : block.anchor = some (sheet.title ++ "!" ++ c.text)) : Declares wb block sheet c.pos
  | active {c : A1Coordinate} (h : block.anchor = some c.text) : Declares wb block wb.active c.pos
  | name {sheet : Worksheet} {c : A1Coordinate} {d : DefinedName} {rest : List (String × String)}
      (hs : sheet ∈ wb.sheets) (hd : d ∈ wb.definedNames) (h : block.anchorName = some d.name)
      (hdest : d.destinations = (destinationTitle sheet.title, c.text) :: rest) : Declares wb block sheet c.pos

/-- An anchor name of the block is not empty, and leads to a sheet whose title
holds no single quote. -/
def NameReadable (block : BlockSpec) (sheet : Worksheet) : Prop :=
  ∀ name, block.anchorName = some name → name ≠ "" ∧ '\'' ∉ sheet.title.toList

/-- The title stays as it is if it holds no single quote, and is longer if it does. -/
theorem destinationTitle_eq_iff (title : String) : destinationTitle title = title ↔ '\'' ∉ title.toList := by
  have hlength : ∀ l : List Char,
      l.length ≤ (l.flatMap fun c => if c = '\'' then ['\'', '\''] else [c]).length := by
    intro l
    induction l with
    | nil => exact le_rfl
    | cons c l ih =>
      rw [List.flatMap_cons, List.length_append, List.length_cons]
      have hone : 1 ≤ (if c = '\'' then ['\'', '\''] else [c]).length := by split <;> simp
      omega
  have hchars : ∀ l : List Char,
      l.flatMap (fun c => if c = '\'' then ['\'', '\''] else [c]) = l ↔ '\'' ∉ l := by
    intro l
    induction l with
    | nil => simp
    | cons c l ih =>
      rw [List.flatMap_cons]
      by_cases hc : c = '\''
      · refine iff_of_false (fun h => ?_) (by simp [hc])
        have hlen := congrArg List.length h
        rw [if_pos hc, List.length_append, List.length_cons, List.length_singleton, List.length_cons] at hlen
        have hle := hlength l
        omega
      · simp [hc, ih, Ne.symm hc]
  rw [destinationTitle, ← hchars, ← String.toList_inj, String.toList_ofList]

/-- An empty anchor name is looked up, and is not declared. -/
theorem resolve_anchor_empty_name {block : BlockSpec} (h : block.anchorName = some "") :
    ∃ exc, resolveAnchor o wb block = .error exc := by
  rw [resolveAnchor, h]
  simp only [Workbook.definedName?_empty]
  exact ⟨_, rfl⟩

/-- With an anchor that is set the anchor name is not. -/
theorem anchorName_of_anchor {block : BlockSpec} {reference : String}
    (h : block.anchor = some reference) (hne : reference ≠ "") :
    block.anchorName = none ∨ block.anchorName = some "" := by
  have hone := block.exactlyOneAnchor
  rcases hn : block.anchorName with _ | name
  · exact Or.inl rfl
  · rw [h, hn] at hone
    simpa [isSet, hne] using hone

/-- A block with an anchor that is set resolves if its name is left out. -/
theorem resolved_iff_of_anchor {block : BlockSpec} {reference : String} {p : Pos}
    (h : block.anchor = some reference) (hne : reference ≠ "")
    (hok : resolveReference o wb reference = .ok (sheet, p)) :
    resolveAnchor o wb block = .ok (sheet, p) ↔ NameReadable block sheet := by
  rcases anchorName_of_anchor h hne with hname | hname
  · refine iff_of_true ?_ fun name hn => ?_
    · rw [resolveAnchor, hname, h]
      exact hok
    · rw [hname] at hn
      cases hn
  · refine iff_of_false (fun hok' => ?_) fun hread => (hread "" hname).1 rfl
    obtain ⟨exc, he⟩ : ∃ exc, resolveAnchor o wb block = .error exc := resolve_anchor_empty_name hname
    rw [hok'] at he
    cases he

theorem Declares.resolved_iff {block : BlockSpec} {p : Pos} (hA1 : ReadsA1 o)
    (h : Declares wb block sheet p) :
    resolveAnchor o wb block = .ok (sheet, p) ↔ NameReadable block sheet := by
  cases h with
  | @sheet sheet c hs ha => exact resolved_iff_of_anchor ha (by simp) (resolve_reference_sheet hA1 hs)
  | @active c ha => exact resolved_iff_of_anchor ha c.text_ne (resolve_reference_active hA1)
  | @name sheet c d rest hs hd hn hdest =>
    have hanchor : resolveAnchor o wb block =
        (getSheet o wb (destinationTitle sheet.title)).map fun sheet => (sheet, c.pos) := by
      rw [resolveAnchor, hn]
      simp only [Workbook.definedName?_name hd, hdest]
      exact resolve_reference_title hA1 _
    rw [hanchor]
    constructor
    · intro hok name hname
      rcases hsheet : getSheet o wb (destinationTitle sheet.title) with exc | found
      · rw [hsheet] at hok
        cases hok
      · rw [hsheet] at hok
        cases hok
        obtain rfl := Option.some.inj (hn.symm.trans hname)
        exact ⟨d.name_ne, (destinationTitle_eq_iff _).mp (getSheet_ok hsheet).symm⟩
    · intro hread
      rw [(destinationTitle_eq_iff _).mpr (hread _ hn).2, getSheet_title hs]
      rfl

end

/-- A sheet titled with a single quote, and a name for its cell `A4`. -/
def quotedBook : Workbook where
  sheets := [⟨"it's", []⟩]
  active := ⟨"it's", []⟩
  definedNames := [⟨"start", [("it''s", "$A$4")], by decide⟩]
  titles_nodup := List.nodup_singleton _
  active_mem := List.mem_cons_self
  names_nodup := List.nodup_singleton _

end DocGen
