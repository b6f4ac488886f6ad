/-
# Blocks, merged ranges and hidden rows

A block writes its rows into a band of cells. Where a merged range covers
several positions of the band, one cell displays them all and holds what the
last of them supplies, which may be nothing: a value is kept exactly if the
last position displayed with it supplies the same (`block_value_kept_iff`).

A block hides whole rows of its sheet, the ones of its band that it has no
data for. Another block may use them: the rows with data stay visible exactly
if no block has data in a row that another one hides (`rows_visible_iff`).
-/
import DocGen.SheetReference
import DocGen.XlsxFill

namespace DocGen

/-! ### The positions of a band -/

/-- A position of a band: its row and column there, and what is supplied for
it. -/
structure BandCell where
  row : ℕ
  column : ℕ
  value : Json

/-- Row by row, and along each row. -/
def BandCell.Before (a b : BandCell) : Prop := a.row < b.row ∨ a.row = b.row ∧ a.column < b.column

/-- The positions of the rows, in the order in which they are written. -/
def bandCells (rows : List Json) (columns : List String) : List BandCell :=
  rows.zipIdx.flatMap fun row => columns.zipIdx.map fun column =>
    ⟨row.2, column.2, cellOf row.1 column.1⟩

/-- The cell that displays a position of the band. -/
def shownAt (sheet : Worksheet) (first : Pos) (a : BandCell) : Cell :=
  (sheet.title, display sheet (first.1 + a.row, first.2 + a.column))

section

variable {sheet : Worksheet} {first : Pos} {rows : List Json} {columns : List String}

theorem mem_bandCells {a : BandCell} : a ∈ bandCells rows columns ↔
    ∃ row column, rows[a.row]? = some row ∧ columns[a.column]? = some column ∧
      a.value = cellOf row column := by
  simp only [bandCells, List.mem_flatMap, List.mem_map, List.mem_zipIdx_iff_getElem?, Prod.exists]
  constructor
  · rintro ⟨row, i, hrow, column, j, hcolumn, rfl⟩
    exact ⟨row, column, hrow, hcolumn, rfl⟩
  · rintro ⟨row, column, hrow, hcolumn, hvalue⟩
    exact ⟨row, a.row, hrow, column, a.column, hcolumn, by rw [← hvalue]⟩

theorem bandCells_pairwise : (bandCells rows columns).Pairwise BandCell.Before := by
  refine List.pairwise_flatMap.mpr ⟨fun row _ => ?_, (zipIdx_pairwise rows).imp fun {a b} hab => ?_⟩
  · refine List.pairwise_map.mpr ((zipIdx_pairwise columns).imp fun {a b} hab => ?_)
    exact Or.inr ⟨rfl, hab⟩
  · simp only [List.mem_map]
    rintro _ ⟨_, _, rfl⟩ _ ⟨_, _, rfl⟩
    exact Or.inl hab

theorem before_asymm (a b : BandCell) (h : a.Before b) : ¬ b.Before a := by
  unfold BandCell.Before at *
  omega

theorem bandWrites_eq : bandWrites sheet first rows columns =
    (bandCells rows columns).map fun a => (shownAt sheet first a, a.value) := by
  simp only [bandWrites, bandCells, List.map_flatMap, List.map_map]
  rfl

variable {V : Type} {o : Openpyxl V} {wb : Workbook} {m : Manifest} {data : JsonDict} {g t : Grid V}

/-- The cell that displays a position holds what the last position displayed
there supplies. -/
theorem band_last (h : Written o.bind g.value (bandWrites sheet first rows columns) t.value)
    {a : BandCell} (ha : a ∈ bandCells rows columns) :
    ∃ b ∈ bandCells rows columns, shownAt sheet first b = shownAt sheet first a ∧
      (∀ c ∈ bandCells rows columns, shownAt sheet first c = shownAt sheet first a →
        c = b ∨ c.Before b) ∧ o.bind b.value = .ok (t.value (shownAt sheet first a)) := by
  obtain ⟨hsome, -⟩ := h.value (shownAt sheet first a)
  rw [bandWrites_eq] at hsome
  rcases hl : lastAt ((bandCells rows columns).map fun a => (shownAt sheet first a, a.value))
    (shownAt sheet first a) with _ | x
  · exact absurd rfl (lastAt_eq_none.mp hl _ (List.mem_map_of_mem ha))
  · have hx := hsome x hl
    obtain ⟨b, hb, hfb, hlast⟩ := (lastAt_map before_asymm bandCells_pairwise).mp hl
    obtain ⟨hshown, rfl⟩ := Prod.mk.inj hfb
    exact ⟨b, hb, hshown, hlast, hx⟩

/-- **Merged ranges.** After a block is applied, each position with a value is
displayed by a cell that holds it, exactly if the last position of the band
displayed by that cell supplies the same. -/
theorem block_value_kept_iff {block : BlockSpec} (h : applyBlock o wb m data g block = .ok t)
    (hrows : blockRows data block = .ok rows) (hanchor : resolveAnchor o wb block = .ok (sheet, first)) :
    (∀ a ∈ bandCells rows block.columns, a.value ≠ .null →
      o.bind a.value = .ok (t.value (shownAt sheet first a))) ↔
    ∀ a ∈ bandCells rows block.columns, a.value ≠ .null → ∃ b ∈ bandCells rows block.columns,
      shownAt sheet first b = shownAt sheet first a ∧
        (∀ c ∈ bandCells rows block.columns, shownAt sheet first c = shownAt sheet first a →
          c = b ∨ c.Before b) ∧ o.bind b.value = o.bind a.value := by
  have hw := applyBlock_written h
  rw [blockWrites, hanchor, hrows] at hw
  constructor
  · intro hkept a ha hne
    obtain ⟨b, hb, hshown, hlast, hv⟩ := band_last hw ha
    exact ⟨b, hb, hshown, hlast, hv.trans (hkept a ha hne).symm⟩
  · intro hlast a ha hne
    obtain ⟨b, hb, hshown, hlast', hv⟩ := hlast a ha hne
    obtain ⟨b', hb', hshown', hlast'', hv'⟩ := band_last hw ha
    -- there is one last position
    have hbb : b = b' := by
      rcases hlast'' b hb hshown with rfl | hbefore
      · rfl
      rcases hlast' b' hb' hshown' with rfl | hbefore'
      · rfl
      · exact absurd hbefore' (before_asymm _ _ hbefore)
    rw [← hv, hbb, hv']

/-! ### Hidden rows -/

/-- The block has data in the row. -/
def Used (o : Openpyxl V) (wb : Workbook) (data : JsonDict) (block : BlockSpec) (title : String)
    (row : ℕ) : Prop :=
  ∃ rows sheet first, blockRows data block = .ok rows ∧ resolveAnchor o wb block = .ok (sheet, first) ∧
    sheet.title = title ∧ first.1 ≤ row ∧ row < first.1 + rows.length

/-- The row is in the block's band, and the block has no data for it and hides
such rows. -/
def Unused (o : Openpyxl V) (wb : Workbook) (m : Manifest) (data : JsonDict) (block : BlockSpec)
    (title : String) (row : ℕ) : Prop :=
  block.hideUnusedRows = true ∧ ∃ rows capacity sheet first, blockRows data block = .ok rows ∧
    m.blockCapacity block = .ok capacity ∧ resolveAnchor o wb block = .ok (sheet, first) ∧
    sheet.title = title ∧ first.1 + rows.length ≤ row ∧ row < first.1 + capacity

theorem hidden_hideRows {title title' : String} {row : ℕ} : ∀ (rows : List ℕ) (g : Grid V),
    (rows.foldl (Grid.hideRow title) g).hidden (title', row) = true ↔
      g.hidden (title', row) = true ∨ title = title' ∧ row ∈ rows
  | [], g => by simp
  | r :: rows, g => by
    have hrow : (g.hideRow title r).hidden = Function.update g.hidden (title, r) true := rfl
    rw [List.foldl_cons, hidden_hideRows rows, hrow, List.mem_cons]
    by_cases h : (title', row) = (title, r)
    · obtain ⟨rfl, rfl⟩ := Prod.mk.inj h
      simp
    · rw [Function.update_of_ne h]
      have hne : title = title' → row ≠ r := by
        rintro rfl rfl
        exact h rfl
      tauto

/-- A block hides its unused rows and no other. -/
theorem applyBlock_hidden {block : BlockSpec} (h : applyBlock o wb m data g block = .ok t)
    (title : String) (row : ℕ) : t.hidden (title, row) = true ↔
      g.hidden (title, row) = true ∨ Unused o wb m data block title row := by
  obtain ⟨rows, capacity, sheet, first, u, hrows, hcap, hle, hanchor, hu, rfl⟩ := applyBlock_ok h
  have hunused : Unused o wb m data block title row ↔ block.hideUnusedRows = true ∧
      sheet.title = title ∧ first.1 + rows.length ≤ row ∧ row < first.1 + capacity := by
    constructor
    · rintro ⟨hhide, rows', capacity', sheet', first', hrows', hcap', hanchor', hrest⟩
      obtain rfl := Except.ok.inj (hrows.symm.trans hrows')
      obtain rfl := Except.ok.inj (hcap.symm.trans hcap')
      obtain ⟨rfl, rfl⟩ := Prod.mk.inj (Except.ok.inj (hanchor.symm.trans hanchor'))
      exact ⟨hhide, hrest⟩
    · rintro ⟨hhide, hrest⟩
      exact ⟨hhide, rows, capacity, sheet, first, hrows, hcap, hanchor, hrest⟩
  rw [hunused, ← hu.hidden]
  split
  · rename_i hhide
    have hmem : row ∈ unusedRows first.1 rows.length capacity ↔
        first.1 + rows.length ≤ row ∧ row < first.1 + capacity := by
      rw [unusedRows, List.mem_range'_1]
      omega
    rw [hidden_hideRows, hmem]
    simp [hhide]
  · rename_i hhide
    simp [hhide]

theorem applyBlocks_hidden (h : applyBlocks o wb m data g = .ok t) (title : String) (row : ℕ) :
    t.hidden (title, row) = true ↔
      g.hidden (title, row) = true ∨ ∃ block ∈ m.blocks, Unused o wb m data block title row := by
  refine foldlM_induction (R := fun blocks g t => t.hidden (title, row) = true ↔
    g.hidden (title, row) = true ∨ ∃ block ∈ blocks, Unused o wb m data block title row) ?_ ?_ h
  · intro g
    simp
  · intro block blocks g u t hu ih
    rw [ih, applyBlock_hidden hu title row, or_assoc]
    simp

/-- A fill hides the unused rows of its blocks and no other. -/
theorem fill_hidden (h : fill o wb m data g = .ok t) (title : String) (row : ℕ) :
    t.hidden (title, row) = true ↔
      g.hidden (title, row) = true ∨ ∃ block ∈ m.blocks, Unused o wb m data block title row := by
  obtain ⟨u, v, hu, hv, ht⟩ := fill_ok h
  rw [(applyCells_fills ht).hidden, applyBlocks_hidden hv, (applyDefinedNames_fills hu).hidden]

/-- **Hidden rows.** A fill hides only rows that some block has no data for and
no block has data in, exactly if no block has data in a visible row that
another one hides. -/
theorem rows_visible_iff (h : fill o wb m data g = .ok t) :
    (∀ title row, g.hidden (title, row) = false → t.hidden (title, row) = true →
      (∃ block ∈ m.blocks, Unused o wb m data block title row) ∧
        ∀ block ∈ m.blocks, ¬ Used o wb data block title row) ↔
    ∀ block ∈ m.blocks, ∀ block' ∈ m.blocks, ∀ title row, g.hidden (title, row) = false →
      Unused o wb m data block title row → ¬ Used o wb data block' title row := by
  constructor
  · intro hvisible block hb block' hb' title row hg hunused
    have ht := (fill_hidden h title row).mpr (Or.inr ⟨block, hb, hunused⟩)
    exact (hvisible title row hg ht).2 block' hb'
  · intro hapart title row hg ht
    rcases (fill_hidden h title row).mp ht with hg' | ⟨block, hb, hunused⟩
    · rw [hg] at hg'
      cases hg'
    · exact ⟨⟨block, hb, hunused⟩, fun block' hb' => hapart block hb block' hb' title row hg hunused⟩

end

/-! ### Two small workbooks -/

/-- Two blocks side by side. -/
def sideBySideManifest : Manifest :=
  blocksManifest [sheetBlock "left" ["name"] "S!A4" 2 (by decide),
    sheetBlock "right" ["name"] "S!C4" 2 (by decide)] (by decide)

def aliceRow : Json := .obj [("first", .str "Alice"), ("name", .str "Alice")]

def sideBySideData : JsonDict := [("left", .arr [aliceRow, aliceRow]), ("right", .arr [aliceRow])]

/-- The block on the right hides a row of the one on the left. -/
theorem side_by_side_hidden : ∃ t, fill plainOpenpyxl (oneSheetBook "S") sideBySideManifest
    sideBySideData blankGrid = .ok t ∧ t.hidden ("S", 5) = true :=
  ⟨_, rfl, rfl⟩

theorem rows_visible_iff_side_by_side : ∃ t : Grid (Option String),
    fill plainOpenpyxl (oneSheetBook "S") sideBySideManifest sideBySideData blankGrid = .ok t ∧
    ((∀ title row, blankGrid.hidden (title, row) = false → t.hidden (title, row) = true →
      (∃ block ∈ sideBySideManifest.blocks,
        Unused plainOpenpyxl (oneSheetBook "S") sideBySideManifest sideBySideData block title row) ∧
        ∀ block ∈ sideBySideManifest.blocks,
          ¬ Used plainOpenpyxl (oneSheetBook "S") sideBySideData block title row) ↔
    ∀ block ∈ sideBySideManifest.blocks, ∀ block' ∈ sideBySideManifest.blocks, ∀ title row,
      blankGrid.hidden (title, row) = false →
      Unused plainOpenpyxl (oneSheetBook "S") sideBySideManifest sideBySideData block title row →
      ¬ Used plainOpenpyxl (oneSheetBook "S") sideBySideData block' title row) := by
  obtain ⟨t, ht, -⟩ := side_by_side_hidden
  exact ⟨t, ht, rows_visible_iff ht⟩

/-- A row with data is hidden. -/
theorem used_row_hidden : ¬ ∀ (V : Type) (o : Openpyxl V) (wb : Workbook) (m : Manifest)
    (data : JsonDict) (g t : Grid V), fill o wb m data g = .ok t →
      ∀ title row, g.hidden (title, row) = false → t.hidden (title, row) = true →
        (∃ block ∈ m.blocks, Unused o wb m data block title row) ∧
          ∀ block ∈ m.blocks, ¬ Used o wb data block title row := by
  intro h
  obtain ⟨t, ht, hrow⟩ := side_by_side_hidden
  have hunused := (h _ _ _ _ _ _ t ht "S" 5 rfl hrow).2 _ List.mem_cons_self
  exact hunused ⟨[aliceRow, aliceRow], ⟨"S", []⟩, (4, 1), rfl, rfl, rfl, by decide⟩

/-- The sheet `S`, with `A4` and `B4` merged. -/
def mergedBook : Workbook where
  sheets := [⟨"S", [⟨4, 1, 4, 2⟩]⟩]
  active := ⟨"S", [⟨4, 1, 4, 2⟩]⟩
  definedNames := []
  titles_nodup := List.nodup_singleton _
  active_mem := List.mem_cons_self
  names_nodup := List.nodup_nil

/-- The block over `A4` and `B4`, for a row without a last name. -/
theorem merged_value_lost : ∃ t, applyBlock plainOpenpyxl mergedBook nameManifest
    [("rows", .arr [aliceRow])] blankGrid
    (sheetBlock "rows" ["first", "last"] "S!A4" 4 (by decide)) = .ok t ∧ t.value ("S", (4, 1)) = none :=
  ⟨_, rfl, rfl⟩

theorem block_value_kept_iff_merged : ∃ t : Grid (Option String),
    applyBlock plainOpenpyxl mergedBook nameManifest [("rows", .arr [aliceRow])] blankGrid
      (sheetBlock "rows" ["first", "last"] "S!A4" 4 (by decide)) = .ok t ∧
    ((∀ a ∈ bandCells [aliceRow] ["first", "last"], a.value ≠ .null →
      plainOpenpyxl.bind a.value = .ok (t.value (shownAt ⟨"S", [⟨4, 1, 4, 2⟩]⟩ (4, 1) a))) ↔
    ∀ a ∈ bandCells [aliceRow] ["first", "last"], a.value ≠ .null →
      ∃ b ∈ bandCells [aliceRow] ["first", "last"],
        shownAt ⟨"S", [⟨4, 1, 4, 2⟩]⟩ (4, 1) b = shownAt ⟨"S", [⟨4, 1, 4, 2⟩]⟩ (4, 1) a ∧
          (∀ c ∈ bandCells [aliceRow] ["first", "last"],
            shownAt ⟨"S", [⟨4, 1, 4, 2⟩]⟩ (4, 1) c = shownAt ⟨"S", [⟨4, 1, 4, 2⟩]⟩ (4, 1) a →
              c = b ∨ c.Before b) ∧ plainOpenpyxl.bind b.value = plainOpenpyxl.bind a.value) := by
  obtain ⟨t, ht, -⟩ := merged_value_lost
  exact ⟨t, ht, block_value_kept_iff ht rfl rfl⟩

/-- The value of `A4` is lost to the empty `B4`. -/
theorem block_value_lost : ¬ ∀ (V : Type) (o : Openpyxl V) (wb : Workbook) (m : Manifest)
    (data : JsonDict) (g t : Grid V) (block : BlockSpec) (rows : List Json) (sheet : Worksheet)
    (first : Pos), applyBlock o wb m data g block = .ok t → blockRows data block = .ok rows →
      resolveAnchor o wb block = .ok (sheet, first) →
      ∀ a ∈ bandCells rows block.columns, a.value ≠ .null →
        o.bind a.value = .ok (t.value (shownAt sheet first a)) := by
  intro h
  obtain ⟨t, ht, hlost⟩ := merged_value_lost
  have hkept := h _ _ _ _ _ _ t _ [aliceRow] ⟨"S", [⟨4, 1, 4, 2⟩]⟩ (4, 1) ht rfl rfl
    ⟨0, 0, .str "Alice"⟩ (mem_bandCells.mpr ⟨aliceRow, "first", rfl, rfl, rfl⟩) (by simp)
  have hshown : shownAt ⟨"S", [⟨4, 1, 4, 2⟩]⟩ (4, 1) ⟨0, 0, .str "Alice"⟩ = ("S", (4, 1)) := by decide
  rw [hshown, hlost] at hkept
  cases hkept

end DocGen
