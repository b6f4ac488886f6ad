/-
# Filling a workbook

The three fill steps of `adapters/renderers/xlsx.py`: defined names, the
manifest's blocks, and the explicit cells of `data["cells"]`. Each is a loop of
writes to cells, and what a cell holds at the end is the value of the last
write to it (`fill_cells`). Which cells a step writes, and what, is read off
the data (`nameWrites`, `blockWrites`, `cellWrites`).
-/
import DocGen.BlockGate
import DocGen.Workbook

namespace DocGen

/-- A cell, by the title of its sheet. -/
abbrev Cell : Type := String × Pos

/-- What the fill steps change of a workbook: the values of its cells, and
which of its rows are hidden. -/
structure Grid (V : Type) where
  value : Cell → V
  hidden : String × ℕ → Bool

namespace Grid

variable {V : Type}

def set (g : Grid V) (cell : Cell) (v : V) : Grid V :=
  { g with value := Function.update g.value cell v }

def hideRow (title : String) (g : Grid V) (row : ℕ) : Grid V :=
  { g with hidden := Function.update g.hidden (title, row) true }

end Grid

namespace Json

/-- `type(x).__name__`. -/
def typeName : Json → String
  | .null => "NoneType"
  | .bool _ => "bool"
  | .int _ => "int"
  | .float _ _ => "float"
  | .str _ => "str"
  | .arr _ => "list"
  | .obj _ => "dict"

/-- `list(x)`, of an iterable. -/
def iter? : Json → Option (List Json)
  | .str s => some (s.toList.map fun c => .str (String.singleton c))
  | .arr xs => some xs
  | .obj fields => some (fields.map fun f => .str f.1)
  | _ => none

end Json

section

variable {V : Type} (o : Openpyxl V) (wb : Workbook) (m : Manifest) (data : JsonDict)

/-- `cell.value = x`. -/
def assign (sheet : Worksheet) (p : Pos) (x : Json) (g : Grid V) : Except Exc (Grid V) :=
  if sheet.isMergedCell p then .error o.readOnly
  else do
    let v ← o.bind x
    return g.set (sheet.title, p) v

/-! ### Defined names -/

/-- The cell of a destination. -/
def destinationRef (destination : String × String) : Except Exc (Worksheet × Pos) := do
  let sheet ← getSheet o wb destination.1
  let p ← o.getItem (remove '$' destination.2)
  return (sheet, p)

/-- The destination is a range of cells. -/
def isRange (destination : String × String) : Bool := ':' ∈ (remove '$' destination.2).toList

/-- One turn of the inner loop of `_apply_defined_names`. -/
def applyDestination (x : Json) (g : Grid V) (destination : String × String) :
    Except Exc (Grid V) :=
  if isRange destination then .ok g
  else do
    let (sheet, p) ← destinationRef o wb destination
    assign o sheet p x g

/-- One turn of the outer loop. -/
def applyDefinedName (skip : List String) (g : Grid V) (defined : DefinedName) :
    Except Exc (Grid V) :=
  match data.lookup defined.name with
  | none => .ok g
  | some x =>
    if defined.name ∈ skip then .ok g
    else defined.destinations.foldlM (applyDestination o wb x) g

/-- `_apply_defined_names`. -/
def applyDefinedNames (skip : List String) (g : Grid V) : Except Exc (Grid V) :=
  wb.definedNames.foldlM (applyDefinedName o wb data skip) g

/-! ### Blocks -/

/-- `_normalise_value`. -/
def normaliseValue : Json → Json
  | .str s => if s = "" then .null else .str s
  | x => x

/-- The empty string becomes `None`, and every other value stays. -/
theorem normaliseValue_rule (x : Json) :
    (x = .str "" ∧ normaliseValue x = .null) ∨ (x ≠ .str "" ∧ normaliseValue x = x) := by
  cases x with
  | str s =>
    by_cases hs : s = ""
    · exact Or.inl ⟨congrArg Json.str hs, if_pos hs⟩
    · exact Or.inr ⟨fun h => hs (Json.str.inj h), if_neg hs⟩
  | _ => exact Or.inr ⟨nofun, rfl⟩

/-- `_set_cell`. -/
def setCell (sheet : Worksheet) (p : Pos) (x : Json) (g : Grid V) : Except Exc (Grid V) := do
  o.cell p
  if sheet.isMergedCell p then
    match sheet.merged.find? fun range => range.cells p with
    | some range => do
      o.cell range.topLeft
      assign o sheet range.topLeft x g
    | none => return g
  else assign o sheet p x g

/-- `row.get(key)`. -/
def rowGet (row : Json) (key : String) : Except Exc Json :=
  match row with
  | .obj fields => .ok ((fields.lookup key).getD .null)
  | x => .error (.other "AttributeError" ("'" ++ x.typeName ++ "' object has no attribute 'get'"))

/-- One turn of the loop over the rows of a block. -/
def writeRow (sheet : Worksheet) (first : Pos) (columns : List String) (g : Grid V)
    (row : Json × ℕ) : Except Exc (Grid V) :=
  columns.zipIdx.foldlM (fun g column => do
    let x ← rowGet row.1 column.1
    setCell o sheet (first.1 + row.2, first.2 + column.2) (normaliseValue x) g) g

/-- `data.get(block.source) or []`, which has to be a list. -/
def blockRows (block : BlockSpec) : Except Exc (List Json) :=
  let rows := (data.lookup block.source).getD .null
  match if rows.truthy then rows else .arr [] with
  | .arr xs => .ok xs
  | x => .error (.docGen ⟨.schemaValidationError, "block source " ++ pyRepr block.source ++
      " must be a list, got " ++ x.typeName⟩)

/-- The rows of a band of `capacity` rows that the `used` first ones leave. -/
def unusedRows (first used capacity : ℕ) : List ℕ := List.range' (first + used) (capacity - used)

/-- One turn of `_apply_blocks`. -/
def applyBlock (g : Grid V) (block : BlockSpec) : Except Exc (Grid V) := do
  let rows ← blockRows data block
  let capacity ← (m.blockCapacity block).mapError .valueError
  if capacity < rows.length then
    .error (.docGen ⟨.schemaValidationError, toString rows.length ++ " rows supplied for block " ++
      pyRepr block.source ++ " but the template reserves only " ++ toString capacity⟩)
  else do
    let (sheet, first) ← resolveAnchor o wb block
    let g ← rows.zipIdx.foldlM (writeRow o sheet first block.columns) g
    return if block.hideUnusedRows then
      (unusedRows first.1 rows.length capacity).foldl (Grid.hideRow sheet.title) g else g

/-- `_apply_blocks`. -/
def applyBlocks (g : Grid V) : Except Exc (Grid V) := m.blocks.foldlM (applyBlock o wb m data) g

/-! ### Explicit cells -/

/-- One pair of `dict(pairs)`. A key that is no text names no cell: here it is
refused at once, where the source raises when it gets to it. -/
def dictPair (items : List (String × Json)) (pair : Option (List Json) × ℕ) :
    Except Exc (List (String × Json)) :=
  match pair.1 with
  | none => .error (.other "TypeError"
      ("cannot convert dictionary update sequence element #" ++ toString pair.2 ++ " to a sequence"))
  | some [.str key, x] =>
    .ok (if items.any fun item => item.1 = key then
      items.map fun item => if item.1 = key then (key, x) else item else items ++ [(key, x)])
  | some [key, _] => .error (.other "TypeError" ("no cell has the key " ++ key.typeName))
  | some xs => .error (.valueError ("dictionary update sequence element #" ++ toString pair.2 ++
      " has length " ++ toString xs.length ++ "; 2 is required"))

/-- `dict(cells).items()`. -/
def dictItems : Json → Except Exc (List (String × Json))
  | .obj fields => .ok fields
  | cells =>
    match cells.iter? with
    | some xs => (xs.map Json.iter?).zipIdx.foldlM dictPair []
    | none => .error (.other "TypeError" ("'" ++ cells.typeName ++ "' object is not iterable"))

/-- One turn of `_apply_cells`. -/
def applyCell (g : Grid V) (item : String × Json) : Except Exc (Grid V) := do
  let (sheet, p) ← cellRef o wb item.1
  assign o sheet p item.2 g

/-- `_apply_cells`. -/
def applyCells (cells : Json) (g : Grid V) : Except Exc (Grid V) := do
  let items ← dictItems cells
  items.foldlM (applyCell o wb) g

/-- The fill steps of `_render`. -/
def fill (g : Grid V) : Except Exc (Grid V) := do
  let g ← applyDefinedNames o wb data (m.blocks.map BlockSpec.source) g
  let g ← applyBlocks o wb m data g
  applyCells o wb ((data.lookup "cells").getD (.obj [])) g

end

/-! ### What is written, and where -/

/-- The cell that displays a position: a merged cell is displayed by the one at
the top left of its range. -/
def display (sheet : Worksheet) (p : Pos) : Pos :=
  if sheet.isMergedCell p then
    match sheet.merged.find? fun range => range.cells p with
    | some range => range.topLeft
    | none => p
  else p

/-- A write of `x` to the cell of a reference, if that resolves. -/
def writeAt (ref : Except Exc (Worksheet × Pos)) (x : Json) : List (Cell × Json) :=
  match ref with
  | .ok (sheet, p) => [((sheet.title, p), x)]
  | .error _ => []

section

variable {V : Type} (o : Openpyxl V) (wb : Workbook) (m : Manifest) (data : JsonDict)

/-- The writes of a defined name: one for each destination that is a cell. -/
def definedNameWrites (skip : List String) (defined : DefinedName) : List (Cell × Json) :=
  match data.lookup defined.name with
  | none => []
  | some x =>
    if defined.name ∈ skip then []
    else (defined.destinations.filter fun d => !isRange d).flatMap fun d =>
      writeAt (destinationRef o wb d) x

/-- The writes of the defined names, in the order of the workbook. -/
def nameWrites (skip : List String) : List (Cell × Json) :=
  wb.definedNames.flatMap (definedNameWrites o wb data skip)

/-- What a row has under a column. -/
def cellOf (row : Json) (column : String) : Json := normaliseValue ((row.get? column).getD .null)

/-- The writes of a block whose first cell is `first`, row by row: that of the
row `i` and the column `j` is to the cell that displays the position. -/
def bandWrites (sheet : Worksheet) (first : Pos) (rows : List Json) (columns : List String) :
    List (Cell × Json) :=
  rows.zipIdx.flatMap fun row => columns.zipIdx.map fun column =>
    ((sheet.title, display sheet (first.1 + row.2, first.2 + column.2)), cellOf row.1 column.1)

def blockWrites (block : BlockSpec) : List (Cell × Json) :=
  match resolveAnchor o wb block, blockRows data block with
  | .ok (sheet, first), .ok rows => bandWrites sheet first rows block.columns
  | _, _ => []

/-- The writes of the explicit cells. -/
def cellWrites (cells : Json) : List (Cell × Json) :=
  match dictItems cells with
  | .ok items => items.flatMap fun item => writeAt (cellRef o wb item.1) item.2
  | .error _ => []

/-- The writes of the fill steps. -/
def fillWrites : List (Cell × Json) :=
  nameWrites o wb data (m.blocks.map BlockSpec.source) ++ m.blocks.flatMap (blockWrites o wb data) ++
    cellWrites o wb ((data.lookup "cells").getD (.obj []))

end

section

variable {V : Type} {o : Openpyxl V} {wb : Workbook} {m : Manifest} {data : JsonDict} {g t : Grid V}

/-- From the grid `g` to the grid `t`, the writes `ws` are made and no row is
hidden. -/
structure Fills (o : Openpyxl V) (g : Grid V) (ws : List (Cell × Json)) (t : Grid V) : Prop where
  written : Written o.bind g.value ws t.value
  hidden : t.hidden = g.hidden

theorem Fills.nil (g : Grid V) : Fills o g [] g := ⟨.nil _, rfl⟩

theorem Fills.append {u : Grid V} {ws ws' : List (Cell × Json)} (h : Fills o g ws t)
    (h' : Fills o t ws' u) : Fills o g (ws ++ ws') u :=
  ⟨h.written.append h'.written, h'.hidden.trans h.hidden⟩

theorem Fills.foldlM {α : Type} {f : Grid V → α → Except Exc (Grid V)} {w : α → List (Cell × Json)}
    (hf : ∀ g x t, f g x = .ok t → Fills o g (w x) t) {xs : List α} (h : xs.foldlM f g = .ok t) :
    Fills o g (xs.flatMap w) t :=
  foldlM_induction (R := fun xs g t => Fills o g (xs.flatMap w) t) Fills.nil
    (fun x _ g u _ hu ih => List.flatMap_cons ▸ (hf g x u hu).append ih) h

theorem assign_fills {sheet : Worksheet} {p : Pos} {x : Json} (h : assign o sheet p x g = .ok t) :
    Fills o g [((sheet.title, p), x)] t := by
  unfold assign at h
  split at h
  · cases h
  · obtain ⟨v, hv, h⟩ := bind_ok.mp h
    cases h
    exact ⟨.single hv, rfl⟩

theorem applyDestination_fills {x : Json} {d : String × String}
    (h : applyDestination o wb x g d = .ok t) :
    Fills o g (if isRange d then [] else writeAt (destinationRef o wb d) x) t := by
  unfold applyDestination at h
  split at h
  · rename_i hd
    cases h
    rw [if_pos hd]
    exact .nil g
  · rename_i hd
    obtain ⟨⟨sheet, p⟩, href, h⟩ := bind_ok.mp h
    rw [if_neg hd, href]
    exact assign_fills h

/-- Skipping a turn is making no write in it. -/
theorem flatMap_filter {α β : Type} (p : α → Bool) (f : α → List β) : ∀ l : List α,
    (l.filter fun x => !p x).flatMap f = l.flatMap fun x => if p x then [] else f x
  | [] => rfl
  | x :: l => by
    rw [List.filter_cons, List.flatMap_cons, ← flatMap_filter p f l]
    cases p x <;> simp

theorem applyDefinedName_fills {skip : List String} {d : DefinedName}
    (h : applyDefinedName o wb data skip g d = .ok t) :
    Fills o g (definedNameWrites o wb data skip d) t := by
  unfold applyDefinedName at h
  unfold definedNameWrites
  split at h
  · cases h
    exact .nil g
  · rename_i x hx
    split at h
    · rename_i hskip
      cases h
      rw [if_pos hskip]
      exact .nil g
    · rename_i hskip
      rw [if_neg hskip, flatMap_filter]
      exact .foldlM (fun _ _ _ hd => applyDestination_fills hd) h

theorem applyDefinedNames_fills {skip : List String}
    (h : applyDefinedNames o wb data skip g = .ok t) : Fills o g (nameWrites o wb data skip) t :=
  .foldlM (fun _ _ _ hd => applyDefinedName_fills hd) h

/-- A merged cell has a range that covers it. -/
theorem range_of_merged {sheet : Worksheet} {p : Pos} (h : sheet.isMergedCell p = true) :
    ∃ range, sheet.merged.find? (fun range => range.cells p) = some range := by
  obtain ⟨range, hr, hp⟩ := List.any_eq_true.mp h
  rw [Bool.and_eq_true] at hp
  exact Option.isSome_iff_exists.mp (List.find?_isSome.mpr ⟨range, hr, hp.1⟩)

theorem setCell_fills {sheet : Worksheet} {p : Pos} {x : Json} (h : setCell o sheet p x g = .ok t) :
    Fills o g [((sheet.title, display sheet p), x)] t := by
  unfold setCell at h
  unfold display
  obtain ⟨-, -, h⟩ := bind_ok.mp h
  split at h
  · rename_i hp
    obtain ⟨range, hr⟩ := range_of_merged hp
    rw [hr] at h
    obtain ⟨-, -, h⟩ := bind_ok.mp h
    rw [if_pos hp, hr]
    exact assign_fills h
  · rename_i hp
    rw [if_neg hp]
    exact assign_fills h

theorem rowGet_ok {row x : Json} {key : String} (h : rowGet row key = .ok x) :
    x = (row.get? key).getD .null := by
  cases row <;> cases h
  rfl

theorem writeRow_fills {sheet : Worksheet} {first : Pos} {columns : List String} {row : Json × ℕ}
    (h : writeRow o sheet first columns g row = .ok t) :
    Fills o g (columns.zipIdx.map fun column =>
      ((sheet.title, display sheet (first.1 + row.2, first.2 + column.2)), cellOf row.1 column.1)) t := by
  rw [List.map_eq_flatMap]
  refine .foldlM (fun g column t h => ?_) h
  obtain ⟨x, hx, h⟩ := bind_ok.mp h
  rw [cellOf, ← rowGet_ok hx]
  exact setCell_fills h

/-- A block that is filled has a list that fits, and an anchor; then its cells
are written, and its unused rows hidden. -/
theorem applyBlock_ok {block : BlockSpec} (h : applyBlock o wb m data g block = .ok t) :
    ∃ rows capacity sheet first u, blockRows data block = .ok rows ∧
      m.blockCapacity block = .ok capacity ∧ rows.length ≤ capacity ∧
      resolveAnchor o wb block = .ok (sheet, first) ∧
      Fills o g (bandWrites sheet first rows block.columns) u ∧
      t = if block.hideUnusedRows then
        (unusedRows first.1 rows.length capacity).foldl (Grid.hideRow sheet.title) u else u := by
  obtain ⟨rows, hrows, h⟩ := bind_ok.mp h
  obtain ⟨capacity, hcap, h⟩ := bind_ok.mp h
  split at h
  · cases h
  rename_i hle
  obtain ⟨⟨sheet, first⟩, hanchor, h⟩ := bind_ok.mp h
  obtain ⟨u, hu, h⟩ := bind_ok.mp h
  cases h
  refine ⟨rows, capacity, sheet, first, u, hrows, ?_, Nat.le_of_not_lt hle, hanchor, ?_, rfl⟩
  · rcases hc : m.blockCapacity block with message | n
    · rw [hc] at hcap
      cases hcap
    · rw [hc] at hcap
      cases hcap
      rfl
  · exact .foldlM (fun _ _ _ hrow => writeRow_fills hrow) hu

/-- Hiding rows writes no cell. -/
theorem value_hideRows {title : String} : ∀ (rows : List ℕ) (g : Grid V),
    (rows.foldl (Grid.hideRow title) g).value = g.value
  | [], _ => rfl
  | row :: rows, g => value_hideRows rows (g.hideRow title row)

theorem applyBlock_written {block : BlockSpec} (h : applyBlock o wb m data g block = .ok t) :
    Written o.bind g.value (blockWrites o wb data block) t.value := by
  obtain ⟨rows, capacity, sheet, first, u, hrows, -, -, hanchor, hu, rfl⟩ := applyBlock_ok h
  have hw : blockWrites o wb data block = bandWrites sheet first rows block.columns := by
    rw [blockWrites, hanchor, hrows]
  rw [hw]
  split
  · rw [value_hideRows]
    exact hu.written
  · exact hu.written

theorem applyBlocks_written (h : applyBlocks o wb m data g = .ok t) :
    Written o.bind g.value (m.blocks.flatMap (blockWrites o wb data)) t.value :=
  .foldlM Grid.value (fun _ _ _ hb => applyBlock_written hb) h

theorem applyCells_fills {cells : Json} (h : applyCells o wb cells g = .ok t) :
    Fills o g (cellWrites o wb cells) t := by
  obtain ⟨items, hitems, h⟩ := bind_ok.mp h
  rw [cellWrites, hitems]
  refine .foldlM (fun g item t h => ?_) h
  obtain ⟨⟨sheet, p⟩, href, h⟩ := bind_ok.mp h
  rw [href]
  exact assign_fills h

theorem fill_ok (h : fill o wb m data g = .ok t) : ∃ u v,
    applyDefinedNames o wb data (m.blocks.map BlockSpec.source) g = .ok u ∧
      applyBlocks o wb m data u = .ok v ∧
      applyCells o wb ((data.lookup "cells").getD (.obj [])) v = .ok t := by
  obtain ⟨u, hu, h⟩ := bind_ok.mp h
  obtain ⟨v, hv, h⟩ := bind_ok.mp h
  exact ⟨u, v, hu, hv, h⟩

theorem fill_written (h : fill o wb m data g = .ok t) :
    Written o.bind g.value (fillWrites o wb m data) t.value := by
  obtain ⟨u, v, hu, hv, ht⟩ := fill_ok h
  exact ((applyDefinedNames_fills hu).written.append (applyBlocks_written hv)).append
    (applyCells_fills ht).written

/-- A list that is too long for its block stops the fill. -/
theorem fill_overflow {block : BlockSpec} (hb : block ∈ m.blocks) (hov : Overflows m data block) :
    ∃ exc, fill o wb m data g = .error exc := by
  rcases h : fill o wb m data g with exc | t
  · exact ⟨exc, rfl⟩
  exfalso
  obtain ⟨u, v, -, hv, -⟩ := fill_ok h
  obtain ⟨g', t', hturn⟩ := foldlM_turn hv block hb
  obtain ⟨rows, capacity, _, _, _, hrows, hcap, hle, -⟩ := applyBlock_ok hturn
  obtain ⟨xs, n, hxs, hn, hlt⟩ := hov
  obtain rfl : n = capacity := Except.ok.inj (hn.symm.trans hcap)
  have htruthy : (Json.arr xs).truthy = true := by
    rcases xs with _ | ⟨x, xs⟩
    · cases hlt
    · rfl
  simp only [blockRows, hxs, Option.getD_some, htruthy, if_true] at hrows
  obtain rfl := Except.ok.inj hrows
  omega

/-- **The meaning of a fill.** If the steps complete, a cell holds the value of
the last explicit cell that addresses it; else that of the last block write,
else that of the last defined name, else what it held before. The steps do not
complete if a block's list is longer than the block. -/
theorem fill_cells (o : Openpyxl V) (wb : Workbook) (m : Manifest) (data : JsonDict) (g : Grid V) :
    (∀ t, fill o wb m data g = .ok t → ∀ cell,
      match lastAt (cellWrites o wb ((data.lookup "cells").getD (.obj []))) cell with
      | some x => o.bind x = .ok (t.value cell)
      | none =>
        match lastAt (m.blocks.flatMap (blockWrites o wb data)) cell with
        | some x => o.bind x = .ok (t.value cell)
        | none =>
          match lastAt (nameWrites o wb data (m.blocks.map BlockSpec.source)) cell with
          | some x => o.bind x = .ok (t.value cell)
          | none => t.value cell = g.value cell) ∧
    ((∃ block ∈ m.blocks, Overflows m data block) → ∃ exc, fill o wb m data g = .error exc) := by
  refine ⟨fun t h cell => ?_, fun ⟨block, hb, hov⟩ => fill_overflow hb hov⟩
  obtain ⟨hsome, hnone⟩ := (fill_written h).value cell
  rw [fillWrites, lastAt_append, lastAt_append] at hsome hnone
  generalize lastAt (cellWrites o wb ((data.lookup "cells").getD (.obj []))) cell = explicit at *
  generalize lastAt (m.blocks.flatMap (blockWrites o wb data)) cell = block at *
  generalize lastAt (nameWrites o wb data (m.blocks.map BlockSpec.source)) cell = name at *
  rcases explicit with _ | x
  · rcases block with _ | x
    · rcases name with _ | x
      · exact hnone rfl
      · exact hsome x rfl
    · exact hsome x rfl
  · exact hsome x rfl

end

/-! ### A fill in which the steps overlap -/

/-- A block on the sheet `S` from `anchor` on, with `maxRows` rows. -/
def sheetBlock (source : String) (columns : List String) (anchor : String) (maxRows : ℕ)
    (h : source ≠ "" ∧ columns ≠ [] ∧ isSet (some anchor) ≠ isSet none ∧ 1 ≤ maxRows) : BlockSpec where
  source := source
  columns := columns
  anchor := some anchor
  anchorName := none
  maxRows := some maxRows
  hideUnusedRows := true
  source_ne := h.1
  columns_ne := h.2.1
  exactlyOneAnchor := h.2.2.1
  maxRows_pos := by
    rintro _ ⟨⟩
    exact h.2.2.2

/-- A manifest with these blocks, each with rows of its own. -/
def blocksManifest (blocks : List BlockSpec) (h : ∀ block ∈ blocks, block.maxRows.isSome) : Manifest where
  id := "annex"
  version := "1"
  engine := .xlsx
  supportedFormats := [.xlsx]
  requiredFields := []
  outputBasename := none
  blocks := blocks
  blocksHaveResolvableCapacity block hb := by
    obtain ⟨n, hn⟩ := Option.isSome_iff_exists.mp (h block hb)
    exact ⟨n, by simp [capacityOf, hn]⟩

/-- A template with no values and no hidden rows. -/
def blankGrid : Grid (Option String) := ⟨fun _ => none, fun _ => false⟩

/-- One block, over the columns `A` and `B`. -/
def nameManifest : Manifest :=
  blocksManifest [sheetBlock "rows" ["first", "last"] "S!A4" 4 (by decide)] (by decide)

/-- The names `first`, `second` and `third` for the cells from `A4` to `C4`. -/
def overlapBook : Workbook where
  sheets := [⟨"S", []⟩]
  active := ⟨"S", []⟩
  definedNames := [⟨"first", [("S", "$A$4")], by decide⟩, ⟨"second", [("S", "$B$4")], by decide⟩,
    ⟨"third", [("S", "$C$4")], by decide⟩]
  titles_nodup := List.nodup_singleton _
  active_mem := List.mem_cons_self
  names_nodup := by decide

/-- A value for each name, a row of the block, and an explicit cell. -/
def overlapData : JsonDict :=
  [("first", .str "name"), ("second", .str "name"), ("third", .str "name"),
    ("rows", .arr [.obj [("first", .str "row"), ("last", .str "")]]), ("cells", .obj [("S!A4", .str "cell")])]

/-- `A4` is addressed in all three ways, `B4` by its name and by the empty
string of a row, `C4` by its name alone, and `D4` not at all. -/
theorem fill_cells_overlap : ∃ t, fill plainOpenpyxl overlapBook nameManifest overlapData
    ⟨fun _ => some "before", fun _ => false⟩ = .ok t ∧ t.value ("S", (4, 1)) = some "cell" ∧
      t.value ("S", (4, 2)) = none ∧ t.value ("S", (4, 3)) = some "name" ∧
      t.value ("S", (4, 4)) = some "before" := by
  obtain ⟨t, ht⟩ : ∃ t, fill plainOpenpyxl overlapBook nameManifest overlapData
    ⟨fun _ => some "before", fun _ => false⟩ = .ok t := ⟨_, rfl⟩
  have hcells := (fill_cells plainOpenpyxl overlapBook nameManifest overlapData _).1 t ht
  have hA : plainOpenpyxl.bind (.str "cell") = .ok (t.value ("S", (4, 1))) := hcells ("S", (4, 1))
  have hB : plainOpenpyxl.bind .null = .ok (t.value ("S", (4, 2))) := hcells ("S", (4, 2))
  have hC : plainOpenpyxl.bind (.str "name") = .ok (t.value ("S", (4, 3))) := hcells ("S", (4, 3))
  exact ⟨t, ht, (Except.ok.inj hA).symm, (Except.ok.inj hB).symm, (Except.ok.inj hC).symm, hcells ("S", (4, 4))⟩

end DocGen
