/-
# Absence in a workbook

`_normalise_value` writes `None` for an empty string, so that the two never
both reach a cell. Only blocks go through it. A defined name and an explicit
cell write an empty string as it is, so `null` and the empty string make the
same workbook exactly if each one that the data supply there is covered by
what is filled after it (`empty_is_absent_iff`).
-/
import DocGen.XlsxBlocks

namespace DocGen

/-! ### Data with empty strings replaced -/

/-- The scalar, or `null` for an empty string. -/
inductive Blanks : Json → Json → Prop
  | same (x : Json) : Blanks x x
  | empty : Blanks (.str "") .null

/-- A dict, each value of which may be blanked. -/
abbrev BlanksFields : JsonDict → JsonDict → Prop :=
  List.Forall₂ fun f f' => f'.1 = f.1 ∧ Blanks f.2 f'.2

/-- A row of a block. -/
inductive BlanksRow : Json → Json → Prop
  | same (x : Json) : BlanksRow x x
  | fields {fields fields' : JsonDict} (h : BlanksFields fields fields') :
      BlanksRow (.obj fields) (.obj fields')

/-- A pair, as an explicit cell. -/
inductive BlanksPair : Json → Json → Prop
  | same (x : Json) : BlanksPair x x
  | pair (key : Json) {x x' : Json} (h : Blanks x x') : BlanksPair (.arr [key, x]) (.arr [key, x'])

/-- The defined name is written: it is no source of a block. -/
def NameWritten (wb : Workbook) (m : Manifest) (name : String) : Prop :=
  name ∈ wb.definedNames.map DefinedName.name ∧ name ∉ m.blocks.map BlockSpec.source

/-- The value of the data under a key: the rows of a block, a value written
through a defined name, or the explicit cells. -/
inductive BlanksTop (wb : Workbook) (m : Manifest) : String → Json → Json → Prop
  | same (key : String) (x : Json) : BlanksTop wb m key x x
  | rows {key : String} (hkey : key ∈ m.blocks.map BlockSpec.source) {rows rows' : List Json}
      (h : List.Forall₂ BlanksRow rows rows') : BlanksTop wb m key (.arr rows) (.arr rows')
  | name {key : String} (hkey : NameWritten wb m key) : BlanksTop wb m key (.str "") .null
  | cells {fields fields' : JsonDict} (h : BlanksFields fields fields') :
      BlanksTop wb m "cells" (.obj fields) (.obj fields')
  | pairs {pairs pairs' : List Json} (h : List.Forall₂ BlanksPair pairs pairs') :
      BlanksTop wb m "cells" (.arr pairs) (.arr pairs')

/-- The data, with any of its empty strings replaced by `null`. -/
abbrev Blanked (wb : Workbook) (m : Manifest) : JsonDict → JsonDict → Prop :=
  List.Forall₂ fun f f' => f'.1 = f.1 ∧ BlanksTop wb m f.1 f.2 f'.2

/-- What `openpyxl` stores: nothing for `None`, the empty string for that alone,
and no dict or list. -/
structure StoresAbsence {V : Type} (o : Openpyxl V) (empty : V) : Prop where
  null : ∃ v, o.bind .null = .ok v
  empty : ∀ x, o.bind x = .ok empty ↔ x = .str ""
  dict : ∀ fields, ∃ exc, o.bind (.obj fields) = .error exc
  list : ∀ xs, ∃ exc, o.bind (.arr xs) = .error exc

theorem lookup_forall₂ {Q : String → Json → Json → Prop} {data data' : JsonDict}
    (h : List.Forall₂ (fun f f' => f'.1 = f.1 ∧ Q f.1 f.2 f'.2) data data') (key : String) :
    (data.lookup key = none ∧ data'.lookup key = none) ∨
      ∃ x x', data.lookup key = some x ∧ data'.lookup key = some x' ∧ Q key x x' := by
  induction h with
  | nil => exact Or.inl ⟨rfl, rfl⟩
  | @cons f f' data data' hf _ ih =>
    obtain ⟨k, x⟩ := f
    obtain ⟨k', x'⟩ := f'
    obtain ⟨rfl, hQ⟩ := hf
    rw [List.lookup_cons, List.lookup_cons]
    by_cases hk : (key == k') = true
    · rw [hk]
      obtain rfl := beq_iff_eq.mp hk
      exact Or.inr ⟨x, x', rfl, rfl, hQ⟩
    · rw [Bool.not_eq_true] at hk
      rw [hk]
      exact ih

theorem normalise_of_blanks {x x' : Json} (h : Blanks x x') : normaliseValue x' = normaliseValue x := by
  cases h <;> rfl

theorem normalise_ne_empty (x : Json) : normaliseValue x ≠ .str "" := by
  rcases normaliseValue_rule x with ⟨-, hx⟩ | ⟨hne, hx⟩
  · exact hx ▸ nofun
  · rw [hx]
    exact hne

/-- A value that is not the empty string stays. -/
theorem Blanks.eq_of_ne {x x' : Json} (h : Blanks x x') (hne : x ≠ .str "") : x' = x := by
  cases h with
  | same => rfl
  | empty => exact absurd rfl hne

section

variable {V : Type} {o : Openpyxl V} {empty : V} {wb : Workbook} {m : Manifest}
  {data data' : JsonDict} {g g' t : Grid V}

/-- The writes of two steps, write by write as good. -/
abbrev BlanksWrites : List (Cell × Json) → List (Cell × Json) → Prop :=
  List.Forall₂ fun w w' => w'.1 = w.1 ∧ Blanks w.2 w'.2

theorem blanksWrites_refl (ws : List (Cell × Json)) : BlanksWrites ws ws :=
  List.forall₂_same.mpr fun _ _ => ⟨rfl, .same _⟩

theorem blanksWrites_append {ws ws' vs vs' : List (Cell × Json)} (h : BlanksWrites ws ws')
    (h' : BlanksWrites vs vs') : BlanksWrites (ws ++ vs) (ws' ++ vs') := List.rel_append h h'

/-- If the first step completes, so does the second, on every grid, and its
writes are as good. -/
def Follows (step step' : Grid V → Except Exc (Grid V)) (ws ws' : List (Cell × Json)) : Prop :=
  ∀ g t, step g = .ok t → (∀ g', ∃ t', step' g' = .ok t') ∧ BlanksWrites ws ws'

theorem Follows.foldlM {α : Type} {Q : α → α → Prop} {f f' : Grid V → α → Except Exc (Grid V)}
    {w w' : α → List (Cell × Json)}
    (hturn : ∀ x x', Q x x' → Follows (fun g => f g x) (fun g => f' g x') (w x) (w' x')) {xs xs' : List α}
    (hQ : List.Forall₂ Q xs xs') : Follows (fun g => xs.foldlM f g) (fun g => xs'.foldlM f' g)
      (xs.flatMap w) (xs'.flatMap w') := by
  induction hQ with
  | nil => exact fun g t _ => ⟨fun g' => ⟨g', rfl⟩, .nil⟩
  | @cons x x' xs xs' hx _ ih =>
    intro g t h
    obtain ⟨u, hu, ht⟩ := foldlM_cons_ok.mp h
    obtain ⟨hx', hw⟩ := hturn x x' hx g u hu
    obtain ⟨hxs', hws⟩ := ih u t ht
    refine ⟨fun g' => ?_, ?_⟩
    · obtain ⟨u', hu'⟩ := hx' g'
      obtain ⟨t', ht'⟩ := hxs' u'
      exact ⟨t', foldlM_cons_ok.mpr ⟨u', hu', ht'⟩⟩
    · rw [List.flatMap_cons, List.flatMap_cons]
      exact blanksWrites_append hw hws

/-- A loop over the same things. -/
theorem Follows.loop {α : Type} {f f' : Grid V → α → Except Exc (Grid V)}
    {w w' : α → List (Cell × Json)} {xs : List α}
    (hturn : ∀ x ∈ xs, Follows (fun g => f g x) (fun g => f' g x) (w x) (w' x)) :
    Follows (fun g => xs.foldlM f g) (fun g => xs.foldlM f' g) (xs.flatMap w) (xs.flatMap w') :=
  .foldlM (Q := fun x x' => x' = x ∧ x ∈ xs) (fun x _ h => h.1 ▸ hturn x h.2)
    (List.forall₂_same.mpr fun _ hx => ⟨rfl, hx⟩)

/-- A write follows one of a value that is as good. -/
theorem assign_follows (ho : StoresAbsence o empty) {sheet : Worksheet} {p : Pos} {x x' : Json}
    (hx : Blanks x x') : Follows (assign o sheet p x) (assign o sheet p x')
      [((sheet.title, p), x)] [((sheet.title, p), x')] := by
  intro g t h
  refine ⟨fun g' => ?_, .cons ⟨rfl, hx⟩ .nil⟩
  unfold assign at h ⊢
  split at h
  · cases h
  · rename_i hp
    rw [if_neg hp]
    obtain ⟨v, hv, -⟩ := bind_ok.mp h
    cases hx with
    | same => exact ⟨_, bind_ok.mpr ⟨v, hv, rfl⟩⟩
    | empty =>
      obtain ⟨w, hw⟩ := ho.null
      exact ⟨_, bind_ok.mpr ⟨w, hw, rfl⟩⟩

theorem setCell_any (ho : StoresAbsence o empty) {sheet : Worksheet} {p : Pos} {x : Json}
    (h : setCell o sheet p x g = .ok t) (g' : Grid V) : ∃ t', setCell o sheet p x g' = .ok t' := by
  unfold setCell at h ⊢
  obtain ⟨u, hu, h⟩ := bind_ok.mp h
  rw [hu]
  show ∃ t', (if sheet.isMergedCell p then _ else _) = Except.ok t'
  split at h
  · rename_i hp
    rw [if_pos hp]
    split at h
    · obtain ⟨u', hu', h⟩ := bind_ok.mp h
      obtain ⟨t', ht'⟩ := (assign_follows ho (.same x) g t h).1 g'
      exact ⟨t', bind_ok.mpr ⟨u', hu', ht'⟩⟩
    · exact ⟨g', rfl⟩
  · rename_i hp
    rw [if_neg hp]
    exact (assign_follows ho (.same x) g t h).1 g'

/-! ### Defined names -/

/-- A destination takes a value that is as good. One that `openpyxl` does not
store is written to no cell. -/
theorem applyDestination_follows (ho : StoresAbsence o empty) {x x' : Json}
    (hx : Blanks x x' ∨ ∃ exc, o.bind x = .error exc) (d : String × String) :
    Follows (fun g => applyDestination o wb x g d) (fun g => applyDestination o wb x' g d)
      (if isRange d then [] else writeAt (destinationRef o wb d) x)
      (if isRange d then [] else writeAt (destinationRef o wb d) x') := by
  intro g t h
  by_cases hd : isRange d
  · simp only [applyDestination, if_pos hd]
    exact ⟨fun g' => ⟨g', rfl⟩, .nil⟩
  · simp only [applyDestination, if_neg hd] at h ⊢
    obtain ⟨⟨sheet, p⟩, href, h⟩ := bind_ok.mp h
    rw [href]
    rcases hx with hx | ⟨exc, hx⟩
    · exact assign_follows ho hx g t h
    · unfold assign at h
      split at h
      · cases h
      · obtain ⟨v, hv, -⟩ := bind_ok.mp h
        rw [hx] at hv
        cases hv

/-- What is no source of a block is blanked as a scalar, or stored in no cell. -/
theorem BlanksTop.of_not_source (ho : StoresAbsence o empty) {key : String} {x x' : Json}
    (h : BlanksTop wb m key x x') (hkey : key ∉ m.blocks.map BlockSpec.source) :
    Blanks x x' ∨ ∃ exc, o.bind x = .error exc := by
  cases h with
  | same => exact Or.inl (.same x)
  | rows h => exact absurd h hkey
  | name => exact Or.inl .empty
  | cells => exact Or.inr (ho.dict _)
  | pairs => exact Or.inr (ho.list _)

theorem applyDefinedName_follows (ho : StoresAbsence o empty) (hdata : Blanked wb m data data')
    (d : DefinedName) :
    Follows (fun g => applyDefinedName o wb data (m.blocks.map BlockSpec.source) g d)
      (fun g => applyDefinedName o wb data' (m.blocks.map BlockSpec.source) g d)
      (definedNameWrites o wb data (m.blocks.map BlockSpec.source) d)
      (definedNameWrites o wb data' (m.blocks.map BlockSpec.source) d) := by
  intro g t h
  unfold applyDefinedName definedNameWrites at *
  rcases lookup_forall₂ hdata d.name with ⟨hn, hn'⟩ | ⟨x, x', hx, hx', htop⟩
  · rw [hn, hn']
    exact ⟨fun g' => ⟨g', rfl⟩, .nil⟩
  · rw [hx] at h ⊢
    rw [hx']
    by_cases hskip : d.name ∈ m.blocks.map BlockSpec.source
    · simp only [if_pos hskip]
      exact ⟨fun g' => ⟨g', rfl⟩, .nil⟩
    · simp only [if_neg hskip, flatMap_filter] at h ⊢
      exact Follows.loop
        (fun d _ => applyDestination_follows ho (htop.of_not_source ho hskip) d) g t h

theorem applyDefinedNames_follows (ho : StoresAbsence o empty) (hdata : Blanked wb m data data') :
    Follows (applyDefinedNames o wb data (m.blocks.map BlockSpec.source))
      (applyDefinedNames o wb data' (m.blocks.map BlockSpec.source))
      (nameWrites o wb data (m.blocks.map BlockSpec.source))
      (nameWrites o wb data' (m.blocks.map BlockSpec.source)) :=
  Follows.loop fun d _ => applyDefinedName_follows ho hdata d

/-! ### Blocks -/

/-- The second row has under each column what the first has, once normalised. -/
def RowsAgree (row row' : Json) : Prop :=
  ∀ key x, rowGet row key = .ok x → ∃ x', rowGet row' key = .ok x' ∧ normaliseValue x' = normaliseValue x

theorem RowsAgree.refl (row : Json) : RowsAgree row row := fun _ x hx => ⟨x, hx, rfl⟩

theorem BlanksRow.agree {row row' : Json} (h : BlanksRow row row') : RowsAgree row row' := by
  cases h with
  | same => exact .refl row
  | @fields fields fields' h =>
    intro key x hx
    cases hx
    refine ⟨_, rfl, ?_⟩
    rcases lookup_forall₂ (Q := fun _ => Blanks) h key with ⟨hn, hn'⟩ | ⟨y, y', hy, hy', hyy⟩
    · rw [hn, hn']
    · rw [hy, hy']
      exact normalise_of_blanks hyy

theorem BlanksPair.agree {row row' : Json} (h : BlanksPair row row') : RowsAgree row row' := by
  cases h with
  | same => exact .refl row
  | pair => exact fun _ _ hx => by cases hx

/-- A row writes the same values as one that agrees with it. -/
theorem writeRow_follows (ho : StoresAbsence o empty) {sheet : Worksheet} {first : Pos}
    {columns : List String} {row row' : Json × ℕ} (hrow : RowsAgree row.1 row'.1) (hi : row.2 = row'.2) :
    Follows (fun g => writeRow o sheet first columns g row) (fun g => writeRow o sheet first columns g row')
      (columns.zipIdx.map fun column =>
        ((sheet.title, display sheet (first.1 + row.2, first.2 + column.2)), cellOf row.1 column.1))
      (columns.zipIdx.map fun column =>
        ((sheet.title, display sheet (first.1 + row'.2, first.2 + column.2)),
          cellOf row'.1 column.1)) := by
  rw [List.map_eq_flatMap, List.map_eq_flatMap]
  refine Follows.loop fun column _ g t h => ?_
  obtain ⟨x, hx, h⟩ := bind_ok.mp h
  obtain ⟨x', hx', hxx⟩ := hrow column.1 x hx
  refine ⟨fun g' => ?_, ?_⟩
  · obtain ⟨t', ht'⟩ := setCell_any ho h g'
    refine ⟨t', bind_ok.mpr ⟨x', hx', ?_⟩⟩
    rw [hxx, ← hi]
    exact ht'
  · rw [cellOf, cellOf, ← rowGet_ok hx, ← rowGet_ok hx', hxx, hi]
    exact blanksWrites_refl _

/-- A block's list is blanked row by row, and a falsy value into another. -/
theorem BlanksTop.of_source {key : String} {x x' : Json} (h : BlanksTop wb m key x x')
    (hkey : key ∈ m.blocks.map BlockSpec.source) :
    (∀ rows, x = .arr rows → ∃ rows', x' = .arr rows' ∧ List.Forall₂ RowsAgree rows rows') ∧
      (x.truthy = false → x'.truthy = false) := by
  have hlist : ∀ {Q : Json → Json → Prop} {rows rows' : List Json},
      (∀ row row', Q row row' → RowsAgree row row') → List.Forall₂ Q rows rows' →
      (∀ xs, Json.arr rows = .arr xs → ∃ xs', Json.arr rows' = .arr xs' ∧ List.Forall₂ RowsAgree xs xs') ∧
        ((Json.arr rows).truthy = false → (Json.arr rows').truthy = false) := by
    intro Q rows rows' hQ h
    refine ⟨fun xs hxs => ?_, fun hfalsy => ?_⟩
    · cases hxs
      exact ⟨rows', rfl, h.imp hQ⟩
    · cases h with
      | nil => exact hfalsy
      | cons => cases hfalsy
  cases h with
  | same => exact ⟨fun rows hx => ⟨rows, hx, List.forall₂_same.mpr fun row _ => .refl row⟩, id⟩
  | rows _ h => exact hlist (fun _ _ => BlanksRow.agree) h
  | name hname => exact absurd hkey hname.2
  | cells h =>
    refine ⟨(fun rows hx => by cases hx), fun hfalsy => ?_⟩
    cases h with
    | nil => exact hfalsy
    | cons => cases hfalsy
  | pairs h => exact hlist (fun _ _ => BlanksPair.agree) h

theorem blockRows_eq_ok {block : BlockSpec} {rows : List Json} : blockRows data block = .ok rows ↔
    (data.lookup block.source).getD .null = .arr rows ∨
      ((data.lookup block.source).getD .null).truthy = false ∧ rows = [] := by
  unfold blockRows
  generalize (data.lookup block.source).getD .null = x
  cases hx : x.truthy with
  | false =>
    simp only [hx, Bool.false_eq_true, if_false, Except.ok.injEq, true_and]
    constructor
    · exact fun h => Or.inr h.symm
    · rintro (rfl | rfl)
      · exact (List.isEmpty_iff.mp (by simpa [Json.truthy] using hx)).symm
      · rfl
  | true => cases x <;> simp_all

/-- The rows of a block, blanked. -/
theorem blockRows_agree (hdata : Blanked wb m data data') {block : BlockSpec} (hb : block ∈ m.blocks)
    {rows : List Json} (h : blockRows data block = .ok rows) :
    ∃ rows', blockRows data' block = .ok rows' ∧ List.Forall₂ RowsAgree rows rows' := by
  simp only [blockRows_eq_ok] at h ⊢
  rcases lookup_forall₂ hdata block.source with ⟨hn, hn'⟩ | ⟨x, x', hx, hx', htop⟩
  · rw [hn] at h
    rw [hn']
    exact ⟨rows, h, List.forall₂_same.mpr fun row _ => .refl row⟩
  · rw [hx, Option.getD_some] at h
    rw [hx', Option.getD_some]
    obtain ⟨hlist, hfalsy⟩ := htop.of_source (List.mem_map_of_mem hb)
    rcases h with h | ⟨h, rfl⟩
    · obtain ⟨rows', h', hrows⟩ := hlist rows h
      exact ⟨rows', Or.inl h', hrows⟩
    · exact ⟨[], Or.inr ⟨hfalsy h, rfl⟩, .nil⟩

theorem applyBlock_follows (ho : StoresAbsence o empty) (hdata : Blanked wb m data data')
    {block : BlockSpec} (hb : block ∈ m.blocks) :
    Follows (fun g => applyBlock o wb m data g block) (fun g => applyBlock o wb m data' g block)
      (blockWrites o wb data block) (blockWrites o wb data' block) := by
  intro g t h
  obtain ⟨rows, hrows, h⟩ := bind_ok.mp h
  obtain ⟨capacity, hcap, h⟩ := bind_ok.mp h
  split at h
  · cases h
  rename_i hle
  obtain ⟨⟨sheet, first⟩, hanchor, h⟩ := bind_ok.mp h
  obtain ⟨u, hu, -⟩ := bind_ok.mp h
  obtain ⟨rows', hrows', hagree⟩ := blockRows_agree hdata hb hrows
  obtain ⟨hany, hwrites⟩ := Follows.foldlM
    (fun _ _ hrow => writeRow_follows ho hrow.1 hrow.2) (forall₂_zipIdx hagree 0) g u hu
  refine ⟨fun g' => ?_, ?_⟩
  · obtain ⟨u', hu'⟩ := hany g'
    refine ⟨if block.hideUnusedRows then
      (unusedRows first.1 rows'.length capacity).foldl (Grid.hideRow sheet.title) u' else u',
      bind_ok.mpr ⟨rows', hrows', bind_ok.mpr ⟨capacity, hcap, ?_⟩⟩⟩
    rw [if_neg (hagree.length_eq ▸ hle)]
    exact bind_ok.mpr ⟨(sheet, first), hanchor, bind_ok.mpr ⟨u', hu', rfl⟩⟩
  · rw [blockWrites, blockWrites, hanchor, hrows, hrows']
    exact hwrites

theorem applyBlocks_follows (ho : StoresAbsence o empty) (hdata : Blanked wb m data data') :
    Follows (applyBlocks o wb m data) (applyBlocks o wb m data')
      (m.blocks.flatMap (blockWrites o wb data)) (m.blocks.flatMap (blockWrites o wb data')) :=
  Follows.loop fun _ hb => applyBlock_follows ho hdata hb

/-! ### Explicit cells -/

/-- What an element of a list of pairs iterates over. -/
inductive BlanksIter : Option (List Json) → Option (List Json) → Prop
  | same (xs) : BlanksIter xs xs
  | pair (key : Json) {x x' : Json} (h : Blanks x x') : BlanksIter (some [key, x]) (some [key, x'])

theorem BlanksRow.iter {row row' : Json} (h : BlanksRow row row') : BlanksIter row.iter? row'.iter? := by
  cases h with
  | same => exact .same _
  | @fields fields fields' h =>
    have hiter : (Json.obj fields').iter? = (Json.obj fields).iter? := by
      refine congrArg some ?_
      induction h with
      | nil => rfl
      | cons hf _ ih => rw [List.map_cons, List.map_cons, ih, hf.1]
    rw [hiter]
    exact .same _

theorem BlanksPair.iter {pair pair' : Json} (h : BlanksPair pair pair') :
    BlanksIter pair.iter? pair'.iter? := by
  cases h with
  | same => exact .same _
  | pair key h => exact .pair key h

/-- Setting a key of a dict. -/
theorem blanksFields_set {fields fields' : JsonDict} (h : BlanksFields fields fields') (key : String)
    {x x' : Json} (hx : Blanks x x') :
    BlanksFields
      (if fields.any fun f => f.1 = key then fields.map fun f => if f.1 = key then (key, x) else f
        else fields ++ [(key, x)])
      (if fields'.any fun f => f.1 = key then fields'.map fun f => if f.1 = key then (key, x') else f
        else fields' ++ [(key, x')]) := by
  have hany : (fields'.any fun f => f.1 = key) = fields.any fun f => f.1 = key := by
    induction h with
    | nil => rfl
    | cons hf _ ih => rw [List.any_cons, List.any_cons, ih, hf.1]
  rw [hany]
  split
  · refine List.forall₂_map_left_iff.mpr (List.forall₂_map_right_iff.mpr (h.imp fun f f' hf => ?_))
    rw [hf.1]
    split
    · exact ⟨rfl, hx⟩
    · exact hf
  · exact List.rel_append h (.cons ⟨rfl, hx⟩ .nil)

theorem dictPair_blanks {pair pair' : Option (List Json) × ℕ} (hpair : BlanksIter pair.1 pair'.1)
    (hi : pair.2 = pair'.2) {items items' u : JsonDict} (hitems : BlanksFields items items')
    (h : dictPair items pair = .ok u) : ∃ u', dictPair items' pair' = .ok u' ∧ BlanksFields u u' := by
  obtain ⟨xs, i⟩ := pair
  obtain ⟨xs', i'⟩ := pair'
  unfold dictPair at h ⊢
  have hok : ∀ {key : Json} {x x' : Json}, Blanks x x' → xs = some [key, x] → xs' = some [key, x'] →
      ∃ u', dictPair items' (xs', i') = .ok u' ∧ BlanksFields u u' := by
    rintro key x x' hx rfl rfl
    cases key with
    | str key =>
      cases h
      exact ⟨_, rfl, blanksFields_set hitems key hx⟩
    | _ => cases h
  cases hpair with
  | same =>
    rcases xs with _ | _ | ⟨key, _ | ⟨x, _ | _⟩⟩
    · cases h
    · cases h
    · cases key <;> cases h
    · exact hok (.same x) rfl rfl
    · cases key <;> cases h
  | pair key hx => exact hok hx rfl rfl

theorem dictList_blanks {Q : Json → Json → Prop}
    (hQ : ∀ x x', Q x x' → BlanksIter x.iter? x'.iter?) {xs xs' : List Json} (h : List.Forall₂ Q xs xs')
    {items : JsonDict} (hitems : dictItems (.arr xs) = .ok items) :
    ∃ items', dictItems (.arr xs') = .ok items' ∧ BlanksFields items items' := by
  have hiter : List.Forall₂ BlanksIter (xs.map Json.iter?) (xs'.map Json.iter?) :=
    List.forall₂_map_left_iff.mpr (List.forall₂_map_right_iff.mpr (h.imp hQ))
  exact foldlM_simulates (forall₂_zipIdx hiter 0)
    (fun pair pair' items items' u hpair hitems hu => dictPair_blanks hpair.1 hpair.2 hitems hu)
    .nil hitems

theorem blanksFields_refl (fields : JsonDict) : BlanksFields fields fields :=
  List.forall₂_same.mpr fun _ _ => ⟨rfl, .same _⟩

/-- The explicit cells, blanked. They are not all replaced at once. -/
theorem BlanksTop.items {x x' : Json} (h : BlanksTop wb m "cells" x x')
    (hname : ¬ (x = .str "" ∧ NameWritten wb m "cells")) {items : JsonDict}
    (hitems : dictItems x = .ok items) :
    ∃ items', dictItems x' = .ok items' ∧ BlanksFields items items' := by
  cases h with
  | same => exact ⟨items, hitems, blanksFields_refl items⟩
  | rows _ h => exact dictList_blanks (fun _ _ => BlanksRow.iter) h hitems
  | name h => exact absurd ⟨rfl, h⟩ hname
  | cells h =>
    cases hitems
    exact ⟨_, rfl, h⟩
  | pairs h => exact dictList_blanks (fun _ _ => BlanksPair.iter) h hitems

theorem cells_blanks (hdata : Blanked wb m data data')
    (hname : ¬ (data.lookup "cells" = some (.str "") ∧ NameWritten wb m "cells")) {items : JsonDict}
    (hitems : dictItems ((data.lookup "cells").getD (.obj [])) = .ok items) :
    ∃ items', dictItems ((data'.lookup "cells").getD (.obj [])) = .ok items' ∧
      BlanksFields items items' := by
  rcases lookup_forall₂ hdata "cells" with ⟨hn, hn'⟩ | ⟨x, x', hx, hx', htop⟩
  · rw [hn] at hitems
    rw [hn']
    exact ⟨items, hitems, blanksFields_refl items⟩
  · rw [hx, Option.getD_some] at hitems
    rw [hx', Option.getD_some]
    rw [hx] at hname
    exact htop.items (fun h => hname ⟨congrArg some h.1, h.2⟩) hitems

theorem applyCells_follows (ho : StoresAbsence o empty) {cells cells' : Json}
    (hcells : ∀ items, dictItems cells = .ok items →
      ∃ items', dictItems cells' = .ok items' ∧ BlanksFields items items') :
    Follows (applyCells o wb cells) (applyCells o wb cells') (cellWrites o wb cells)
      (cellWrites o wb cells') := by
  intro g t h
  obtain ⟨items, hitems, h⟩ := bind_ok.mp h
  obtain ⟨items', hitems', hblanks⟩ := hcells items hitems
  have hturn : ∀ item item' : String × Json, item'.1 = item.1 ∧ Blanks item.2 item'.2 →
      Follows (fun g => applyCell o wb g item) (fun g => applyCell o wb g item')
        (writeAt (cellRef o wb item.1) item.2) (writeAt (cellRef o wb item'.1) item'.2) := by
    intro item item' ⟨hkey, hx⟩ g t h
    obtain ⟨⟨sheet, p⟩, href, h⟩ := bind_ok.mp h
    obtain ⟨hany, hw⟩ := assign_follows ho hx g t h
    rw [hkey, href]
    refine ⟨fun g' => ?_, hw⟩
    obtain ⟨t', ht'⟩ := hany g'
    exact ⟨t', bind_ok.mpr ⟨(sheet, p), hkey ▸ href, ht'⟩⟩
  obtain ⟨hany, hw⟩ := Follows.foldlM hturn hblanks g t h
  rw [cellWrites, cellWrites, hitems, hitems']
  refine ⟨fun g' => ?_, hw⟩
  obtain ⟨t', ht'⟩ := hany g'
  exact ⟨t', bind_ok.mpr ⟨items', hitems', ht'⟩⟩

/-! ### The whole fill -/

/-- With blanked data the fill completes, and its writes are as good, unless
the explicit cells were blanked as a whole. -/
theorem fill_follows (ho : StoresAbsence o empty) (hdata : Blanked wb m data data')
    (hname : ¬ (data.lookup "cells" = some (.str "") ∧ NameWritten wb m "cells")) :
    Follows (fill o wb m data) (fill o wb m data') (fillWrites o wb m data) (fillWrites o wb m data') := by
  intro g t h
  obtain ⟨u, v, hu, hv, ht⟩ := fill_ok h
  obtain ⟨hnames, hw₁⟩ := applyDefinedNames_follows ho hdata g u hu
  obtain ⟨hblocks, hw₂⟩ := applyBlocks_follows ho hdata u v hv
  obtain ⟨hcells, hw₃⟩ := applyCells_follows ho (fun _ => cells_blanks hdata hname) v t ht
  refine ⟨fun g' => ?_, blanksWrites_append (blanksWrites_append hw₁ hw₂) hw₃⟩
  obtain ⟨u', hu'⟩ := hnames g'
  obtain ⟨v', hv'⟩ := hblocks u'
  obtain ⟨t', ht'⟩ := hcells v'
  exact ⟨t', bind_ok.mpr ⟨u', hu', bind_ok.mpr ⟨v', hv', ht'⟩⟩⟩

/-! ### Empty strings that nothing covers -/

section

variable (o : Openpyxl V) (wb : Workbook) (m : Manifest) (data : JsonDict)

/-- The reference is to the cell. -/
def Refers (ref : Except Exc (Worksheet × Pos)) (cell : Cell) : Prop :=
  ∃ sheet p, ref = .ok (sheet, p) ∧ (sheet.title, p) = cell

/-- A defined name fills the cell: the data have its key, no block owns it, and
one of its destinations is the cell. -/
structure NameFills (d : DefinedName) (cell : Cell) : Prop where
  supplied : (data.lookup d.name).isSome
  free : d.name ∉ m.blocks.map BlockSpec.source
  destination : ∃ dest ∈ d.destinations, isRange dest = false ∧ Refers (destinationRef o wb dest) cell

/-- A block fills the cell: it displays a position of the block's rows and
columns. -/
def BandFills (block : BlockSpec) (cell : Cell) : Prop :=
  ∃ sheet first rows, resolveAnchor o wb block = .ok (sheet, first) ∧ blockRows data block = .ok rows ∧
    ∃ i < rows.length, ∃ j < block.columns.length,
      (sheet.title, display sheet (first.1 + i, first.2 + j)) = cell

/-- The entries of `data["cells"]`. -/
def explicitItems : JsonDict :=
  match dictItems ((data.lookup "cells").getD (.obj [])) with
  | .ok items => items
  | .error _ => []

/-- The data supply an empty string for the cell, through a defined name or an
entry of the explicit cells, and nothing after it fills the cell. -/
inductive LeftEmpty (cell : Cell) : Prop
  | name {pre post : List DefinedName} {d : DefinedName} (hsplit : wb.definedNames = pre ++ d :: post)
      (hempty : data.lookup d.name = some (.str "")) (hfills : NameFills o wb m data d cell)
      (hnames : ∀ d' ∈ post, ¬ NameFills o wb m data d' cell)
      (hblocks : ∀ block ∈ m.blocks, ¬ BandFills o wb data block cell)
      (hitems : ∀ item ∈ explicitItems data, ¬ Refers (cellRef o wb item.1) cell) : LeftEmpty cell
  | item {pre post : JsonDict} {ref : String} (hsplit : explicitItems data = pre ++ (ref, .str "") :: post)
      (hrefers : Refers (cellRef o wb ref) cell)
      (hlater : ∀ item ∈ post, ¬ Refers (cellRef o wb item.1) cell) : LeftEmpty cell

/-- Every empty string that the data supply outside the blocks is covered, and
the explicit cells are not one that a defined name writes. -/
structure EmptiesCovered : Prop where
  covered : ∀ cell, ¬ LeftEmpty o wb m data cell
  cells : ¬ (data.lookup "cells" = some (.str "") ∧ NameWritten wb m "cells")

end

theorem mem_writeAt {ref : Except Exc (Worksheet × Pos)} {x : Json} {w : Cell × Json} :
    w ∈ writeAt ref x ↔ Refers ref w.1 ∧ w.2 = x := by
  obtain ⟨cell, y⟩ := w
  rcases ref with exc | ⟨sheet, p⟩
  · simp [writeAt, Refers]
  · simp only [writeAt, Refers, List.mem_singleton, Prod.mk.injEq, Except.ok.injEq]
    constructor
    · rintro ⟨rfl, rfl⟩
      exact ⟨⟨sheet, p, ⟨rfl, rfl⟩, rfl⟩, rfl⟩
    · rintro ⟨⟨sheet', p', ⟨rfl, rfl⟩, hcell⟩, rfl⟩
      exact ⟨hcell.symm, rfl⟩

theorem mem_definedNameWrites {d : DefinedName} {w : Cell × Json} :
    w ∈ definedNameWrites o wb data (m.blocks.map BlockSpec.source) d ↔
      data.lookup d.name = some w.2 ∧ NameFills o wb m data d w.1 := by
  unfold definedNameWrites
  rcases hx : data.lookup d.name with _ | x
  · simp
  simp only [Option.some.injEq]
  split
  · rename_i hskip
    refine iff_of_false List.not_mem_nil fun h => h.2.free hskip
  · rename_i hskip
    simp only [List.mem_flatMap, List.mem_filter, mem_writeAt, Bool.not_eq_true']
    constructor
    · rintro ⟨dest, ⟨hdest, hrange⟩, hrefers, hw⟩
      exact ⟨hw.symm, by rw [hx]; rfl, hskip, dest, hdest, hrange, hrefers⟩
    · rintro ⟨hw, -, -, dest, hdest, hrange, hrefers⟩
      exact ⟨dest, ⟨hdest, hrange⟩, hrefers, hw.symm⟩

/-- A defined name writes the value of its key, to the cells that it fills. -/
theorem lastAt_definedNameWrites {d : DefinedName} {cell : Cell} {x : Json} :
    lastAt (definedNameWrites o wb data (m.blocks.map BlockSpec.source) d) cell = some x ↔
      data.lookup d.name = some x ∧ NameFills o wb m data d cell := by
  constructor
  · exact fun h => mem_definedNameWrites.mp (mem_of_lastAt h)
  · rintro ⟨hx, hfills⟩
    refine (lastAt_const fun w hw => ?_).mpr ⟨(cell, x), mem_definedNameWrites.mpr ⟨hx, hfills⟩, rfl⟩
    have hw := (mem_definedNameWrites.mp hw).1
    exact Option.some.inj (hw.symm.trans hx)

theorem definedNameWrites_none {d : DefinedName} {cell : Cell} :
    lastAt (definedNameWrites o wb data (m.blocks.map BlockSpec.source) d) cell = none ↔
      ¬ NameFills o wb m data d cell := by
  rw [lastAt_eq_none]
  constructor
  · intro h hfills
    obtain ⟨x, hx⟩ := Option.isSome_iff_exists.mp hfills.supplied
    exact h (cell, x) (mem_definedNameWrites.mpr ⟨hx, hfills⟩) rfl
  · rintro h w hw rfl
    exact h (mem_definedNameWrites.mp hw).2

/-- A block writes to the cells that it fills, and no empty string. -/
theorem mem_blockWrites {block : BlockSpec} {w : Cell × Json} (hw : w ∈ blockWrites o wb data block) :
    BandFills o wb data block w.1 ∧ w.2 ≠ .str "" := by
  unfold blockWrites at hw
  split at hw
  · rename_i sheet first rows hanchor hrows
    obtain ⟨⟨row, i⟩, hrow, hw⟩ := List.mem_flatMap.mp hw
    obtain ⟨⟨column, j⟩, hcolumn, rfl⟩ := List.mem_map.mp hw
    have hi := (List.getElem?_eq_some_iff.mp (List.mem_zipIdx_iff_getElem?.mp hrow)).1
    have hj := (List.getElem?_eq_some_iff.mp (List.mem_zipIdx_iff_getElem?.mp hcolumn)).1
    exact ⟨⟨sheet, first, rows, hanchor, hrows, i, hi, j, hj, rfl⟩, normalise_ne_empty _⟩
  · cases hw

theorem blockWrites_none {block : BlockSpec} {cell : Cell} :
    lastAt (blockWrites o wb data block) cell = none ↔ ¬ BandFills o wb data block cell := by
  rw [lastAt_eq_none]
  constructor
  · rintro h ⟨sheet, first, rows, hanchor, hrows, i, hi, j, hj, hcell⟩
    refine h (cell, cellOf rows[i] block.columns[j]) ?_ rfl
    rw [blockWrites, hanchor, hrows]
    refine List.mem_flatMap.mpr ⟨(rows[i], i), List.mem_zipIdx_iff_getElem?.mpr (List.getElem?_eq_getElem hi), ?_⟩
    refine List.mem_map.mpr
      ⟨(block.columns[j], j), List.mem_zipIdx_iff_getElem?.mpr (List.getElem?_eq_getElem hj), ?_⟩
    exact congrArg (·, cellOf rows[i] block.columns[j]) hcell
  · rintro h w hw rfl
    exact h (mem_blockWrites hw).1

theorem cellWrites_eq : cellWrites o wb ((data.lookup "cells").getD (.obj [])) =
    (explicitItems data).flatMap fun item => writeAt (cellRef o wb item.1) item.2 := by
  unfold cellWrites explicitItems
  cases dictItems ((data.lookup "cells").getD (.obj [])) <;> rfl

theorem writeAt_none {ref : Except Exc (Worksheet × Pos)} {x : Json} {cell : Cell} :
    lastAt (writeAt ref x) cell = none ↔ ¬ Refers ref cell := by
  rw [lastAt_eq_none]
  exact ⟨fun h hr => h (cell, x) (mem_writeAt.mpr ⟨hr, rfl⟩) rfl, fun h w hw hk => h (hk ▸ (mem_writeAt.mp hw).1)⟩

theorem lastAt_writeAt {ref : Except Exc (Worksheet × Pos)} {x y : Json} {cell : Cell} :
    lastAt (writeAt ref x) cell = some y ↔ Refers ref cell ∧ y = x := by
  constructor
  · exact fun h => mem_writeAt.mp (mem_of_lastAt h)
  · rintro ⟨hr, rfl⟩
    exact (lastAt_const fun w hw => (mem_writeAt.mp hw).2).mpr ⟨(cell, y), mem_writeAt.mpr ⟨hr, rfl⟩, rfl⟩

/-- The last write to a cell is an empty string where the data leave one. -/
theorem leftEmpty_iff {cell : Cell} :
    lastAt (fillWrites o wb m data) cell = some (.str "") ↔ LeftEmpty o wb m data cell := by
  have hitems : lastAt (cellWrites o wb ((data.lookup "cells").getD (.obj []))) cell = none ↔
      ∀ item ∈ explicitItems data, ¬ Refers (cellRef o wb item.1) cell := by
    simp only [cellWrites_eq, lastAt_flatMap_none, writeAt_none]
  have hblocks : lastAt (m.blocks.flatMap (blockWrites o wb data)) cell = none ↔
      ∀ block ∈ m.blocks, ¬ BandFills o wb data block cell := by
    simp only [lastAt_flatMap_none, blockWrites_none]
  rw [fillWrites, lastAt_append, lastAt_append, Option.or_eq_some_iff, Option.or_eq_some_iff, hitems, hblocks]
  constructor
  · rintro (hitem | ⟨hno, hblock | ⟨hnoBlock, hname⟩⟩)
    · rw [cellWrites_eq] at hitem
      obtain ⟨pre, ⟨ref, x⟩, post, hsplit, hwrite, hpost⟩ := lastAt_flatMap.mp hitem
      obtain ⟨hrefers, rfl⟩ := lastAt_writeAt.mp hwrite
      exact .item hsplit hrefers fun item hmem => writeAt_none.mp (hpost item hmem)
    · obtain ⟨block, -, hw⟩ := List.mem_flatMap.mp (mem_of_lastAt hblock)
      exact absurd rfl (mem_blockWrites hw).2
    · obtain ⟨pre, d, post, hsplit, hwrite, hpost⟩ := lastAt_flatMap.mp hname
      obtain ⟨hempty, hfills⟩ := lastAt_definedNameWrites.mp hwrite
      exact .name hsplit hempty hfills (fun d' hd' => definedNameWrites_none.mp (hpost d' hd')) hnoBlock hno
  · rintro (⟨hsplit, hempty, hfills, hnames, hnoBlock, hno⟩ | ⟨hsplit, hrefers, hlater⟩)
    · refine Or.inr ⟨hno, Or.inr ⟨hnoBlock, lastAt_flatMap.mpr ⟨_, _, _, hsplit, ?_, fun d' hd' => ?_⟩⟩⟩
      · exact lastAt_definedNameWrites.mpr ⟨hempty, hfills⟩
      · exact definedNameWrites_none.mpr (hnames d' hd')
    · rw [cellWrites_eq]
      refine Or.inl (lastAt_flatMap.mpr ⟨_, _, _, hsplit, ?_, fun item hmem => ?_⟩)
      · exact lastAt_writeAt.mpr ⟨hrefers, rfl⟩
      · exact writeAt_none.mpr (hlater item hmem)

/-! ### All empty strings blanked -/

instance (name : String) : Decidable (NameWritten wb m name) := inferInstanceAs (Decidable (_ ∧ _))

/-- A pair with its value blanked. -/
def blankPair : Json → Json
  | .arr [key, x] => .arr [key, normaliseValue x]
  | x => x

/-- The value of a key with all that can be blanked in it blanked, the rows of
blocks apart. -/
def blankTop (wb : Workbook) (m : Manifest) (key : String) : Json → Json
  | .str s => if s = "" ∧ NameWritten wb m key then .null else .str s
  | .obj fields => if key = "cells" then .obj (fields.map fun f => (f.1, normaliseValue f.2)) else .obj fields
  | .arr pairs => if key = "cells" then .arr (pairs.map blankPair) else .arr pairs
  | x => x

def blankAll (wb : Workbook) (m : Manifest) (data : JsonDict) : JsonDict :=
  data.map fun f => (f.1, blankTop wb m f.1 f.2)

theorem blanks_normalise (x : Json) : Blanks x (normaliseValue x) := by
  rcases normaliseValue_rule x with ⟨rfl, hx⟩ | ⟨-, hx⟩
  · exact hx ▸ .empty
  · rw [hx]
    exact .same x

theorem blanksPair_blankPair (x : Json) : BlanksPair x (blankPair x) := by
  unfold blankPair
  split
  · exact .pair _ (blanks_normalise _)
  · exact .same _

theorem blanked_blankAll (data : JsonDict) : Blanked wb m data (blankAll wb m data) := by
  refine List.forall₂_map_right_iff.mpr (List.forall₂_same.mpr fun f _ => ⟨rfl, ?_⟩)
  obtain ⟨key, x⟩ := f
  show BlanksTop wb m key x (blankTop wb m key x)
  unfold blankTop
  split
  · split
    · rename_i hname
      rw [hname.1]
      exact .name hname.2
    · exact .same key _
  · split
    · rename_i hkey
      rw [hkey]
      exact .cells (List.forall₂_map_right_iff.mpr (List.forall₂_same.mpr fun f _ => ⟨rfl, blanks_normalise f.2⟩))
    · exact .same key _
  · split
    · rename_i hkey
      rw [hkey]
      exact .pairs (List.forall₂_map_right_iff.mpr (List.forall₂_same.mpr fun x _ => blanksPair_blankPair x))
    · exact .same key _
  · exact .same key _

theorem lookup_blankAll (key : String) : ∀ data : JsonDict,
    (blankAll wb m data).lookup key = (data.lookup key).map (blankTop wb m key)
  | [] => rfl
  | (k, x) :: data => by
    show List.lookup key ((k, blankTop wb m k x) :: blankAll wb m data) = _
    rw [List.lookup_cons, List.lookup_cons]
    by_cases hk : (key == k) = true
    · rw [hk]
      obtain rfl := beq_iff_eq.mp hk
      rfl
    · rw [Bool.not_eq_true] at hk
      rw [hk]
      exact lookup_blankAll key data

theorem blankTop_ne_empty {key : String} (hkey : NameWritten wb m key) (x : Json) :
    blankTop wb m key x ≠ .str "" := by
  unfold blankTop
  split
  · split
    · exact nofun
    · rename_i s hs
      exact fun h => hs ⟨Json.str.inj h, hkey⟩
  · split <;> exact nofun
  · split <;> exact nofun
  · rename_i x hstr _ _
    exact fun h => hstr "" h

/-- The values of a dict are those of its pairs. -/
theorem dictPair_values {P : Json → Prop} {items u : JsonDict} {pair : Option (List Json) × ℕ}
    (hitems : ∀ item ∈ items, P item.2) (hpair : ∀ key x, pair.1 = some [key, x] → P x)
    (h : dictPair items pair = .ok u) : ∀ item ∈ u, P item.2 := by
  unfold dictPair at h
  split at h
  · cases h
  · rename_i key x hx
    have hP : P x := hpair _ _ hx
    cases h
    intro item hitem
    split at hitem
    · obtain ⟨item', hmem, rfl⟩ := List.mem_map.mp hitem
      split
      · exact hP
      · exact hitems item' hmem
    · rcases List.mem_append.mp hitem with hmem | hmem
      · exact hitems item hmem
      · rw [List.mem_singleton.mp hmem]
        exact hP
  · cases h
  · cases h

theorem dictPairs_values {P : Json → Prop} {xs : List Json} {items : JsonDict}
    (hxs : ∀ y ∈ xs, ∀ key x, y.iter? = some [key, x] → P x)
    (h : (xs.map Json.iter?).zipIdx.foldlM dictPair [] = .ok items) : ∀ item ∈ items, P item.2 := by
  have hloop : ∀ (pairs : List (Option (List Json) × ℕ)) (s u : JsonDict),
      (∀ pair ∈ pairs, ∀ key x, pair.1 = some [key, x] → P x) → (∀ item ∈ s, P item.2) →
      pairs.foldlM dictPair s = .ok u → ∀ item ∈ u, P item.2 := by
    intro pairs
    induction pairs with
    | nil =>
      rintro s u - hs hu
      cases hu
      exact hs
    | cons pair pairs ih =>
      intro s u hpairs hs hu
      obtain ⟨v, hv, hu⟩ := foldlM_cons_ok.mp hu
      have hv' := dictPair_values hs (hpairs pair List.mem_cons_self) hv
      exact ih v u (fun p hp => hpairs p (List.mem_cons_of_mem _ hp)) hv' hu
  refine hloop _ [] items (fun pair hpair key x hx => ?_) (List.forall_mem_nil _) h
  obtain ⟨y, hy, hiter⟩ := List.mem_map.mp (List.fst_mem_of_mem_zipIdx hpair)
  exact hxs y hy key x (hiter.trans hx)

/-- A pair that is no JSON object has no empty string left once blanked. -/
theorem blankPair_values {y key x : Json} (hy : ∀ fields, y ≠ .obj fields)
    (h : (blankPair y).iter? = some [key, x]) : x ≠ .str "" := by
  unfold blankPair at h
  split at h
  · rename_i key' x'
    obtain ⟨-, hx⟩ : key' = key ∧ normaliseValue x' = x := by simpa [Json.iter?] using h
    exact hx ▸ normalise_ne_empty x'
  · rename_i harr
    cases y with
    | arr xs =>
      cases h
      exact absurd rfl (harr key x)
    | obj fields => exact absurd rfl (hy fields)
    | str s =>
      -- the elements of a text are its characters
      have hmem : x ∈ s.toList.map fun c => Json.str (String.singleton c) := by
        rw [Option.some.inj h]
        simp
      obtain ⟨c, -, rfl⟩ := List.mem_map.mp hmem
      simp
    | _ => cases h

/-- With every pair of the explicit cells an array, blanking leaves no empty
string in them. -/
theorem blankAll_items
    (hpairs : ∀ pairs, data.lookup "cells" = some (.arr pairs) → ∀ fields, .obj fields ∉ pairs) :
    ∀ item ∈ explicitItems (blankAll wb m data), item.2 ≠ .str "" := by
  intro item hitem
  unfold explicitItems at hitem
  split at hitem
  · rename_i items hitems
    rw [lookup_blankAll] at hitems
    rcases hx : data.lookup "cells" with _ | x
    · rw [hx] at hitems
      cases hitems
      cases hitem
    rw [hx, Option.map_some, Option.getD_some] at hitems
    cases x with
    | obj fields =>
      cases hitems
      obtain ⟨f, -, rfl⟩ := List.mem_map.mp hitem
      exact normalise_ne_empty f.2
    | arr pairs =>
      refine dictPairs_values (P := (· ≠ .str "")) (fun y hy key x hiter => ?_) hitems item hitem
      obtain ⟨y, hmem, rfl⟩ := List.mem_map.mp hy
      exact blankPair_values (fun fields hf => hpairs pairs hx fields (hf ▸ hmem)) hiter
    | str s =>
      change dictItems (if s = "" ∧ NameWritten wb m "cells" then Json.null else .str s) = .ok items at hitems
      split at hitems
      · cases hitems
      · -- a character is no pair
        refine dictPairs_values (P := (· ≠ .str "")) (fun y hy key x hiter => ?_) hitems item hitem
        obtain ⟨c, -, rfl⟩ := List.mem_map.mp hy
        simp [Json.iter?] at hiter
    | _ => cases hitems
  · cases hitem

/-- No write of the data with all blanked is an empty string. -/
theorem fillWrites_blankAll
    (hpairs : ∀ pairs, data.lookup "cells" = some (.arr pairs) → ∀ fields, .obj fields ∉ pairs) :
    ∀ w ∈ fillWrites o wb m (blankAll wb m data), w.2 ≠ .str "" := by
  intro w hw
  rw [fillWrites, cellWrites_eq] at hw
  rcases List.mem_append.mp hw with hw | hw
  · rcases List.mem_append.mp hw with hw | hw
    · obtain ⟨d, hd, hw⟩ := List.mem_flatMap.mp hw
      obtain ⟨hx, hfills⟩ := mem_definedNameWrites.mp hw
      rw [lookup_blankAll] at hx
      obtain ⟨x, -, hx⟩ := Option.map_eq_some_iff.mp hx
      exact hx ▸ blankTop_ne_empty ⟨List.mem_map_of_mem hd, hfills.free⟩ x
    · obtain ⟨block, -, hw⟩ := List.mem_flatMap.mp hw
      exact (mem_blockWrites hw).2
  · obtain ⟨item, hitem, hw⟩ := List.mem_flatMap.mp hw
    exact (mem_writeAt.mp hw).2 ▸ blankAll_items hpairs item hitem

/-! ### The law -/

/-- Blanked data fill the same workbook. -/
def BlankedAlike (o : Openpyxl V) (wb : Workbook) (m : Manifest) (data : JsonDict) (g t : Grid V) : Prop :=
  ∀ data', Blanked wb m data data' → ∃ t', fill o wb m data' g = .ok t' ∧ t'.value = t.value

/-- Blanked data fill the same workbook, and no written cell is left with an
empty string. -/
def AbsencesAgree (o : Openpyxl V) (empty : V) (wb : Workbook) (m : Manifest) (data : JsonDict)
    (g t : Grid V) : Prop :=
  BlankedAlike o wb m data g t ∧ ∀ cell x, lastAt (fillWrites o wb m data) cell = some x → t.value cell ≠ empty

/-- Explicit cells that are `null` stop the fill. -/
theorem fill_null_cells (h : data.lookup "cells" = some .null) : fill o wb m data g ≠ .ok t := by
  intro ht
  obtain ⟨_, _, -, -, ht⟩ := fill_ok ht
  rw [h] at ht
  cases ht

/-- Explicit cells that a defined name writes are not blanked as a whole. -/
theorem BlankedAlike.cells (h : BlankedAlike o wb m data g t) :
    ¬ (data.lookup "cells" = some (.str "") ∧ NameWritten wb m "cells") := by
  rintro ⟨hcells, hname⟩
  obtain ⟨t', ht', -⟩ := h _ (blanked_blankAll data)
  refine fill_null_cells ?_ ht'
  rw [lookup_blankAll, hcells]
  exact congrArg some (if_pos ⟨rfl, hname⟩)

/-- A cell whose last write is an empty string holds one, and no other does. -/
theorem stored_empty (ho : StoresAbsence o empty) (h : fill o wb m data g = .ok t) {cell : Cell} {x : Json}
    (hx : lastAt (fillWrites o wb m data) cell = some x) : t.value cell = empty ↔ x = .str "" := by
  have hstored := ((fill_written h).value cell).1 x hx
  constructor
  · intro he
    rw [he] at hstored
    exact (ho.empty x).mp hstored
  · intro he
    rw [(ho.empty x).mpr he] at hstored
    exact (Except.ok.inj hstored).symm

/-- Where blanked data fill the same workbook, no last write is an empty
string: the same cell would hold another value with all blanked. -/
theorem BlankedAlike.covered (ho : StoresAbsence o empty) (h : fill o wb m data g = .ok t)
    (hpairs : ∀ pairs, data.lookup "cells" = some (.arr pairs) → ∀ fields, .obj fields ∉ pairs)
    (halike : BlankedAlike o wb m data g t) (cell : Cell) : ¬ LeftEmpty o wb m data cell := by
  intro hleft
  have hlast := leftEmpty_iff.mpr hleft
  obtain ⟨t', ht', hvalue⟩ := halike _ (blanked_blankAll data)
  obtain ⟨-, hwrites⟩ := fill_follows ho (blanked_blankAll data) halike.cells g t h
  rcases lastAt_forall₂ hwrites cell with ⟨hnone, -⟩ | ⟨x, x', -, hx', -⟩
  · rw [hlast] at hnone
    cases hnone
  · have hempty : t'.value cell = empty := by
      rw [hvalue]
      exact (stored_empty ho h hlast).mpr rfl
    exact fillWrites_blankAll hpairs _ (mem_of_lastAt hx') ((stored_empty ho ht' hx').mp hempty)

/-- Where every empty string is covered, blanked data fill the same workbook. -/
theorem EmptiesCovered.alike (ho : StoresAbsence o empty) (h : fill o wb m data g = .ok t)
    (hc : EmptiesCovered o wb m data) : BlankedAlike o wb m data g t := by
  intro data' hdata
  obtain ⟨hany, hwrites⟩ := fill_follows ho hdata hc.cells g t h
  obtain ⟨t', ht'⟩ := hany g
  refine ⟨t', ht', funext fun cell => ?_⟩
  obtain ⟨hsome, hnone⟩ := (fill_written h).value cell
  obtain ⟨hsome', hnone'⟩ := (fill_written ht').value cell
  rcases lastAt_forall₂ hwrites cell with ⟨hn, hn'⟩ | ⟨x, x', hx, hx', hxx⟩
  · rw [hnone hn, hnone' hn']
  · -- the last write is no empty string, so it is the same one
    have hne : x ≠ .str "" := fun he => hc.covered cell (leftEmpty_iff.mp (he ▸ hx))
    have hstored := hsome x hx
    have hstored' := hsome' x' hx'
    rw [hxx.eq_of_ne hne, hstored] at hstored'
    exact (Except.ok.inj hstored').symm

/-- **Null and the empty string.** A fill treats them as the same absence if
and only if every empty string that the data supply outside the blocks is
covered. With every pair of the explicit cells an array, that is so already if
blanked data fill the same workbook. -/
theorem empty_is_absent_iff (ho : StoresAbsence o empty) (h : fill o wb m data g = .ok t) :
    (AbsencesAgree o empty wb m data g t ↔ EmptiesCovered o wb m data) ∧
      ((∀ pairs, data.lookup "cells" = some (.arr pairs) → ∀ fields, .obj fields ∉ pairs) →
        (BlankedAlike o wb m data g t ↔ EmptiesCovered o wb m data)) := by
  refine ⟨⟨fun ⟨halike, hempty⟩ => ⟨fun cell hleft => ?_, halike.cells⟩, fun hc => ⟨hc.alike ho h, ?_⟩⟩,
    fun hpairs => ⟨fun halike => ⟨halike.covered ho h hpairs, halike.cells⟩, fun hc => hc.alike ho h⟩⟩
  · have hlast := leftEmpty_iff.mpr hleft
    exact hempty cell _ hlast ((stored_empty ho h hlast).mpr rfl)
  · intro cell x hx hcell
    exact hc.covered cell (leftEmpty_iff.mp ((stored_empty ho h hx).mp hcell ▸ hx))

end

theorem plain_stores_absence : StoresAbsence plainOpenpyxl (some "") where
  null := ⟨none, rfl⟩
  empty x := by
    cases x with
    | str s => simp [plainOpenpyxl]
    | _ => simp [plainOpenpyxl]
  dict fields := ⟨_, rfl⟩
  list xs := ⟨_, rfl⟩

/-- Empty strings on all three ways: the block covers the cell of the defined
name with one of its own, and an explicit cell is given twice. -/
def coveredData : JsonDict :=
  [("start", .str ""), ("rows", .arr [.obj [("first", .str ""), ("last", .str "Martin")]]),
    ("cells", .obj [("S!B1", .str ""), ("B1", .str "2026")])]

theorem covered_data : EmptiesCovered plainOpenpyxl (oneSheetBook "S") nameManifest coveredData where
  covered cell hleft := by
    have hwrites : fillWrites plainOpenpyxl (oneSheetBook "S") nameManifest coveredData =
        [(("S", (4, 1)), .str ""), (("S", (4, 1)), .null), (("S", (4, 2)), .str "Martin"),
          (("S", (1, 2)), .str ""), (("S", (1, 2)), .str "2026")] := rfl
    have hlast := leftEmpty_iff.mpr hleft
    simp only [hwrites, lastAt] at hlast
    split_ifs at hlast <;> simp_all
  cells h := nomatch h.1

theorem empty_is_absent_iff_name : ∃ t : Grid (Option String),
    fill plainOpenpyxl (oneSheetBook "S") nameManifest coveredData blankGrid = .ok t ∧
      t.value ("S", (4, 1)) = none ∧ t.value ("S", (1, 2)) = some "2026" ∧
      AbsencesAgree plainOpenpyxl (some "") (oneSheetBook "S") nameManifest coveredData blankGrid t := by
  obtain ⟨t, ht, hname, hcell⟩ : ∃ t, fill plainOpenpyxl (oneSheetBook "S") nameManifest coveredData blankGrid =
    .ok t ∧ t.value ("S", (4, 1)) = none ∧ t.value ("S", (1, 2)) = some "2026" := ⟨_, rfl, rfl, rfl⟩
  exact ⟨t, ht, hname, hcell, (empty_is_absent_iff plain_stores_absence ht).1.mpr covered_data⟩

/-- A defined name writes an empty string to its cell. -/
theorem empty_string_written : ¬ ∀ (V : Type) (o : Openpyxl V) (empty : V) (wb : Workbook)
    (m : Manifest) (data : JsonDict) (g t : Grid V), StoresAbsence o empty →
      fill o wb m data g = .ok t → AbsencesAgree o empty wb m data g t := by
  intro h
  obtain ⟨t, ht, hcell⟩ : ∃ t, fill plainOpenpyxl (oneSheetBook "S") nameManifest
      [("start", .str "")] blankGrid = .ok t ∧ t.value ("S", (4, 1)) = some "" := ⟨_, rfl, rfl⟩
  have hlast : lastAt (fillWrites plainOpenpyxl (oneSheetBook "S") nameManifest [("start", .str "")])
      ("S", (4, 1)) = some (.str "") := rfl
  exact (h _ _ _ _ _ _ _ t plain_stores_absence ht).2 _ _ hlast hcell

end DocGen
