/-
# Filling a form

`_resolve_values` of `adapters/renderers/pdf_form.py`: the manifest maps each
key of the data to a field of the form, or to the boxes that spell a value out
one character each. The loop writes field after field, and a field may be
written more than once; what it holds at the end is read off the last entry
and position that target it (`resolve_values_last`). What a field shows for a
value, and which values tick a button, are rules of their own (`FieldText`,
`Ticked`).
-/
import DocGen.Lib.Str
import DocGen.Lib.Writes
import DocGen.Models

namespace DocGen

/-! ### Texts of values -/

mutual

/-- `repr(x)`. -/
def Json.repr : Json → String
  | .null => "None"
  | .bool b => if b then "True" else "False"
  | .int n => toString n
  | .float repr _ => repr
  | .str s => pyRepr s
  | .arr xs => "[" ++ ", ".intercalate (Json.reprs xs) ++ "]"
  | .obj fields => "\x7b" ++ ", ".intercalate (Json.reprItems fields) ++ "\x7d"

def Json.reprs : List Json → List String
  | [] => []
  | x :: xs => x.repr :: Json.reprs xs

def Json.reprItems : List (String × Json) → List String
  | [] => []
  | (key, x) :: fields => (pyRepr key ++ ": " ++ x.repr) :: Json.reprItems fields

end

/-- `str(x)`. -/
def Json.pyStr : Json → String
  | .str s => s
  | x => x.repr

/-- `c.isspace()`. -/
def isSpace (c : Char) : Bool :=
  (9 ≤ c.toNat && c.toNat ≤ 13) || (28 ≤ c.toNat && c.toNat ≤ 32) || c.toNat = 0x85 ||
    c.toNat = 0xA0 || c.toNat = 0x1680 || (0x2000 ≤ c.toNat && c.toNat ≤ 0x200A) ||
    c.toNat = 0x2028 || c.toNat = 0x2029 || c.toNat = 0x202F || c.toNat = 0x205F || c.toNat = 0x3000

/-! ### The source -/

/-- What is read of a field of the form: `/FT` and `/_States_`. -/
structure AcroField where
  fieldType : Option String
  states : Option (List String)

/-- What the manifest maps a key to: one field, or the boxes of a comb. -/
inductive FieldTarget where
  | single (name : String)
  | comb (names : List String)

/-- `[target] if isinstance(target, str) else list(target)`. -/
def FieldTarget.names : FieldTarget → List String
  | .single name => [name]
  | .comb names => names

/-- `_is_checked`. The words are of ASCII letters, which no other character
becomes in lower case but the Kelvin sign, a `k`, and no word has one. -/
def isChecked : Json → Bool
  | .str s =>
    String.ofList (((s.toList.dropWhile isSpace).rdropWhile isSpace).map Char.toLower) ∈
      ["true", "yes", "oui", "on", "1", "x"]
  | value => value.truthy

/-- `_coerce`. -/
def coerce (field : AcroField) (value : Json) : String :=
  if field.fieldType = some "/Btn" then
    let states := (field.states.getD []).filter fun s => s ≠ "/Off"
    let onState := states.headD "/Yes"
    if isChecked value then onState else "/Off"
  else
    match value with
    | .null => ""
    | .bool b => if b then "Oui" else "Non"
    | value => value.pyStr

/-- `characters`: the text that a comb spells. -/
def combText : Json → String
  | .null => ""
  | value => value.pyStr

/-- The box of a comb at a position. -/
def box (characters : String) (position : ℕ) : String :=
  (characters.toList[position]?).elim "" String.singleton

/-- `values[name] = value`. -/
def setItem : List (String × String) → String → String → List (String × String)
  | [], name, value => [(name, value)]
  | item :: values, name, value =>
    if item.1 = name then (name, value) :: values else item :: setItem values name value

section

variable (mapping : List (String × FieldTarget)) (declared : List (String × AcroField))
  (data : JsonDict)

/-- One turn of the loop over the mapping. The subscript `declared[target]`
raises on a field that is not there. -/
def resolveEntry (values : List (String × String)) (entry : String × FieldTarget) :
    Except Exc (List (String × String)) :=
  match entry.2.names.find? fun fieldName => (declared.lookup fieldName).isNone with
  | some fieldName =>
    .error (.docGen ⟨.templateNotFoundError, "manifest maps " ++ pyRepr entry.1 ++
      " to AcroForm field " ++ pyRepr fieldName ++ ", which this PDF does not declare"⟩)
  | none =>
    match data.lookup entry.1 with
    | none => .ok values
    | some value =>
      match entry.2 with
      | .single target =>
        match declared.lookup target with
        | some field => .ok (setItem values target (coerce field value))
        | none => .error (.other "KeyError" target)
      | .comb names =>
        .ok (names.zipIdx.foldl (fun values item => setItem values item.1 (box (combText value) item.2))
          values)

/-- `_resolve_values`. -/
def resolveValues : Except Exc (List (String × String)) :=
  mapping.foldlM (resolveEntry declared data) []

end

/-! ### What a field shows -/

/-- The words that count as checked. -/
def tickedWords : List String := ["true", "yes", "oui", "on", "1", "x"]

/-- The values that count as checked: one of the words, in any case and with
any space around it, and whatever else is neither null nor empty nor zero. -/
inductive Ticked : Json → Prop
  | word {s : String} {pre w post : List Char} (hs : s.toList = pre ++ w ++ post)
      (hpre : ∀ c ∈ pre, isSpace c = true) (hpost : ∀ c ∈ post, isSpace c = true)
      (hw : String.ofList (w.map Char.toLower) ∈ tickedWords) : Ticked (.str s)
  | bool : Ticked (.bool true)
  | int {n : ℤ} (hn : n ≠ 0) : Ticked (.int n)
  | float {repr : String} : Ticked (.float repr false)
  | arr {xs : List Json} (hxs : xs ≠ []) : Ticked (.arr xs)
  | obj {fields : List (String × Json)} (hfields : fields ≠ []) : Ticked (.obj fields)

/-- The export state of a checked button: its first one that is not `/Off`, or
`/Yes` if it has none. -/
inductive OnState (states : List String) : String → Prop
  | first {pre post : List String} {state : String} (hsplit : states = pre ++ state :: post)
      (hpre : ∀ s ∈ pre, s = "/Off") (hstate : state ≠ "/Off") : OnState states state
  | none (hoff : ∀ s ∈ states, s = "/Off") : OnState states "/Yes"

/-- The text of a value. -/
inductive ValueText : Json → String → Prop
  | null : ValueText .null ""
  | str (s : String) : ValueText (.str s) s
  | other {value : Json} (hnull : value ≠ .null) (hstr : ∀ s, value ≠ .str s) : ValueText value value.repr

/-- What a field of its own shows for a value: a button its state, any other
field the text, with a word for each truth value. -/
inductive FieldText (field : AcroField) : Json → String → Prop
  | checked {value : Json} {state : String} (hbutton : field.fieldType = some "/Btn") (hvalue : Ticked value)
      (hstate : OnState (field.states.getD []) state) : FieldText field value state
  | unchecked {value : Json} (hbutton : field.fieldType = some "/Btn") (hvalue : ¬ Ticked value) :
      FieldText field value "/Off"
  | oui (hbutton : field.fieldType ≠ some "/Btn") : FieldText field (.bool true) "Oui"
  | non (hbutton : field.fieldType ≠ some "/Btn") : FieldText field (.bool false) "Non"
  | text {value : Json} {text : String} (hbutton : field.fieldType ≠ some "/Btn") (hbool : ∀ b, value ≠ .bool b)
      (htext : ValueText value text) : FieldText field value text

theorem isSpace_of_graphic {c : Char} (hlow : 33 ≤ c.toNat) (hhigh : c.toNat ≤ 126) : isSpace c = false := by
  simp only [isSpace, Bool.or_eq_false_iff, Bool.and_eq_false_iff, decide_eq_false_iff_not]
  omega

/-- The lower case is another letter for the letters from `A` to `Z` only. -/
theorem isSpace_toLower (c : Char) : isSpace c.toLower = isSpace c := by
  by_cases hc : c.val ≥ 'A'.val ∧ c.val ≤ 'Z'.val
  · have hlow : 65 ≤ c.toNat := hc.1
    have hhigh : c.toNat ≤ 90 := hc.2
    have hcode : c.toLower.toNat = c.toNat + 32 :=
      calc c.toLower.toNat
        _ = (c.val + ('a'.val - 'A'.val)).toNat := congrArg Char.toNat (dif_pos hc)
        _ = (c.toNat + 32) % 2 ^ 32 := UInt32.toNat_add _ _
        _ = c.toNat + 32 := Nat.mod_eq_of_lt (by omega)
    rw [isSpace_of_graphic (c := c) (by omega) (by omega)]
    exact isSpace_of_graphic (by omega) (by omega)
  · have hsame : c.toLower = c := dif_neg hc
    rw [hsame]

/-- No word holds a space, so neither does what becomes one in lower case. -/
theorem ticked_word {w : List Char} (hw : String.ofList (w.map Char.toLower) ∈ tickedWords) :
    w ≠ [] ∧ ∀ c ∈ w, isSpace c = false := by
  have hwords : ∀ s ∈ tickedWords, s.toList ≠ [] ∧ ∀ c ∈ s.toList, isSpace c = false := by
    simp [tickedWords, isSpace]
  obtain ⟨hne, hspace⟩ := hwords _ hw
  rw [String.toList_ofList] at hne hspace
  refine ⟨fun h => hne (by rw [h]; rfl), fun c hc => ?_⟩
  rw [← isSpace_toLower]
  exact hspace _ (List.mem_map_of_mem hc)

theorem isChecked_iff {value : Json} : isChecked value = true ↔ Ticked value := by
  cases value with
  | null => exact iff_of_false (by simp [isChecked, Json.truthy]) nofun
  | bool b =>
    cases b
    · exact iff_of_false (by simp [isChecked, Json.truthy]) nofun
    · exact iff_of_true rfl .bool
  | int n =>
    refine ⟨fun h => .int (by simpa [isChecked, Json.truthy] using h), fun h => ?_⟩
    cases h with
    | int hn => simp [isChecked, Json.truthy, hn]
  | float repr zero =>
    cases zero
    · exact iff_of_true rfl .float
    · exact iff_of_false (by simp [isChecked, Json.truthy]) nofun
  | arr xs =>
    refine ⟨fun h => .arr (by simpa [isChecked, Json.truthy] using h), fun h => ?_⟩
    cases h with
    | arr hxs => simp [isChecked, Json.truthy, hxs]
  | obj fields =>
    refine ⟨fun h => .obj (by simpa [isChecked, Json.truthy] using h), fun h => ?_⟩
    cases h with
    | obj hfields => simp [isChecked, Json.truthy, hfields]
  | str s =>
    rw [isChecked, decide_eq_true_eq]
    constructor
    · intro h
      obtain ⟨pre, post, hs, hpre, hpost⟩ := strip_surround isSpace s.toList
      exact .word hs hpre hpost h
    · rintro ⟨hs, hpre, hpost, hw⟩
      obtain ⟨hne, hspace⟩ := ticked_word hw
      rw [hs, strip_surrounded hne hspace hpre hpost]
      exact hw

/-- The first state that the filter keeps. -/
theorem onState_headD (states : List String) : OnState states ((states.filter (· ≠ "/Off")).headD "/Yes") := by
  rcases hf : states.filter (· ≠ "/Off") with _ | ⟨state, kept⟩
  · exact .none fun s hs => by simpa using List.filter_eq_nil_iff.mp hf s hs
  · obtain ⟨pre, post, rfl, hpre, hstate, -⟩ := List.filter_eq_cons_iff.mp hf
    exact .first rfl (fun s hs => by simpa using hpre s hs) (by simpa using hstate)

theorem valueText_pyStr {value : Json} (hnull : value ≠ .null) : ValueText value value.pyStr := by
  cases value with
  | null => exact absurd rfl hnull
  | str s => exact .str s
  | _ => exact .other nofun nofun

theorem valueText_combText (value : Json) : ValueText value (combText value) := by
  cases value with
  | null => exact .null
  | _ => exact valueText_pyStr nofun

/-- `_coerce` is the rule. -/
theorem fieldText_coerce (field : AcroField) (value : Json) : FieldText field value (coerce field value) := by
  by_cases hbutton : field.fieldType = some "/Btn"
  · unfold coerce
    rw [if_pos hbutton]
    by_cases hchecked : isChecked value = true
    · rw [if_pos hchecked]
      exact .checked hbutton (isChecked_iff.mp hchecked) (onState_headD _)
    · rw [if_neg hchecked]
      exact .unchecked hbutton fun h => hchecked (isChecked_iff.mpr h)
  · unfold coerce
    rw [if_neg hbutton]
    cases value with
    | null => exact .text hbutton nofun .null
    | bool b =>
      cases b
      · exact .non hbutton
      · exact .oui hbutton
    | _ => exact .text hbutton nofun (valueText_pyStr nofun)

/-! ### What a turn writes -/

theorem lookup_cons_of_ne {field key : String} (h : field ≠ key) (v : String)
    (values : List (String × String)) :
    List.lookup field ((key, v) :: values) = values.lookup field := by
  rw [List.lookup_cons, beq_eq_false_iff_ne.mpr h]

theorem lookup_setItem (name value field : String) : ∀ values : List (String × String),
    (setItem values name value).lookup field = if field = name then some value else values.lookup field
  | [] => by
    rw [setItem]
    by_cases hf : field = name
    · rw [if_pos hf, hf, List.lookup_cons_self]
    · rw [if_neg hf, lookup_cons_of_ne hf]
  | (key, v) :: values => by
    have ih := lookup_setItem name value field values
    rw [setItem]
    by_cases hk : key = name
    · rw [if_pos hk, hk]
      by_cases hf : field = name
      · rw [if_pos hf, hf, List.lookup_cons_self]
      · rw [if_neg hf, lookup_cons_of_ne hf, lookup_cons_of_ne hf]
    · rw [if_neg hk]
      by_cases hf : field = key
      · rw [hf, List.lookup_cons_self, List.lookup_cons_self, if_neg hk]
      · rw [lookup_cons_of_ne hf, lookup_cons_of_ne hf, ih]

/-- A dict as the map of its keys. -/
def view (values : List (String × String)) (field : String) : Option String := values.lookup field

theorem view_setItem (values : List (String × String)) (name value : String) :
    view (setItem values name value) = Function.update (view values) name (some value) := by
  funext field
  rw [view, lookup_setItem, Function.update_apply]
  rfl

/-- Each write puts a text. -/
abbrev Puts : (String → Option String) → List (String × String) → (String → Option String) → Prop :=
  Written fun text => (.ok (some text) : Except Exc (Option String))

theorem puts_boxes (text : String) : ∀ (items : List (String × ℕ)) (values : List (String × String)),
    Puts (view values) (items.map fun item => (item.1, box text item.2))
      (view (items.foldl (fun values item => setItem values item.1 (box text item.2)) values))
  | [], _ => .nil _
  | item :: items, values => by
    have h := puts_boxes text items (setItem values item.1 (box text item.2))
    rw [view_setItem] at h
    exact .cons rfl h

section

variable (declared : List (String × AcroField)) (data : JsonDict)

/-- The text that a target writes at a position. -/
def FieldTarget.text (value : Json) : FieldTarget → ℕ → String
  | .single name, _ => ((declared.lookup name).map fun field => coerce field value).getD ""
  | .comb _, position => box (combText value) position

/-- The fields that an entry writes, in their order, each with its text. -/
def entryWrites (entry : String × FieldTarget) : List (String × String) :=
  match data.lookup entry.1 with
  | none => []
  | some value =>
    entry.2.names.zipIdx.map fun item => (item.1, entry.2.text declared value item.2)

/-- A name that the form does not declare. -/
def Undeclared (entry : String × FieldTarget) : Prop :=
  ∃ name ∈ entry.2.names, declared.lookup name = none

variable {declared data}

/-- One turn: an undeclared name raises, whether or not the key is supplied;
without one the entry is written. -/
theorem resolve_entry (values : List (String × String)) (entry : String × FieldTarget) :
    (Undeclared declared entry ∧ ∃ message, resolveEntry declared data values entry =
        .error (.docGen ⟨.templateNotFoundError, message⟩)) ∨
      (¬ Undeclared declared entry ∧ ∃ u, resolveEntry declared data values entry = .ok u ∧
        Puts (view values) (entryWrites declared data entry) (view u)) := by
  obtain ⟨key, target⟩ := entry
  rcases hfind : target.names.find? (fun name => (declared.lookup name).isNone) with _ | name
  · have hdeclared : ¬ Undeclared declared (key, target) := by
      rintro ⟨name, hname, hnone⟩
      have := List.find?_eq_none.mp hfind name hname
      rw [hnone] at this
      exact this rfl
    refine Or.inr ⟨hdeclared, ?_⟩
    simp only [resolveEntry, hfind, entryWrites]
    rcases data.lookup key with _ | value
    · exact ⟨values, rfl, .nil _⟩
    rcases target with name | names
    · rcases hfield : declared.lookup name with _ | field
      · exact absurd ⟨name, List.mem_singleton_self name, hfield⟩ hdeclared
      · refine ⟨setItem values name (coerce field value), by simp only [hfield], ?_⟩
        have htext : (FieldTarget.single name).text declared value 0 = coerce field value := by
          rw [FieldTarget.text, hfield]
          rfl
        rw [view_setItem, ← htext]
        exact .single rfl
    · exact ⟨_, rfl, puts_boxes (combText value) names.zipIdx values⟩
  · have hsome : (declared.lookup name).isNone = true := by simpa using List.find?_some hfind
    have hnone : declared.lookup name = none := Option.isNone_iff_eq_none.mp hsome
    refine Or.inl ⟨⟨name, List.mem_of_find?_eq_some hfind, hnone⟩, ?_⟩
    simp only [resolveEntry, hfind]
    exact ⟨_, rfl⟩

/-- The loop raises exactly if some entry has an undeclared name. -/
theorem resolve_values_error {mapping : List (String × FieldTarget)} :
    ((∃ exc, resolveValues mapping declared data = .error exc) ↔
      ∃ entry ∈ mapping, Undeclared declared entry) ∧
    ∀ exc, resolveValues mapping declared data = .error exc →
      ∃ message, exc = .docGen ⟨.templateNotFoundError, message⟩ := by
  -- from any dict: the loop raises at an undeclared name, or it completes
  have hloop : ∀ (mapping : List (String × FieldTarget)) (values : List (String × String)),
      ((∃ entry ∈ mapping, Undeclared declared entry) ∧ ∃ message,
        mapping.foldlM (resolveEntry declared data) values =
          .error (.docGen ⟨.templateNotFoundError, message⟩)) ∨
      ((∀ entry ∈ mapping, ¬ Undeclared declared entry) ∧
        ∃ u, mapping.foldlM (resolveEntry declared data) values = .ok u) := by
    intro mapping
    induction mapping with
    | nil => exact fun values => Or.inr ⟨List.forall_mem_nil _, values, rfl⟩
    | cons entry mapping ih =>
      intro values
      rw [List.foldlM_cons]
      rcases resolve_entry values entry with ⟨hu, message, he⟩ | ⟨hd, u, he, -⟩
      · exact Or.inl ⟨⟨entry, List.mem_cons_self, hu⟩, message, by rw [he]; rfl⟩
      · rw [he]
        rcases ih u with ⟨⟨entry', hmem, hu⟩, hraise⟩ | ⟨hall, hdone⟩
        · exact Or.inl ⟨⟨entry', List.mem_cons_of_mem _ hmem, hu⟩, hraise⟩
        · exact Or.inr ⟨List.forall_mem_cons.mpr ⟨hd, hall⟩, hdone⟩
  rcases hloop mapping [] with ⟨hu, message, he⟩ | ⟨hall, u, hok⟩
  · have he' : resolveValues mapping declared data = _ := he
    refine ⟨iff_of_true ⟨_, he'⟩ hu, fun exc h => ⟨message, ?_⟩⟩
    rw [he'] at h
    exact (Except.error.inj h).symm
  · have hok' : resolveValues mapping declared data = _ := hok
    refine ⟨iff_of_false ?_ ?_, fun exc h => ?_⟩
    · rintro ⟨exc, h⟩
      rw [hok'] at h
      cases h
    · rintro ⟨entry, hmem, hu⟩
      exact hall entry hmem hu
    · rw [hok'] at h
      cases h

/-- A loop that completes has made the writes of its entries, one after the
other. -/
theorem puts_entries {mapping : List (String × FieldTarget)} {values : List (String × String)}
    (h : resolveValues mapping declared data = .ok values) :
    Puts (view []) (mapping.flatMap (entryWrites declared data)) (view values) := by
  refine Written.foldlM view (fun s entry u hu => ?_) h
  rcases resolve_entry s entry with ⟨-, message, he⟩ | ⟨-, u', he, hw⟩
  · rw [he] at hu
    cases hu
  · rw [he] at hu
    exact Except.ok.inj hu ▸ hw

/-! ### The last target of a field -/

/-- The entry has a key of the data and targets the field. -/
def Targets (data : JsonDict) (field : String) (entry : String × FieldTarget) : Prop :=
  (data.lookup entry.1).isSome ∧ field ∈ entry.2.names

/-- The last entry with a key of the data that targets the field, with its
value, and the last position at which it does. -/
structure LastTarget (mapping : List (String × FieldTarget)) (data : JsonDict) (field key : String)
    (target : FieldTarget) (value : Json) (position : ℕ) : Prop where
  entry : ∃ pre post, mapping = pre ++ (key, target) :: post ∧ ∀ entry ∈ post, ¬ Targets data field entry
  supplied : data.lookup key = some value
  targeted : target.names[position]? = some field
  last : ∀ j, position < j → target.names[j]? ≠ some field

variable {mapping : List (String × FieldTarget)} {values : List (String × String)} {field : String}

theorem exists_lastTarget : ∀ {mapping : List (String × FieldTarget)},
    (∃ entry ∈ mapping, Targets data field entry) →
      ∃ key target value position, LastTarget mapping data field key target value position
  | [], h => by
    obtain ⟨_, hmem, -⟩ := h
    cases hmem
  | (key, target) :: mapping, h => by
    by_cases htail : ∃ entry ∈ mapping, Targets data field entry
    · obtain ⟨k, t, value, position, ⟨pre, post, rfl, hpost⟩, hsupplied, htargeted, hlast⟩ :=
        exists_lastTarget htail
      exact ⟨k, t, value, position, ⟨(key, target) :: pre, post, rfl, hpost⟩, hsupplied, htargeted,
        hlast⟩
    · obtain ⟨entry, hmem, htargets⟩ := h
      rcases List.mem_cons.mp hmem with rfl | hmem
      · obtain ⟨value, hvalue⟩ := Option.isSome_iff_exists.mp htargets.1
        obtain ⟨position, hposition, hlast⟩ := exists_last_position htargets.2
        exact ⟨key, target, value, position,
          ⟨[], mapping, rfl, fun entry he ht => htail ⟨entry, he, ht⟩⟩, hvalue, hposition, hlast⟩
      · exact absurd ⟨entry, hmem, htargets⟩ htail

/-- Only a target is written. -/
theorem lastAt_of_not_targets (h : ∀ entry ∈ mapping, ¬ Targets data field entry) :
    lastAt (mapping.flatMap (entryWrites declared data)) field = none := by
  refine lastAt_eq_none.mpr fun w hw he => ?_
  obtain ⟨entry, hmem, hwrite⟩ := List.mem_flatMap.mp hw
  unfold entryWrites at hwrite
  split at hwrite
  · cases hwrite
  · rename_i value hvalue
    obtain ⟨item, hitem, rfl⟩ := List.mem_map.mp hwrite
    refine h entry hmem ⟨by rw [hvalue]; rfl, ?_⟩
    exact he ▸ List.fst_mem_of_mem_zipIdx hitem

theorem LastTarget.lastAt {key : String} {target : FieldTarget} {value : Json} {position : ℕ}
    (h : LastTarget mapping data field key target value position) :
    lastAt (mapping.flatMap (entryWrites declared data)) field =
      some (target.text declared value position) := by
  obtain ⟨⟨pre, post, rfl, hpost⟩, hvalue, hposition, hlast⟩ := h
  rw [List.flatMap_append, List.flatMap_cons, lastAt_append, lastAt_append,
    lastAt_of_not_targets hpost, Option.none_or]
  simp only [entryWrites, hvalue]
  rw [lastAt_zipIdx hposition hlast, Option.some_or]

/-- A completed loop leaves in a field what its last target writes, and
nothing in a field without one. -/
theorem lookup_resolved (h : resolveValues mapping declared data = .ok values) :
    (∀ key target value position, LastTarget mapping data field key target value position →
      values.lookup field = some (target.text declared value position)) ∧
    ((∀ entry ∈ mapping, ¬ Targets data field entry) → values.lookup field = none) := by
  obtain ⟨hwritten, hkept⟩ := (puts_entries h).value field
  refine ⟨fun key target value position hl => ?_, fun hno => hkept (lastAt_of_not_targets hno)⟩
  exact (Except.ok.inj (hwritten _ hl.lastAt)).symm

theorem isSome_resolved (h : resolveValues mapping declared data = .ok values) :
    (values.lookup field).isSome ↔ ∃ entry ∈ mapping, Targets data field entry := by
  constructor
  · intro hsome
    by_contra hno
    rw [(lookup_resolved h).2 fun entry hmem ht => hno ⟨entry, hmem, ht⟩] at hsome
    cases hsome
  · intro ht
    obtain ⟨key, target, value, position, hl⟩ := exists_lastTarget ht
    rw [(lookup_resolved h).1 _ _ _ _ hl]
    rfl

/-- The boxes of a comb, in their order, spell the beginning of the text. -/
theorem flatten_boxes (text : String) (n : ℕ) :
    (((List.range n).map (box text)).map String.toList).flatten = text.toList.take n := by
  induction n with
  | zero => simp
  | succ n ih =>
    have hbox : (box text n).toList = (text.toList[n]?).toList := by
      rw [box]
      cases text.toList[n]? <;> simp
    rw [List.range_succ, List.map_append, List.map_append, List.flatten_append, ih, List.take_add_one]
    simp [hbox]

/-- What the loop leaves in the fields of the form. -/
structure Resolved (mapping : List (String × FieldTarget)) (declared : List (String × AcroField))
    (data : JsonDict) (values : List (String × String)) : Prop where
  set_iff : ∀ field, (values.lookup field).isSome ↔ ∃ entry ∈ mapping, Targets data field entry
  exists_last : ∀ field, (values.lookup field).isSome →
    ∃ key target value position, LastTarget mapping data field key target value position
  single : ∀ field key name value position,
    LastTarget mapping data field key (.single name) value position →
      ∃ acro text, declared.lookup field = some acro ∧ FieldText acro value text ∧ values.lookup field = some text
  /-- A box shows the character at its position, and is empty past the last one. -/
  comb : ∀ field key names value position,
    LastTarget mapping data field key (.comb names) value position →
      ∃ text, ValueText value text ∧
        (∀ c, text.toList[position]? = some c → values.lookup field = some (String.singleton c)) ∧
        (text.toList.length ≤ position → values.lookup field = some "")
  /-- Boxes of their own spell the beginning of the text, and none is left out. -/
  spelled : ∀ pre key names post value, mapping = pre ++ (key, .comb names) :: post →
    data.lookup key = some value → names.Nodup →
    (∀ entry ∈ pre ++ post, ∀ name ∈ names, name ∉ entry.2.names) →
      ∃ (text : String) (boxes : List String), ValueText value text ∧
        (names.map fun name => values.lookup name) = boxes.map some ∧
        (boxes.map String.toList).flatten = text.toList.take names.length

theorem resolved_of_ok (h : resolveValues mapping declared data = .ok values) :
    Resolved mapping declared data values where
  set_iff field := isSome_resolved h
  exists_last field hsome := exists_lastTarget ((isSome_resolved h).mp hsome)
  single field key name value position hl := by
    have htext := (lookup_resolved h).1 _ _ _ _ hl
    obtain rfl : field = name := by
      have hmem := List.mem_of_getElem? hl.targeted
      exact List.mem_singleton.mp hmem
    rcases hfield : declared.lookup field with _ | acro
    · -- the loop would have raised
      obtain ⟨pre, post, hsplit, -⟩ := hl.entry
      have hmem : (key, FieldTarget.single field) ∈ mapping := hsplit ▸ by simp
      have hundeclared : Undeclared declared (key, .single field) :=
        ⟨field, List.mem_singleton_self field, hfield⟩
      obtain ⟨exc, he⟩ : ∃ exc, resolveValues mapping declared data = .error exc :=
        resolve_values_error.1.mpr ⟨_, hmem, hundeclared⟩
      rw [h] at he
      cases he
    · refine ⟨acro, _, rfl, fieldText_coerce acro value, ?_⟩
      rw [htext, FieldTarget.text, hfield]
      rfl
  comb field key names value position hl := by
    have hbox : values.lookup field = some (box (combText value) position) := (lookup_resolved h).1 _ _ _ _ hl
    refine ⟨_, valueText_combText value, fun c hc => ?_, fun hlen => ?_⟩
    · rw [hbox, box, hc]
      rfl
    · rw [hbox, box, List.getElem?_eq_none hlen]
      rfl
  spelled pre key names post value hsplit hvalue hnd hother := by
    have hbox : ∀ i name, names[i]? = some name →
        values.lookup name = some (box (combText value) i) := by
      intro i name hi
      refine (lookup_resolved h).1 key (.comb names) value i ⟨⟨pre, post, hsplit, ?_⟩, hvalue, hi, ?_⟩
      · intro entry he ht
        exact hother entry (List.mem_append_right pre he) name (List.mem_of_getElem? hi) ht.2
      · intro j hij hj
        have hlt := (List.getElem?_eq_some_iff.mp hi).1
        exact absurd ((List.getElem?_inj hlt hnd).mp (hi.trans hj.symm)) (Nat.ne_of_lt hij)
    refine ⟨_, (List.range names.length).map (box (combText value)), valueText_combText value, ?_,
      flatten_boxes _ _⟩
    refine List.ext_getElem? fun i => ?_
    rw [List.map_map, List.getElem?_map, List.getElem?_map]
    rcases Nat.lt_or_ge i names.length with hi | hi
    · rw [List.getElem?_eq_getElem hi, List.getElem?_range hi]
      exact congrArg some (hbox i names[i] (List.getElem?_eq_getElem hi))
    · rw [List.getElem?_eq_none hi, List.getElem?_eq_none (by simpa using hi)]
      rfl

end

/-- **The values of a form.** An undeclared name raises, whether or not its key
is supplied; without one, each field has the value of the last entry and
position that target it. -/
theorem resolve_values_last (mapping : List (String × FieldTarget))
    (declared : List (String × AcroField)) (data : JsonDict) :
    ((∃ exc, resolveValues mapping declared data = .error exc) ↔
      ∃ entry ∈ mapping, ∃ name ∈ entry.2.names, declared.lookup name = none) ∧
    (∀ exc, resolveValues mapping declared data = .error exc →
      ∃ message, exc = .docGen ⟨.templateNotFoundError, message⟩) ∧
    ∀ values, resolveValues mapping declared data = .ok values → Resolved mapping declared data values :=
  ⟨resolve_values_error.1, resolve_values_error.2, fun _ => resolved_of_ok⟩

/-- A form with a comb of three boxes, a checkbox and a field of text. -/
def combForm : List (String × AcroField) :=
  [("b1", ⟨some "/Tx", none⟩), ("b2", ⟨some "/Tx", none⟩), ("b3", ⟨some "/Tx", none⟩),
    ("ok", ⟨some "/Btn", some ["/Off", "/Oui"]⟩), ("vip", ⟨some "/Tx", none⟩)]

def combMapping : List (String × FieldTarget) :=
  [("code", .comb ["b1", "b2", "b3"]), ("agreed", .single "ok"), ("vip", .single "vip")]

/-- A code shorter than its boxes, and a checkbox ticked by a word. -/
def combData : JsonDict := [("code", .str "54"), ("agreed", .str " OUI "), ("vip", .bool false)]

theorem resolve_values_last_comb :
    resolveValues combMapping combForm combData =
      .ok [("b1", "5"), ("b2", "4"), ("b3", ""), ("ok", "/Oui"), ("vip", "Non")] ∧
    (∃ (text : String) (boxes : List String), ValueText (.str "54") text ∧
      [some "5", some "4", some ""] = boxes.map some ∧
      (boxes.map String.toList).flatten = text.toList.take 3) ∧
    FieldText ⟨some "/Btn", some ["/Off", "/Oui"]⟩ (.str " OUI ") "/Oui" := by
  have hok : resolveValues combMapping combForm combData =
      .ok [("b1", "5"), ("b2", "4"), ("b3", ""), ("ok", "/Oui"), ("vip", "Non")] := by rfl
  have hresolved := (resolve_values_last _ _ _).2.2 _ hok
  refine ⟨hok, ?_, ?_⟩
  · exact hresolved.spelled [] "code" ["b1", "b2", "b3"] _ (.str "54") rfl rfl (by decide) (by decide)
  · have hlast : LastTarget combMapping combData "ok" "agreed" (.single "ok") (.str " OUI ") 0 :=
      ⟨⟨[("code", .comb ["b1", "b2", "b3"])], _, rfl, by simp [Targets, FieldTarget.names]⟩, rfl, rfl, by
        rintro (_ | j) hj <;> simp [FieldTarget.names] at hj ⊢⟩
    obtain ⟨acro, text, hacro, htext, hvalue⟩ := hresolved.single _ _ _ _ _ hlast
    cases hacro
    cases hvalue
    exact htext

end DocGen
