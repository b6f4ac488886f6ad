/-
# Repacking an OOXML package

`normalise_ooxml_bytes` of `adapters/renderers/_ooxml.py`: each member of the
package once, in an order and with a date of its own, and the two times of
`docProps/core.xml` fixed. What the zip of the members is is a parameter.

The result depends on nothing but the names, the last content of each, and what
stands around the two times (`normalise_ooxml_deterministic`). It has all of
that and is its own result (`normalise_ooxml_canonical`).
-/
import Mathlib.Data.List.Dedup
import Mathlib.Data.List.Sort
import Mathlib.Data.String.Basic
import DocGen.Models
import DocGen.Lib.Regex
import DocGen.Lib.Writes

namespace DocGen

open Regex

/-! ### The source -/

/-- The bytes of an ASCII text. -/
def ascii (s : String) : Bytes := s.toList.map fun c => UInt8.ofNat c.toNat

/-- `date_time` of a `ZipInfo`: year, month, day, hour, minute, second. -/
structure ZipDate where
  year : ℕ
  month : ℕ
  day : ℕ
  hour : ℕ
  minute : ℕ
  second : ℕ

structure Member where
  name : String
  date : ZipDate
  content : Bytes

/-- The members of a zip, in its order. A name may repeat. -/
abbrev Package : Type := List Member

/-- `_FIXED_ZIP_DATE`. -/
def fixedZipDate : ZipDate := ⟨1980, 1, 1, 0, 0, 0⟩

/-- `_FIXED_ISO`. -/
def fixedIso : Bytes := ascii "2000-01-01T00:00:00Z"

def corePropsName : String := "docProps/core.xml"

def contentTypesName : String := "[Content_Types].xml"

/-- The pattern `(<dcterms:K[^>]*>)[^<]*(</dcterms:K>)`. -/
def dctermsRe (k : String) : List (Piece UInt8) :=
  [.lit (ascii ("<dcterms:" ++ k)), .many (· ≠ 62), .lit (ascii ">"), .many (· ≠ 60),
    .lit (ascii ("</dcterms:" ++ k ++ ">"))]

/-- `_CREATED_RE`. -/
def createdRe : List (Piece UInt8) := dctermsRe "created"

/-- `_MODIFIED_RE`. -/
def modifiedRe : List (Piece UInt8) := dctermsRe "modified"

/-- `rb"\g<1>" + _FIXED_ISO + rb"\g<2>"`, of the texts that the pieces match. -/
def fixTime : List Bytes → Bytes
  | [tag, attributes, close, _, closing] => (tag ++ attributes ++ close) ++ fixedIso ++ closing
  | texts => texts.flatten

/-- `core.xml` with its times fixed. -/
def fixTimes (data : Bytes) : Bytes := sub modifiedRe fixTime (sub createdRe fixTime data)

/-- `src.read(name)`: the content of the last member of that name. -/
def Package.read (src : Package) (name : String) : Option Bytes :=
  lastAt (src.map fun member => (member.name, member.content)) name

/-- The keys of the dict `members`. -/
def Package.names (src : Package) : List String := (src.map Member.name).dedup

/-- The members of the result, in its order. -/
def repack (src : Package) : Package :=
  let ordered := (if contentTypesName ∈ src.names then [contentTypesName] else []) ++
    (src.names.filter fun name => name ≠ contentTypesName).insertionSort (· ≤ ·)
  ordered.map fun name =>
    let data := (src.read name).getD []
    ⟨name, fixedZipDate, if name = corePropsName then fixTimes data else data⟩

/-- `normalise_ooxml_bytes`, where `write` makes the zip of the members. -/
def normaliseOoxmlBytes {ω : Type} (write : Package → ω) (src : Package) : ω := write (repack src)

/-! ### Times -/

/-- The two elements of `core.xml` that hold a time. -/
inductive TimeTag where
  | created
  | modified

namespace TimeTag

def createdTag : Tag (60 : UInt8) 62 where
  opening := ascii "dcterms:created"
  closing := ascii "/dcterms:created>"
  lt_ne_gt := by decide
  lt_opening := by decide
  gt_opening := by decide
  lt_closing := by decide
  clash := by decide

def modifiedTag : Tag (60 : UInt8) 62 where
  opening := ascii "dcterms:modified"
  closing := ascii "/dcterms:modified>"
  lt_ne_gt := by decide
  lt_opening := by decide
  gt_opening := by decide
  lt_closing := by decide
  clash := by decide

def tag : TimeTag → Tag (60 : UInt8) 62
  | created => createdTag
  | modified => modifiedTag

end TimeTag

open TimeTag

theorem createdRe_eq : createdRe = createdTag.element := rfl

theorem modifiedRe_eq : modifiedRe = modifiedTag.element := rfl

theorem fixTime_eq : fixTime = replaceText fixedIso := by
  funext texts
  rcases texts with _ | ⟨_, _ | ⟨_, _ | ⟨_, _ | ⟨_, _ | ⟨_, _ | _⟩⟩⟩⟩⟩ <;> rfl

/-- A time in `core.xml` is fixed, whatever stands around it. -/
theorem fixTimes_write (k : TimeTag) {a t : Bytes} (ha : 62 ∉ a) (ht : 60 ∉ t) (b rest : Bytes) :
    fixTimes (b ++ k.tag.write a t rest) = fixTimes b ++ k.tag.write a fixedIso (fixTimes rest) := by
  have hiso : (60 : UInt8) ∉ fixedIso := by decide
  simp only [fixTimes, createdRe_eq, modifiedRe_eq, fixTime_eq]
  cases k with
  | created =>
    rw [tag, sub_element ha ht, sub_other (by decide) (by decide) (by decide) ha hiso]
  | modified =>
    rw [tag, sub_other (by decide) (by decide) (by decide) ha ht, sub_element ha ht]

/-- Contents that differ only in the texts of times. -/
inductive SameButTimes : Bytes → Bytes → Prop
  | same (b : Bytes) : SameButTimes b b
  | time (b : Bytes) (k : TimeTag) {a t t' rest rest' : Bytes} (ha : 62 ∉ a) (ht : 60 ∉ t)
      (ht' : 60 ∉ t') (h : SameButTimes rest rest') :
      SameButTimes (b ++ k.tag.write a t rest) (b ++ k.tag.write a t' rest')

theorem SameButTimes.fixTimes_eq {s s' : Bytes} (h : SameButTimes s s') : fixTimes s = fixTimes s' := by
  induction h with
  | same => rfl
  | time b k ha ht ht' _ ih => rw [fixTimes_write k ha ht, fixTimes_write k ha ht', ih]

theorem SameButTimes.prepend (u : Bytes) {s s' : Bytes} (h : SameButTimes s s') :
    SameButTimes (u ++ s) (u ++ s') := by
  cases h with
  | same => exact .same _
  | time b k ha ht ht' h =>
    rw [← List.append_assoc, ← List.append_assoc]
    exact .time (u ++ b) k ha ht ht' h

theorem SameButTimes.append {u u' s s' : Bytes} (hu : SameButTimes u u') (hs : SameButTimes s s') :
    SameButTimes (u ++ s) (u' ++ s') := by
  induction hu with
  | same b => exact hs.prepend b
  | @time b k a t t' rest rest' ha ht ht' _ ih =>
    have hwrite : ∀ t rest s : Bytes, k.tag.write a t rest ++ s = k.tag.write a t (rest ++ s) := by
      simp [Tag.write]
    rw [List.append_assoc, List.append_assoc, hwrite, hwrite]
    exact .time b k ha ht ht' ih

/-- Fixing the times changes nothing but the texts of times: each element of
either kind is fixed in its place, and without one nothing changes. -/
theorem sameButTimes_fixTimes (b : Bytes) : SameButTimes b (fixTimes b) := by
  induction hn : b.length using Nat.strong_induction_on generalizing b with
  | _ n ih =>
  subst hn
  by_cases helem : ∃ (k : TimeTag) (u a t rest : Bytes),
      62 ∉ a ∧ 60 ∉ t ∧ b = u ++ k.tag.write a t rest
  · obtain ⟨k, u, a, t, rest, ha, ht, rfl⟩ := helem
    have hiso : (60 : UInt8) ∉ fixedIso := by decide
    have hlen : u.length < (u ++ k.tag.write a t rest).length ∧
        rest.length < (u ++ k.tag.write a t rest).length := by
      simp only [Tag.write, List.length_append, List.length_cons]
      omega
    rw [fixTimes_write k ha ht]
    have helem' : SameButTimes (k.tag.write a t rest) (k.tag.write a fixedIso (fixTimes rest)) :=
      .time [] k ha ht hiso (ih rest.length hlen.2 rest rfl)
    exact (ih u.length hlen.1 u rfl).append helem'
  · have hnone : ∀ k : TimeTag, sub k.tag.element (replaceText fixedIso) b = b := fun k =>
      sub_of_no_element fun u a t rest ha ht hb => helem ⟨k, u, a, t, rest, ha, ht, hb⟩
    rw [fixTimes, createdRe_eq, modifiedRe_eq, fixTime_eq]
    rw [show sub createdTag.element (replaceText fixedIso) b = b from hnone created,
      show sub modifiedTag.element (replaceText fixedIso) b = b from hnone modified]
    exact .same b

/-- Times that are fixed stay so. -/
theorem fixTimes_fixTimes (b : Bytes) : fixTimes (fixTimes b) = fixTimes b :=
  (sameButTimes_fixTimes b).fixTimes_eq.symm

/-! ### Packages -/

/-- Packages with the same names and, but for the times, the same contents. -/
structure SamePackage (src src' : Package) : Prop where
  names : ∀ name, name ∈ src.map Member.name ↔ name ∈ src'.map Member.name
  content : ∀ name, name ≠ corePropsName → src.read name = src'.read name
  core : ∀ b b', src.read corePropsName = some b → src'.read corePropsName = some b' → SameButTimes b b'

theorem read_isSome {src : Package} {name : String} (h : name ∈ src.map Member.name) :
    ∃ b, src.read name = some b := by
  rcases hr : src.read name with _ | b
  · obtain ⟨member, hm, rfl⟩ := List.mem_map.mp h
    exact absurd rfl (lastAt_eq_none.mp hr _ (List.mem_map_of_mem hm))
  · exact ⟨b, rfl⟩

/-- A sorted list is given by its elements. -/
theorem insertionSort_eq {l l' : List String} (h : l.Perm l') :
    l.insertionSort (· ≤ ·) = l'.insertionSort (· ≤ ·) :=
  List.Perm.eq_of_pairwise' (List.pairwise_insertionSort (· ≤ ·) l) (List.pairwise_insertionSort (· ≤ ·) l')
    ((List.perm_insertionSort _ l).trans (h.trans (List.perm_insertionSort _ l').symm))

/-- The members of the result are given by the names and their contents. -/
theorem repack_congr {src src' : Package} (hnames : ∀ name, name ∈ src.names ↔ name ∈ src'.names)
    (hcontent : ∀ name ∈ src.names,
      (if name = corePropsName then fixTimes ((src.read name).getD []) else (src.read name).getD []) =
        if name = corePropsName then fixTimes ((src'.read name).getD []) else (src'.read name).getD []) :
    repack src = repack src' := by
  have hperm : (src.names.filter fun name => name ≠ contentTypesName).Perm
      (src'.names.filter fun name => name ≠ contentTypesName) :=
    ((List.perm_ext_iff_of_nodup (List.nodup_dedup _) (List.nodup_dedup _)).mpr hnames).filter _
  unfold repack
  simp only [insertionSort_eq hperm, hnames contentTypesName]
  refine List.map_congr_left fun name hname => ?_
  have hmem : name ∈ src.names := by
    rw [hnames]
    rcases List.mem_append.mp hname with h | h
    · split at h
      · rename_i hct
        rw [List.mem_singleton.mp h]
        exact hct
      · cases h
    · exact (List.mem_filter.mp ((List.perm_insertionSort _ _).subset h)).1
  rw [hcontent name hmem]

/-- Packages that differ but in the order, the dates and the times repack to
the same. -/
theorem SamePackage.repack_eq {src src' : Package} (h : SamePackage src src') : repack src = repack src' := by
  have hnames : ∀ name, name ∈ src.names ↔ name ∈ src'.names := fun name => by
    rw [Package.names, Package.names, List.mem_dedup, List.mem_dedup, h.names]
  refine repack_congr hnames fun name hname => ?_
  split
  · rename_i hcore
    rw [hcore] at hname ⊢
    obtain ⟨b, hb⟩ := read_isSome (List.mem_dedup.mp hname)
    obtain ⟨b', hb'⟩ := read_isSome (List.mem_dedup.mp ((hnames _).mp hname))
    rw [hb, hb']
    exact (h.core b b' hb hb').fixTimes_eq
  · rename_i hcore
    rw [h.content name hcore]

/-- **Repacking is deterministic.** Packages with the same names and, but for
the times of `core.xml`, the same contents give the same bytes, whatever the
order of their members and the dates. -/
theorem normalise_ooxml_deterministic {ω : Type} (write : Package → ω) {src src' : Package}
    (h : SamePackage src src') : normaliseOoxmlBytes write src = normaliseOoxmlBytes write src' :=
  congrArg write h.repack_eq

/-- A `core.xml` of one created time. -/
def createdCore (time : Bytes) : Bytes :=
  ascii "<cp>" ++ created.tag.write (ascii " a=\"b\"") time (ascii "</cp>")

/-- A package of one part and a `core.xml`, and the same in another order, made
at another time. -/
theorem normalise_ooxml_deterministic_two :
    normaliseOoxmlBytes id [⟨"word/document.xml", ⟨2025, 1, 1, 8, 0, 0⟩, [1]⟩,
        ⟨corePropsName, ⟨2025, 1, 1, 8, 0, 0⟩, createdCore (ascii "2025-01-01")⟩] =
      normaliseOoxmlBytes id [⟨corePropsName, ⟨2026, 2, 2, 9, 0, 0⟩, createdCore (ascii "2026-02-02")⟩,
        ⟨"word/document.xml", ⟨2026, 2, 2, 9, 0, 0⟩, [1]⟩] := by
  refine normalise_ooxml_deterministic id ⟨fun name => ?_, fun name hname => ?_, fun b b' hb hb' => ?_⟩
  · simp [or_comm]
  · simp [Package.read, lastAt, hname.symm]
  · have hcore : b = createdCore (ascii "2025-01-01") := by simpa [Package.read, lastAt] using hb.symm
    have hcore' : b' = createdCore (ascii "2026-02-02") := by
      simpa [Package.read, lastAt, corePropsName] using hb'.symm
    rw [hcore, hcore']
    exact .time _ created (by decide) (by decide) (by decide) (.same _)

/-! ### The form of a repacked package -/

/-- The names of the result, in its order. -/
def Package.ordered (src : Package) : List String :=
  (if contentTypesName ∈ src.names then [contentTypesName] else []) ++
    (src.names.filter fun name => name ≠ contentTypesName).insertionSort (· ≤ ·)

/-- The member of the result with a name. -/
def Package.member (src : Package) (name : String) : Member :=
  ⟨name, fixedZipDate, if name = corePropsName then fixTimes ((src.read name).getD []) else
    (src.read name).getD []⟩

theorem repack_eq (src : Package) : repack src = src.ordered.map src.member := rfl

theorem names_repack (src : Package) : (repack src).map Member.name = src.ordered := by
  rw [repack_eq, List.map_map]
  exact List.map_id src.ordered

theorem mem_sorted {src : Package} {name : String} :
    name ∈ (src.names.filter fun name => name ≠ contentTypesName).insertionSort (· ≤ ·) ↔
      name ∈ src.map Member.name ∧ name ≠ contentTypesName := by
  rw [(List.perm_insertionSort _ _).mem_iff, List.mem_filter, Package.names, List.mem_dedup,
    decide_eq_true_iff]

theorem mem_ordered {src : Package} {name : String} :
    name ∈ src.ordered ↔ name ∈ src.map Member.name := by
  rw [Package.ordered, List.mem_append, mem_sorted]
  by_cases hct : contentTypesName ∈ src.names
  · rw [if_pos hct, List.mem_singleton]
    refine ⟨?_, fun h => (eq_or_ne name contentTypesName).imp id fun hne => ⟨h, hne⟩⟩
    rintro (rfl | h)
    · exact List.mem_dedup.mp hct
    · exact h.1
  · rw [if_neg hct]
    refine ⟨fun h => h.elim (absurd · List.not_mem_nil) And.left, fun h => Or.inr ⟨h, ?_⟩⟩
    rintro rfl
    exact hct (List.mem_dedup.mpr h)

theorem ordered_nodup (src : Package) : src.ordered.Nodup := by
  have hsorted : ((src.names.filter fun name => name ≠ contentTypesName).insertionSort (· ≤ ·)).Nodup :=
    (List.perm_insertionSort _ _).nodup_iff.mpr ((List.nodup_dedup _).filter _)
  refine List.nodup_append.mpr ⟨?_, hsorted, fun a ha b hb hab => ?_⟩
  · split
    · exact List.nodup_singleton _
    · exact List.nodup_nil
  · split at ha
    · exact (mem_sorted.mp hb).2 (hab ▸ List.mem_singleton.mp ha)
    · cases ha

/-- What a name holds afterwards. -/
theorem read_repack (src : Package) (name : String) : (repack src).read name =
    (src.read name).map fun data => if name = corePropsName then fixTimes data else data := by
  have hkeys : (repack src).map (fun member => (member.name, member.content)) =
      src.ordered.map fun name => (name, (src.member name).content) := by
    rw [repack_eq, List.map_map]
    rfl
  rw [Package.read, hkeys, lastAt_map_key fun name => (src.member name).content]
  by_cases hmem : name ∈ src.map Member.name
  · obtain ⟨data, hdata⟩ := read_isSome hmem
    rw [if_pos (mem_ordered.mpr hmem), Package.member, hdata]
    rfl
  · have hnone : src.read name = none := by
      refine lastAt_eq_none.mpr (List.forall_mem_map.mpr fun member hm he => hmem ?_)
      exact he ▸ List.mem_map_of_mem hm
    rw [if_neg fun h => hmem (mem_ordered.mp h), hnone]
    rfl

/-- Repacking again changes nothing. -/
theorem repack_repack (src : Package) : repack (repack src) = repack src := by
  have hnames : ∀ name, name ∈ (repack src).names ↔ name ∈ src.names := fun name => by
    rw [Package.names, Package.names, List.mem_dedup, List.mem_dedup, names_repack, mem_ordered]
  refine repack_congr hnames fun name hname => ?_
  obtain ⟨data, hdata⟩ := read_isSome (List.mem_dedup.mp ((hnames name).mp hname))
  rw [read_repack, hdata]
  split
  · simp [fixTimes_fixTimes]
  · simp

/-- The package `out` is the package `src` in canonical form. -/
structure Canonical (src out : Package) : Prop where
  nodup : (out.map Member.name).Nodup
  names : ∀ name, name ∈ out.map Member.name ↔ name ∈ src.map Member.name
  order : ∃ rest, out.map Member.name =
    (if contentTypesName ∈ src.map Member.name then [contentTypesName] else []) ++ rest ∧
      contentTypesName ∉ rest ∧ rest.Pairwise (· ≤ ·)
  dates : ∀ member ∈ out, member.date = fixedZipDate
  content : ∀ name, name ≠ corePropsName → out.read name = src.read name
  /-- `core.xml` changes in the texts of times only. -/
  core : ∀ data, src.read corePropsName = some data →
    ∃ data', out.read corePropsName = some data' ∧ SameButTimes data data'

theorem repack_canonical (src : Package) : Canonical src (repack src) where
  nodup := names_repack src ▸ ordered_nodup src
  names name := by rw [names_repack, mem_ordered]
  order := by
    have hct : contentTypesName ∈ src.map Member.name ↔ contentTypesName ∈ src.names :=
      List.mem_dedup.symm
    refine ⟨(src.names.filter fun name => name ≠ contentTypesName).insertionSort (· ≤ ·), ?_,
      fun h => (mem_sorted.mp h).2 rfl, List.pairwise_insertionSort (· ≤ ·) _⟩
    rw [names_repack, Package.ordered]
    simp only [hct]
  dates := by
    rw [repack_eq]
    exact List.forall_mem_map.mpr fun _ _ => rfl
  content name hne := by
    rw [read_repack]
    simp [hne]
  core data hdata := by
    refine ⟨fixTimes data, ?_, sameButTimes_fixTimes data⟩
    rw [read_repack, hdata]
    rfl

/-- **Repacking is a canonical form.** It loses nothing but the dates and the
texts of times, and repacking what is repacked gives the same bytes. `zipRead`
reads the members of the zip that `write` made of them. -/
theorem normalise_ooxml_canonical {ω : Type} (write : Package → ω) (zipRead : ω → Package)
    (src : Package) (hread : zipRead (write (repack src)) = repack src) :
    Canonical src (zipRead (normaliseOoxmlBytes write src)) ∧
      normaliseOoxmlBytes write (zipRead (normaliseOoxmlBytes write src)) =
        normaliseOoxmlBytes write src := by
  rw [normaliseOoxmlBytes, hread, normaliseOoxmlBytes, repack_repack]
  exact ⟨repack_canonical src, rfl⟩

/-- A package out of order, with the document in it twice. -/
def editedPackage : Package :=
  [⟨"word/document.xml", ⟨2025, 1, 1, 8, 0, 0⟩, [1]⟩,
    ⟨corePropsName, ⟨2025, 1, 1, 8, 0, 2⟩, createdCore (ascii "2025-01-01")⟩,
    ⟨contentTypesName, ⟨2025, 1, 1, 8, 0, 4⟩, [2]⟩,
    ⟨"word/document.xml", ⟨2025, 1, 1, 8, 0, 6⟩, [3]⟩]

/-- A zip that is the list of its members. -/
theorem normalise_ooxml_canonical_list :
    (normaliseOoxmlBytes id editedPackage).map Member.name =
        [contentTypesName, corePropsName, "word/document.xml"] ∧
      (normaliseOoxmlBytes id editedPackage).read "word/document.xml" = some [3] ∧
      Canonical editedPackage (normaliseOoxmlBytes id editedPackage) ∧
      normaliseOoxmlBytes id (normaliseOoxmlBytes id editedPackage) = normaliseOoxmlBytes id editedPackage :=
  ⟨by decide, by decide, normalise_ooxml_canonical id id editedPackage rfl⟩

end DocGen
