/-
# The template cache and the bucket behind it

The bucket is immutable. It may have any keys (`AnyBucket`); those of a
`CacheWorld` are well formed: no segment is empty, `.` or `..`, but a key may
end with a slash (a directory placeholder). A listing or a get may raise, if
`faults` are allowed, and otherwise answers what the bucket holds. The calls on
the file system act on a tree, with no limit on names. `mkdtemp` chooses any
name that is free, of a kind of its own (`isTemp`).

Below the cache root a path is that of an object in the bucket: the object
with the segments `p` belongs at `cacheDir ++ p`.
-/
import DocGen.CacheDir
import DocGen.Lib.Coop
import DocGen.Lib.Lists

namespace DocGen

open Prog DocGen.Path

/-! ### Well-formed keys and prefixes -/

/-- The key of an object. -/
def WfObject (key : String) : Prop := ∀ seg ∈ split '/' key, Proper seg

instance (key : String) : Decidable (WfObject key) :=
  inferInstanceAs (Decidable (∀ seg ∈ split '/' key, Proper seg))

/-- A prefix with these segments, or a placeholder. -/
structure WfDir (text : String) (segs : FilePath) : Prop where
  ne : segs ≠ []
  proper : ∀ seg ∈ segs, Proper seg
  split_eq : split '/' text = segs ++ [""]

/-- A key of the bucket. -/
def WfKey (key : String) : Prop := WfObject key ∨ ∃ segs, WfDir key segs

theorem not_proper_empty : ¬ Proper "" := fun h => h.1 rfl

/-- The segments of a key below a prefix. -/
theorem WfDir.split_append {x : String} {segs : FilePath} (h : WfDir x segs) {key : String}
    {r : List Char} (hk : key.toList = x.toList ++ r) :
    split '/' key = segs ++ split '/' (String.ofList r) := by
  obtain ⟨l, hl, rfl⟩ := (split_concat_empty h.ne).mp h.split_eq
  rw [hl, List.append_assoc, List.singleton_append] at hk
  exact DocGen.split_append hk

theorem relKey_eq {x key : String} {r : List Char} (hk : key.toList = x.toList ++ r) :
    relKey x key = String.ofList r := by
  rw [relKey, hk, ← String.length_toList, List.drop_left]

/-- A placeholder ends with a slash. -/
theorem WfDir.ends {x : String} {segs : FilePath} (h : WfDir x segs) :
    x.toList.getLast? = some '/' := by
  obtain ⟨l, hl, -⟩ := (split_concat_empty h.ne).mp h.split_eq
  rw [hl, List.getLast?_concat]

/-- An object's key does not. -/
theorem WfObject.not_ends {key : String} (h : WfObject key) : key.toList.getLast? ≠ some '/' := by
  intro hl
  obtain ⟨l, hl'⟩ := List.getLast?_eq_some_iff.mp hl
  have hs := DocGen.split_append (c := '/') (r := []) hl'
  refine not_proper_empty (h "" ?_)
  rw [hs, String.ofList_nil, split_empty]
  simp

/-- What the download loop makes of a key below a prefix: it skips a
placeholder, and an object goes where its segments say. -/
theorem relKey_skip {x key : String} {segs : FilePath} (hx : WfDir x segs) (hkey : WfKey key)
    (hpre : x.toList <+: key.toList) :
    (relKey x key = "" ∨ key.toList.getLast? = some '/') ↔ ¬ WfObject key := by
  obtain ⟨r, hr⟩ := hpre
  rw [relKey_eq hr.symm]
  constructor
  · intro h hobj
    rcases h with h | h
    · have hsplit := hx.split_append hr.symm
      rw [h, split_empty] at hsplit
      exact not_proper_empty (hobj "" (by rw [hsplit]; simp))
    · exact hobj.not_ends h
  · intro h
    obtain ⟨ks, hks⟩ := hkey.resolve_left h
    exact Or.inr hks.ends

theorem WfObject.rel {x key : String} {segs : FilePath} (hx : WfDir x segs) (hkey : WfObject key)
    (hpre : x.toList <+: key.toList) :
    ∃ p, p ≠ [] ∧ (NulFree p ↔ nul ∉ (relKey x key).toList) ∧ split '/' key = segs ++ p ∧
      ∀ dir, join dir (relKey x key) = dir ++ p := by
  obtain ⟨r, hr⟩ := hpre
  have hsplit := hx.split_append hr.symm
  have hp : ∀ seg ∈ split '/' (String.ofList r), Proper seg := fun seg hs =>
    hkey seg (by rw [hsplit]; exact List.mem_append_right _ hs)
  refine ⟨split '/' (String.ofList r), ?_, ?_, hsplit, fun dir => ?_⟩
  · rw [split, Ne, List.map_eq_nil_iff]
    exact List.splitOn_ne_nil _ _
  · rw [relKey_eq hr.symm, nulFree_split]
  · have hhead : (String.ofList r).toList.head? ≠ some '/' := by
      intro hh
      rw [String.toList_ofList] at hh
      obtain ⟨r', rfl⟩ := List.head?_eq_some_iff.mp hh
      have hs := DocGen.split_append (s := String.ofList ('/' :: r')) (c := '/') (l := []) (r := r')
        String.toList_ofList
      rw [String.ofList_nil, split_empty] at hs
      exact not_proper_empty (hp "" (by rw [hs]; simp))
    rw [relKey_eq hr.symm, join, if_neg hhead, walk_proper dir hp]

/-- Where a well-formed prefix leads to from the cache root. -/
theorem WfDir.join_eq {x : String} {segs : FilePath} (h : WfDir x segs) (dir : FilePath) :
    join dir x = dir ++ segs := by
  have hhead : x.toList.head? ≠ some '/' := by
    intro hh
    obtain ⟨r, hr⟩ := List.head?_eq_some_iff.mp hh
    have hs := DocGen.split_append (c := '/') (l := []) hr
    rw [h.split_eq, String.ofList_nil, split_empty, List.singleton_append] at hs
    obtain ⟨seg, segs', rfl⟩ := List.exists_cons_of_ne_nil h.ne
    obtain ⟨rfl, -⟩ := List.cons.inj hs
    exact not_proper_empty (h.proper "" List.mem_cons_self)
  rw [join, if_neg hhead, h.split_eq, walk_append, walk_proper _ h.proper]
  exact enter_skip (Or.inl rfl)

theorem WfDir.nulFree {x : String} {segs : FilePath} (h : WfDir x segs) : NulFree segs ↔ nul ∉ x.toList := by
  rw [← nulFree_split, h.split_eq, nulFree_append]
  exact (and_iff_left (show NulFree [""] by decide)).symm

/-- The cache directory of a well-formed prefix, if it holds no NUL. -/
theorem WfDir.localDir_ok {x : String} {segs dir : FilePath} (h : WfDir x segs) {store : TemplateStore} :
    localDirFor store x = .ok dir ↔ NulFree segs ∧ dir = store.cacheDir ++ segs := by
  rw [localDirFor_ok, h.nulFree, h.join_eq]
  refine ⟨fun h => ⟨h.1, h.2.2⟩, fun ⟨hplain, heq⟩ => ⟨hplain, Or.inr ?_, heq⟩⟩
  subst heq
  refine ⟨List.prefix_append _ _, fun heq => h.ne ?_⟩
  exact List.append_cancel_left (heq.symm.trans (List.append_nil _).symm)

/-! ### The calls -/

/-- The text of a path. -/
def pathText (p : FilePath) : String := "/" ++ "/".intercalate p

def errno : FsError → ℕ
  | .noEntry => 2
  | .exists => 17
  | .notDirectory => 20
  | .isDirectory => 21

def strerror : FsError → String
  | .noEntry => "No such file or directory"
  | .exists => "File exists"
  | .notDirectory => "Not a directory"
  | .isDirectory => "Is a directory"

/-- The `OSError` of an operation on `p`. -/
def fsError (p : FilePath) (e : FsError) : Exc :=
  .osError (errno e) ("[Errno " ++ toString (errno e) ++ "] " ++ strerror e ++ ": " ++ pyRepr (pathText p))

/-- The path is in the text only. -/
theorem fsError_cls (p : FilePath) (e : FsError) : (fsError p e).cls = .osError (errno e) "" := rfl

/-- The files of the worker. -/
abbrev Files : Type := FileTree String Bytes

/-- A templates bucket, by its keys in the order of a listing, and the names
that `mkdtemp` may choose. -/
structure AnyBucket where
  objects : List (String × Bytes)
  keys_nodup : (objects.map Prod.fst).Nodup
  isTemp : String → Bool

/-- A templates bucket of keys that name files. -/
structure CacheWorld extends AnyBucket where
  keys_wf : ∀ o ∈ objects, WfKey o.1

/-- An answer of an operation on the tree: the tree after it, or an error and
the same tree. -/
def fsAnswer (p : FilePath) (r : Except FsError Files) (s : Files) (x : Except Exc Unit) (t : Files) :
    Prop :=
  match r with
  | .ok s' => x = .ok () ∧ t = s'
  | .error e => x = .error (fsError p e) ∧ t = s

theorem fsAnswer_cases {p : FilePath} {r : Except FsError Files} {s t : Files} {x : Except Exc Unit}
    (h : fsAnswer p r s x t) : (r = .ok t ∧ x = .ok ()) ∨
      ∃ e, r = .error e ∧ x = .error (fsError p e) ∧ t = s := by
  cases r with
  | ok s' =>
    obtain ⟨rfl, rfl⟩ := h
    exact Or.inl ⟨rfl, rfl⟩
  | error e => exact Or.inr ⟨e, rfl, h⟩

namespace AnyBucket

variable (b : AnyBucket)

/-- The keys of a listing. -/
def keysUnder (x : String) : List String :=
  (b.objects.map Prod.fst).filter fun key => x.toList.isPrefixOf key.toList

/-- An answer of S3. The bucket has one name. -/
def s3Answer (faults : Bool) : ∀ op : S3Op, Except Exc op.Res → Prop
  | .listObjectsV2 _ x, r =>
    (faults = true ∧ ∃ exc, r = .error exc) ∨ ∃ pages, r = .ok pages ∧ pages.flatten = b.keysUnder x
  | .getObject _ key, r =>
    (faults = true ∧ ∃ exc, r = .error exc) ∨ (∃ content, (key, content) ∈ b.objects ∧ r = .ok content) ∨
      ((∀ content, (key, content) ∉ b.objects) ∧
        ∃ message, r = .error (.clientError "NoSuchKey" (some 404) message))
  | _, _ => True

/-- What a call on the file system does to the files. -/
def fsAnswers : Sem fsSig Exc Files
  | .isFile p, s, x, t => x = .ok (s.isFile p) ∧ t = s
  | .exists p, s, x, t => x = .ok (s.has p) ∧ t = s
  | .mkdir p, s, x, t => fsAnswer p (s.mkdir p) s x t
  | .mkdtemp dir, s, x, t =>
    (∃ name, b.isTemp name = true ∧ s.mkdirIn dir name = .ok t ∧ x = .ok (dir ++ [name])) ∨
      ((∀ name, b.isTemp name = true → ∀ t, s.mkdirIn dir name ≠ .ok t) ∧ t = s ∧
        ∃ n message, x = .error (.osError n message))
  | .writeBytes p content, s, x, t => fsAnswer p (s.write p content) s x t
  | .readBytes p, s, x, t =>
    t = s ∧ match s.read p with
      | .ok content => x = .ok content
      | .error e => x = .error (fsError p e)
  | .replace src dst, s, x, t =>
    (∃ d a, ∃ h : s.Movable src d a, dst = d ++ [a] ∧ x = .ok () ∧ t = s.move h) ∨
      ((∀ d a, dst = d ++ [a] → ¬ s.Movable src d a) ∧ t = s ∧ ∃ n message, x = .error (.osError n message))
  | .rmtree p, s, x, t => x = .ok () ∧ t = s.rmtree p

variable {b}

theorem mem_keysUnder {x key : String} :
    key ∈ b.keysUnder x ↔ (∃ content, (key, content) ∈ b.objects) ∧ x.toList <+: key.toList := by
  simp [keysUnder]

theorem lookup_eq_some {key : String} {content : Bytes} :
    b.objects.lookup key = some content ↔ (key, content) ∈ b.objects := by
  constructor
  · intro h
    obtain ⟨l, r, hsplit, -⟩ := List.lookup_eq_some_iff.mp h
    exact hsplit ▸ List.mem_append_right l List.mem_cons_self
  · exact lookup_of_mem b.keys_nodup

/-- A read answers the content of the file, or raises if there is none. -/
theorem fsAnswers_readBytes (b : AnyBucket) {p : FilePath} {s t : Files} {x : Except Exc Bytes}
    (h : b.fsAnswers (.readBytes p) s x t) :
    t = s ∧ ((∃ content, s.node p = some (.file content) ∧ x = .ok content) ∨
      (∀ content, s.node p ≠ some (.file content)) ∧ ∃ e, x = .error (fsError p e)) := by
  obtain ⟨rfl, hx⟩ := h
  refine ⟨rfl, ?_⟩
  split at hx
  · rename_i content hr
    exact Or.inl ⟨content, t.read_ok.mp hr, hx⟩
  · rename_i e hr
    refine Or.inr ⟨fun content hc => ?_, _, hx⟩
    rw [t.read_ok.mpr hc] at hr
    cases hr

end AnyBucket

namespace CacheWorld

variable (w : CacheWorld)

/-- What a call of the store does to the files. -/
def sem (faults : Bool) : Sem storeSig Exc Files
  | .inl op, s, x, t => w.s3Answer faults op x ∧ t = s
  | .inr op, s, x, t => w.fsAnswers op s x t

/-- The bucket holds `b` under the key with the segments `p`. -/
def Has (p : FilePath) (b : Bytes) : Prop :=
  ∃ key, (key, b) ∈ w.objects ∧ WfObject key ∧ split '/' key = p

/-- A path below the cache root that is in no temporary directory. -/
def Kept (p : FilePath) : Prop := ∃ seg r, p = seg :: r ∧ w.isTemp seg = false

variable {w}

theorem Has.unique {p : FilePath} {b c : Bytes} (hb : w.Has p b) (hc : w.Has p c) : b = c := by
  obtain ⟨k, hk, -, hkp⟩ := hb
  obtain ⟨l, hl, -, hlp⟩ := hc
  obtain rfl : k = l := split_injective (hkp.trans hlp.symm)
  exact (List.inj_on_of_nodup_map w.keys_nodup hk hl rfl : (k, b) = (k, c)) |> congrArg Prod.snd

end CacheWorld
end DocGen
