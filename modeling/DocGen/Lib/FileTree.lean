/-
# A tree of directories and files

The part of a file system that a program works on: nodes by their path from the
root, each below a directory. An operation answers an error and leaves the tree
as it is, or answers the tree after it. There are no links and no permissions,
and an operation is atomic.
-/
import Mathlib.Data.List.Infix
import Mathlib.Tactic.Common

namespace DocGen

inductive Node (β : Type)
  | file (content : β)
  | dir
  deriving DecidableEq

/-- The errors of the operations. -/
inductive FsError
  | noEntry
  | exists
  | notDirectory
  | isDirectory
  deriving DecidableEq

/-- The nodes by their paths. What is there is in a directory. -/
structure FileTree (α β : Type) where
  node : List α → Option (Node β)
  root_dir : node [] = some .dir
  parent_dir : ∀ p a, node (p ++ [a]) ≠ none → node p = some .dir

namespace FileTree

variable {α β : Type}

section

variable (t : FileTree α β)

def isFile (p : List α) : Bool :=
  match t.node p with
  | some (.file _) => true
  | _ => false

def isDir (p : List α) : Bool :=
  match t.node p with
  | some .dir => true
  | _ => false

/-- Something is at `p`. -/
def has (p : List α) : Bool := (t.node p).isSome

/-- A file is at `p` or above it. -/
def blocked (p : List α) : Bool := p.inits.any t.isFile

/-- The error of a path whose parent is no directory. -/
def missing (p : List α) : FsError := if t.blocked p then .notDirectory else .noEntry

@[simp] theorem isDir_iff {p : List α} : t.isDir p = true ↔ t.node p = some .dir := by
  unfold isDir
  split
  · rename_i h
    simp [h]
  · rename_i h
    exact iff_of_false Bool.false_ne_true h

theorem isFile_iff {p : List α} : t.isFile p = true ↔ ∃ b, t.node p = some (.file b) := by
  unfold isFile
  split
  · rename_i b h
    exact iff_of_true rfl ⟨b, h⟩
  · rename_i h
    exact iff_of_false Bool.false_ne_true fun ⟨b, hb⟩ => h b hb

theorem isFile_of_none {p : List α} (h : t.node p = none) : t.isFile p = false := by
  rw [isFile, h]

theorem blocked_iff {p : List α} : t.blocked p = true ↔ ∃ q, q <+: p ∧ t.isFile q = true := by
  simp [blocked, List.any_eq_true, List.mem_inits]

/-- All that is above something there is a directory. -/
theorem dir_of_below {p : List α} : ∀ {q : List α}, t.node (p ++ q) ≠ none → q ≠ [] →
    t.node p = some .dir := by
  intro q
  induction q generalizing p with
  | nil => exact fun _ hq => absurd rfl hq
  | cons a q ih =>
    intro h _
    rcases q with _ | ⟨b, q⟩
    · exact t.parent_dir p a h
    · rw [← List.singleton_append, ← List.append_assoc] at h
      have hpa := ih h (List.cons_ne_nil _ _)
      exact t.parent_dir p a (by rw [hpa]; exact Option.some_ne_none _)

/-- Nothing is below a place with no directory. -/
theorem none_of_not_dir {p q : List α} (h : t.node p ≠ some .dir) (hq : q ≠ []) :
    t.node (p ++ q) = none :=
  not_not.mp fun hne => h (t.dir_of_below hne hq)

theorem none_below {p : List α} (q : List α) (h : t.node p = none) : t.node (p ++ q) = none := by
  rcases q with _ | ⟨a, q⟩
  · rwa [List.append_nil]
  · exact t.none_of_not_dir (by rw [h]; exact (Option.some_ne_none _).symm) (List.cons_ne_nil _ _)

end

/-! ### Operations -/

section

variable [DecidableEq α] (t : FileTree α β)

/-- The tree with an empty root. -/
def empty : FileTree α β where
  node p := if p = [] then some .dir else none
  root_dir := rfl
  parent_dir p a h := by simp at h

/-- The tree with directories at `p` and above it. -/
def addDirs (p : List α) : FileTree α β where
  node q := if q <+: p then some .dir else t.node q
  root_dir := if_pos List.nil_prefix
  parent_dir q a hq := by
    by_cases hp : q ++ [a] <+: p
    · exact if_pos ((List.prefix_append q [a]).trans hp)
    · rw [if_neg hp] at hq
      rw [t.parent_dir q a hq, ite_self]

/-- `p.mkdir(parents=True, exist_ok=True)`. -/
def mkdir (p : List α) : Except FsError (FileTree α β) :=
  if t.isFile p then .error .exists
  else if t.blocked p then .error .notDirectory
  else .ok (t.addDirs p)

/-- The tree with the node `n` at the entry `a` of the directory `d`, where no
directory is. -/
def setEntry (d : List α) (a : α) (n : Node β) (hd : t.isDir d = true)
    (ha : t.isDir (d ++ [a]) = false) : FileTree α β where
  node q := if q = d ++ [a] then some n else t.node q
  root_dir := by rw [if_neg (by simp)]; exact t.root_dir
  parent_dir q b hq := by
    by_cases hqd : q ++ [b] = d ++ [a]
    · obtain ⟨rfl, -⟩ := List.append_inj' hqd rfl
      rw [if_neg (by simp)]
      exact t.isDir_iff.mp hd
    · rw [if_neg hqd] at hq
      have hdir := t.isDir_iff.mpr (t.parent_dir q b hq)
      have hne : q ≠ d ++ [a] := by
        intro h
        rw [h, ha] at hdir
        cases hdir
      rw [if_neg hne]
      exact t.isDir_iff.mp hdir

/-- The directory `a` made in `d`, as `mkdtemp` makes one under a name it
chose. -/
def mkdirIn (d : List α) (a : α) : Except FsError (FileTree α β) :=
  if hd : t.isDir d = true then
    if ha : t.has (d ++ [a]) = false then
      .ok (t.setEntry d a .dir hd (by simp_all [has, isDir]))
    else .error .exists
  else .error (t.missing d)

/-- `p.write_bytes(b)`, for the entry `a` of `d`. -/
def writeIn (d : List α) (a : α) (b : β) : Except FsError (FileTree α β) :=
  if hd : t.isDir d = true then
    if ha : t.isDir (d ++ [a]) = false then .ok (t.setEntry d a (.file b) hd ha)
    else .error .isDirectory
  else .error (t.missing d)

/-- `p.write_bytes(b)`. -/
def write (p : List α) (b : β) : Except FsError (FileTree α β) :=
  match p.getLast? with
  | none => .error .isDirectory
  | some a => t.writeIn p.dropLast a b

/-- `p.read_bytes()`. -/
def read (p : List α) : Except FsError β :=
  match t.node p with
  | some (.file b) => .ok b
  | some .dir => .error .isDirectory
  | none => .error (t.missing p)

omit [DecidableEq α] in
theorem read_ok {p : List α} {b : β} : t.read p = .ok b ↔ t.node p = some (.file b) := by
  unfold read
  split
  · rename_i h
    rw [h]
    simp
  · rename_i h
    rw [h]
    simp
  · rename_i h
    rw [h]
    simp

/-- What was at `src` and below it can be moved to the entry `a` of `d`: there
is nothing, or an empty directory for a directory, or a file for a file. -/
structure Movable (src d : List α) (a : α) : Prop where
  source : t.has src = true
  below_root : src ≠ []
  parent : t.isDir d = true
  apart : ¬ src <+: d ++ [a]
  target : t.node (d ++ [a]) = none ∨
    (t.isDir src = true ∧ t.isDir (d ++ [a]) = true ∧ ∀ b, t.node (d ++ [a] ++ [b]) = none) ∨
    (t.isFile src = true ∧ t.isFile (d ++ [a]) = true)

/-- The tree after the move. -/
def move {src d : List α} {a : α} (h : t.Movable src d a) : FileTree α β where
  node q :=
    if d ++ [a] <+: q then t.node (src ++ q.drop (d ++ [a]).length)
    else if src <+: q then none else t.node q
  root_dir := by
    rw [if_neg (by simp), if_neg (by simpa using h.below_root)]
    exact t.root_dir
  parent_dir q b hq := by
    by_cases hD : d ++ [a] <+: q ++ [b]
    · rw [if_pos hD] at hq
      by_cases hDq : d ++ [a] <+: q
      · -- both are in the moved part
        obtain ⟨r, rfl⟩ := hDq
        rw [List.append_assoc _ r, List.drop_left, ← List.append_assoc] at hq
        rw [if_pos (List.prefix_append _ r), List.drop_left]
        exact t.parent_dir _ b hq
      · -- `q` is `d`, which is not moved
        have heq : d ++ [a] = q ++ [b] := (List.prefix_concat_iff.mp hD).resolve_right hDq
        obtain ⟨rfl, -⟩ := List.append_inj' heq rfl
        have hsrc : ¬ src <+: d := fun hs => h.apart (hs.trans (List.prefix_append d [a]))
        rw [if_neg hDq, if_neg hsrc]
        exact t.isDir_iff.mp h.parent
    · have hDq : ¬ d ++ [a] <+: q := fun h' => hD (h'.trans (List.prefix_append q [b]))
      rw [if_neg hD] at hq
      by_cases hs : src <+: q ++ [b]
      · rw [if_pos hs] at hq
        exact absurd rfl hq
      · rw [if_neg hs] at hq
        rw [if_neg hDq, if_neg fun h' => hs (h'.trans (List.prefix_append q [b]))]
        exact t.parent_dir q b hq

/-- `shutil.rmtree(p, ignore_errors=True)`: a directory below the root is gone,
with all that is below it. -/
def rmtree (p : List α) : FileTree α β where
  node q := if p ≠ [] ∧ t.isDir p = true ∧ p <+: q then none else t.node q
  root_dir := by
    rw [if_neg fun h => h.1 (List.prefix_nil.mp h.2.2)]
    exact t.root_dir
  parent_dir q b hq := by
    by_cases hp : p ≠ [] ∧ t.isDir p = true ∧ p <+: q ++ [b]
    · rw [if_pos hp] at hq
      exact absurd rfl hq
    · rw [if_neg hp] at hq
      rw [if_neg fun h => hp ⟨h.1, h.2.1, h.2.2.trans (List.prefix_append q [b])⟩]
      exact t.parent_dir q b hq

/-! ### What the operations change -/

variable {t}

omit [DecidableEq α] in
theorem node_empty {p : List α} (h : p ≠ []) : (empty : FileTree α β).node p = none := if_neg h

@[simp] theorem node_addDirs (p q : List α) :
    (t.addDirs p).node q = if q <+: p then some .dir else t.node q := rfl

@[simp] theorem node_setEntry {d : List α} {a : α} {n : Node β} (hd : t.isDir d = true)
    (ha : t.isDir (d ++ [a]) = false) (q : List α) :
    (t.setEntry d a n hd ha).node q = if q = d ++ [a] then some n else t.node q := rfl

theorem node_move {src d : List α} {a : α} (h : t.Movable src d a) (q : List α) :
    (t.move h).node q = if d ++ [a] <+: q then t.node (src ++ q.drop (d ++ [a]).length)
      else if src <+: q then none else t.node q := rfl

theorem node_rmtree (p q : List α) : (t.rmtree p).node q =
    if p ≠ [] ∧ t.isDir p = true ∧ p <+: q then none else t.node q := rfl

/-- The second tree has the files of the first and its directories, and maybe
more directories. -/
def SameFiles (t u : FileTree α β) : Prop :=
  ∀ q, (t.node q = some .dir → u.node q = some .dir) ∧
    ∀ b, u.node q = some (.file b) ↔ t.node q = some (.file b)

omit [DecidableEq α] in
theorem SameFiles.refl (t : FileTree α β) : SameFiles t t := fun _ => ⟨id, fun _ => Iff.rfl⟩

omit [DecidableEq α] in
theorem SameFiles.trans {u v : FileTree α β} (h : SameFiles t u) (h' : SameFiles u v) : SameFiles t v :=
  fun q => ⟨fun hq => (h' q).1 ((h q).1 hq), fun b => ((h' q).2 b).trans ((h q).2 b)⟩

omit [DecidableEq α] in
theorem SameFiles.none {u : FileTree α β} (h : SameFiles t u) {p : List α} (hp : u.node p = .none) :
    t.node p = .none := by
  rcases hn : t.node p with _ | ⟨b⟩ | _
  · rfl
  · rw [((h p).2 b).mpr hn] at hp
    cases hp
  · rw [(h p).1 hn] at hp
    cases hp

omit [DecidableEq α] in
/-- With the same files, the same paths are blocked. -/
theorem SameFiles.blocked_eq {u : FileTree α β} (h : SameFiles t u) (p : List α) :
    u.blocked p = t.blocked p := by
  have hfile : ∀ q, u.isFile q = t.isFile q := fun q => by
    rw [Bool.eq_iff_iff, isFile_iff, isFile_iff]
    exact exists_congr fun b => (h q).2 b
  rw [blocked, blocked, funext hfile]

theorem mkdir_ok {p : List α} {u : FileTree α β} (h : t.mkdir p = .ok u) :
    u = t.addDirs p ∧ t.blocked p = false := by
  unfold mkdir at h
  split at h
  · cases h
  split at h
  · cases h
  · rename_i hb
    exact ⟨(Except.ok.inj h).symm, Bool.eq_false_iff.mpr hb⟩

theorem mkdir_of_clear {p : List α} (h : t.blocked p = false) : t.mkdir p = .ok (t.addDirs p) := by
  have hfile : t.isFile p ≠ true := fun hf => by
    rw [t.blocked_iff.mpr ⟨p, List.prefix_rfl, hf⟩] at h
    cases h
  rw [mkdir, if_neg hfile, h]
  rfl

/-- Where nothing is blocked, no file is replaced by a directory. -/
theorem sameFiles_addDirs {p : List α} (h : t.blocked p = false) : SameFiles t (t.addDirs p) := by
  intro q
  rw [node_addDirs]
  by_cases hq : q <+: p
  · rw [if_pos hq]
    refine ⟨fun _ => rfl, fun b => iff_of_false (by simp) fun hb => ?_⟩
    have hblocked := t.blocked_iff.mpr ⟨q, hq, t.isFile_iff.mpr ⟨b, hb⟩⟩
    rw [h] at hblocked
    cases hblocked
  · rw [if_neg hq]
    exact ⟨id, fun _ => Iff.rfl⟩

theorem sameFiles_mkdir {p : List α} {u : FileTree α β} (h : t.mkdir p = .ok u) : SameFiles t u := by
  obtain ⟨rfl, hb⟩ := mkdir_ok h
  exact sameFiles_addDirs hb

/-- Removing what is not there changes nothing. -/
theorem sameFiles_rmtree {p : List α} (h : t.node p = none) : SameFiles t (t.rmtree p) := by
  have hdir : ¬ t.isDir p = true := by rw [t.isDir_iff, h]; exact (Option.some_ne_none _).symm
  intro q
  rw [node_rmtree, if_neg fun h' => hdir h'.2.1]
  exact ⟨id, fun _ => Iff.rfl⟩

theorem mkdirIn_ok {d : List α} {a : α} {u : FileTree α β} (h : t.mkdirIn d a = .ok u) :
    t.node (d ++ [a]) = none ∧ ∀ q, u.node q = if q = d ++ [a] then some .dir else t.node q := by
  unfold mkdirIn at h
  split at h
  · split at h
    · rename_i ha
      obtain rfl := Except.ok.inj h
      exact ⟨by simpa [has] using ha, fun q => rfl⟩
    · cases h
  · cases h

/-- A free name in a directory can be taken. -/
theorem mkdirIn_free {d : List α} {a : α} (hd : t.node d = some .dir) (ha : t.node (d ++ [a]) = none) :
    ∃ u, t.mkdirIn d a = .ok u := by
  rw [mkdirIn, dif_pos (t.isDir_iff.mpr hd), dif_pos (by rw [has, ha]; rfl)]
  exact ⟨_, rfl⟩

theorem sameFiles_mkdirIn {d : List α} {a : α} {u : FileTree α β} (h : t.mkdirIn d a = .ok u) :
    SameFiles t u := by
  obtain ⟨hfree, hnode⟩ := mkdirIn_ok h
  intro q
  rw [hnode]
  by_cases hq : q = d ++ [a]
  · rw [if_pos hq, hq, hfree]
    simp
  · rw [if_neg hq]
    exact ⟨id, fun _ => Iff.rfl⟩

theorem write_ok {p : List α} {b : β} {u : FileTree α β} (h : t.write p b = .ok u) :
    t.node p ≠ some .dir ∧ ∀ q, u.node q = if q = p then some (.file b) else t.node q := by
  rcases List.eq_nil_or_concat p with rfl | ⟨d, a, rfl⟩
  · cases h
  · rw [List.concat_eq_append] at h ⊢
    simp only [write, List.getLast?_concat, List.dropLast_concat, writeIn] at h
    split at h
    · split at h
      · rename_i hd ha
        obtain rfl := Except.ok.inj h
        refine ⟨fun hdir => ?_, fun q => rfl⟩
        rw [t.isDir_iff.mpr hdir] at ha
        cases ha
      · cases h
    · cases h

/-- A directory is not made where a file is in the way. -/
theorem mkdir_error {p : List α} {e : FsError} (h : t.mkdir p = .error e) :
    t.blocked p = true ∧ e = if t.isFile p = true then .exists else .notDirectory := by
  unfold mkdir at h
  split at h
  · rename_i hf
    rw [if_pos hf]
    exact ⟨t.blocked_iff.mpr ⟨p, List.prefix_rfl, hf⟩, (Except.error.inj h).symm⟩
  split at h
  · rename_i hf hb
    rw [if_neg hf]
    exact ⟨hb, (Except.error.inj h).symm⟩
  · cases h

omit [DecidableEq α] in
/-- No file is above a directory. -/
theorem not_blocked_of_dir {p : List α} (h : t.node p = some .dir) : t.blocked p = false := by
  refine Bool.eq_false_iff.mpr fun hb => ?_
  obtain ⟨q, ⟨r, rfl⟩, hq⟩ := t.blocked_iff.mp hb
  obtain ⟨b, hfile⟩ := t.isFile_iff.mp hq
  rcases eq_or_ne r [] with rfl | hr
  · rw [List.append_nil, hfile] at h
    cases h
  · rw [t.dir_of_below (h ▸ Option.some_ne_none _) hr] at hfile
    cases hfile

omit [DecidableEq α] in
/-- A file above a path through a directory is below the directory. -/
theorem blocked_append {d p : List α} (hd : t.node d = some .dir) (h : t.blocked (d ++ p) = true) :
    ∃ q b, q ≠ [] ∧ q <+: p ∧ t.node (d ++ q) = some (.file b) := by
  obtain ⟨q, hq, hf⟩ := t.blocked_iff.mp h
  rcases List.prefix_or_prefix_of_prefix hq (List.prefix_append d p) with hqd | ⟨r, rfl⟩
  · have hblocked := t.blocked_iff.mpr ⟨q, hqd, hf⟩
    rw [not_blocked_of_dir hd] at hblocked
    cases hblocked
  · obtain ⟨b, hb⟩ := t.isFile_iff.mp hf
    refine ⟨r, b, ?_, (List.prefix_append_right_inj d).mp hq, hb⟩
    rintro rfl
    rw [List.append_nil, hd] at hb
    cases hb

/-- Directories made below one that is there change nothing elsewhere. -/
theorem node_addDirs_off {d p q : List α} (hd : t.node d = some .dir) (hq : ¬ d <+: q) :
    (t.addDirs (d ++ p)).node q = t.node q := by
  rw [node_addDirs]
  split
  · rename_i hqp
    obtain ⟨r, rfl⟩ := (List.prefix_or_prefix_of_prefix hqp (List.prefix_append d p)).resolve_right hq
    rcases eq_or_ne r [] with rfl | hr
    · rw [List.append_nil] at hd
      exact hd.symm
    · exact (t.dir_of_below (hd ▸ Option.some_ne_none _) hr).symm
  · rfl

/-- In a directory, only a directory is in the way of a file. -/
theorem write_error {d : List α} {a : α} {b : β} {e : FsError} (h : t.write (d ++ [a]) b = .error e)
    (hd : t.node d = some .dir) : e = .isDirectory ∧ t.node (d ++ [a]) = some .dir := by
  simp only [write, List.getLast?_concat, List.dropLast_concat, writeIn] at h
  rw [dif_pos (t.isDir_iff.mpr hd)] at h
  split at h
  · cases h
  · rename_i ha
    exact ⟨(Except.error.inj h).symm, t.isDir_iff.mp (Bool.not_eq_false _ ▸ ha)⟩

/-- In a directory, a file is written where no directory is. -/
theorem write_in {d : List α} {a : α} (b : β) (hd : t.node d = some .dir)
    (ha : t.node (d ++ [a]) ≠ some .dir) : ∃ u, t.write (d ++ [a]) b = .ok u := by
  have ha' : t.isDir (d ++ [a]) = false := Bool.eq_false_iff.mpr fun h => ha (t.isDir_iff.mp h)
  simp only [write, List.getLast?_concat, List.dropLast_concat, writeIn]
  rw [dif_pos (t.isDir_iff.mpr hd), dif_pos ha']
  exact ⟨_, rfl⟩

/-- Nothing is removed where there is no directory. -/
theorem rmtree_none {p : List α} (h : t.node p = none) : t.rmtree p = t := by
  have hdir : ¬ t.isDir p = true := by rw [t.isDir_iff, h]; exact (Option.some_ne_none _).symm
  have hnode : (t.rmtree p).node = t.node := funext fun q => by
    rw [node_rmtree, if_neg fun h' => hdir h'.2.1]
  cases t
  simp only [rmtree, mk.injEq]
  exact hnode

/-- What is no file is gone, with all that is below it. -/
theorem node_rmtree_of {p : List α} (hp : p ≠ []) (hf : t.isFile p = false) (q : List α) :
    (t.rmtree p).node q = if p <+: q then none else t.node q := by
  rw [node_rmtree]
  by_cases hq : p <+: q
  · rw [if_pos hq]
    split
    · rfl
    · rename_i h
      have hnone : t.node p = none := by
        rcases hn : t.node p with _ | ⟨b⟩ | _
        · rfl
        · rw [t.isFile_iff.mpr ⟨b, hn⟩] at hf
          cases hf
        · exact absurd ⟨hp, t.isDir_iff.mpr hn, hq⟩ h
      obtain ⟨r, rfl⟩ := hq
      exact t.none_below r hnone
  · rw [if_neg hq, if_neg fun h => hq h.2.2]

omit [DecidableEq α] in
/-- At the target of a move there is at most an empty directory. -/
theorem Movable.vacant {src d : List α} {a : α} (h : t.Movable src d a) (hdir : t.isDir src = true)
    {q : List α} (hq : d ++ [a] <+: q) :
    t.node q = none ∨ (q = d ++ [a] ∧ t.node q = some .dir) := by
  obtain ⟨r, rfl⟩ := hq
  rcases h.target with hnone | ⟨-, htd, hempty⟩ | ⟨hf, -⟩
  · exact Or.inl (t.none_below r hnone)
  · rcases r with _ | ⟨b, r⟩
    · rw [List.append_nil]
      exact Or.inr ⟨rfl, t.isDir_iff.mp htd⟩
    · have hbelow := t.none_below r (hempty b)
      rw [List.append_assoc _ [b], List.singleton_append] at hbelow
      exact Or.inl hbelow
  · obtain ⟨b, hb⟩ := t.isFile_iff.mp hf
    rw [t.isDir_iff.mp hdir] at hb
    cases hb

end

end FileTree
end DocGen
