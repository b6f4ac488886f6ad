/-
# What one fetch does

A fetch that no other comes between, from a cache that satisfies the invariant
and has no temporary directories left (`Clean`). Its download ends in one of
three ways: the listing has no manifest, or some object cannot be written (`Unfit`),
or every object is downloaded. Only then does the cache matter:
the download is moved into place if nothing is there, and else dropped.

S3 may fail, if `faults` are allowed; the cache is then still clean.
-/
import DocGen.CacheComplete

namespace DocGen

open Prog DocGen.Path

section

variable (store : TemplateStore) (w : CacheWorld)

/-- A key of the prefix has the name of a manifest. -/
def Listed (x : String) : Prop := ∃ key ∈ w.keysUnder x, Path.name key = manifestName

/-- An object of the prefix is where another has a directory above it. -/
def Conflict (segs : FilePath) : Prop := ∃ p q b c, p ≠ [] ∧ p <+: q ∧ p ≠ q ∧
  w.Has (segs ++ p) b ∧ w.Has (segs ++ q) c

/-- The prefix has an object that the system takes no path for, or two that are
in each other's way. -/
def Unfit (segs : FilePath) : Prop :=
  Conflict w segs ∨ ∃ p b, p ≠ [] ∧ w.Has (segs ++ p) b ∧ ¬ NulFree (segs ++ p)

/-- What a turn of the download raises: for a NUL character, or from the file
system. -/
inductive TurnError
  | nul
  | fs (e : FsError)

/-- The exception, at a path. -/
def TurnError.exc (p : FilePath) : TurnError → Exc
  | .nul => .valueError "embedded null byte"
  | .fs e => fsError p e

/-- The path is in the text only. -/
theorem TurnError.exc_cls (p q : FilePath) : ∀ e : TurnError, (e.exc p).cls = (e.exc q).cls
  | .nul => rfl
  | .fs e => (fsError_cls p e).trans (fsError_cls q e).symm

/-- The error of the file system in a turn of the download, for the object `p`
after those of `done`. -/
def pathError (done : List FilePath) (p : FilePath) : Option FsError :=
  if p.dropLast ∈ done then some .exists
  else if ∃ q ∈ done, q <+: p.dropLast then some .notDirectory
  else if ∃ q ∈ done, p <+: q ∧ p ≠ q then some .isDirectory
  else none

/-- The error of such a turn. -/
def turnError (done : List FilePath) (p : FilePath) : Option TurnError :=
  if NulFree p then (pathError done p).map .fs else some .nul

/-- The error of the first turn that has one. -/
def loopError (done : List FilePath) : List FilePath → Option TurnError
  | [] => none
  | p :: ps => (turnError done p).or (loopError (done ++ [p]) ps)

/-- The error of a download of the prefix. -/
def firstError (x : String) (segs : FilePath) : Option TurnError :=
  loopError [] (doneOf segs (w.keysUnder x))

/-- The cache root can be made, and no temporary directory is there. -/
structure Clean (s : Files) : Prop where
  root : s.blocked store.cacheDir = false
  temps : ∀ name, w.isTemp name = true → s.node (placed store [name]) = none

/-- The tree `u` is `s` with the objects downloaded so far. -/
structure Loaded (t : Tmp) (s u : Files) : Prop where
  off : AgreeOff store t.name s u
  root : u.node (placed store [t.name]) = some .dir
  clear : loopError [] t.done = none
  has : ∀ p ∈ t.done, ∃ b, w.Has (t.under ++ p) b
  file : ∀ p b, u.node (placed store (t.name :: p)) = some (.file b) ↔
    p ∈ t.done ∧ w.Has (t.under ++ p) b
  dirs : ∀ p, u.node (placed store (t.name :: p)) = some .dir → p = [] ∨ ∃ q ∈ t.done, p <+: q ∧ p ≠ q

/-- A download has raised `exc`: without faults, for a prefix that is unfit. -/
structure Torn (faults : Bool) (name x : String) (segs : FilePath) (s : Files) (exc : Exc) (u : Files) :
    Prop where
  off : AgreeOff store name s u
  root : u.node (placed store [name]) = some .dir
  cause : faults = false → Unfit w segs ∧ ∃ p e, exc = TurnError.exc p e ∧ firstError w x segs = some e

/-- A fetch that runs alone. -/
abbrev lone (faults : Bool) : Coop storeSig Exc Files Unit := Coop.alone (w.sem faults)

end

variable {store : TemplateStore} {w : CacheWorld} {faults : Bool} {x name : String} {segs : FilePath}
  {t : Tmp} {s₀ s u v : Files}

theorem wp_s3_alone {op : S3Op} {key : String} {Q : Post Exc Files Unit (S3Op.Res op)}
    (h : ∀ x, w.s3Answer faults op x → Q (x.mapError (storageError key)) () s₀ s) :
    (s3Request op key).inl.Wp (lone w faults) Q () s₀ s := by
  refine wp_sync rfl fun x u hx => ?_
  obtain ⟨hx, rfl⟩ := hx
  cases x with
  | ok a => exact h _ hx
  | error e => exact h _ hx

/-! ### The download loop -/

theorem placed_dropLast {p : FilePath} (hp : p ≠ []) :
    (placed store p).dropLast = placed store p.dropLast :=
  List.dropLast_append_of_ne_nil hp

theorem placed_ne_nil {p : FilePath} (hp : p ≠ []) : placed store p ≠ [] :=
  List.append_ne_nil_of_right_ne_nil _ hp

/-- A path below the root is an entry of a directory. -/
theorem placed_concat (store : TemplateStore) {p : FilePath} (hp : p ≠ []) : ∃ d a, placed store p = d ++ [a] :=
  ⟨_, _, (List.dropLast_append_getLast (placed_ne_nil hp)).symm⟩

theorem placed_cons (name : String) (p : FilePath) :
    placed store (name :: p) = placed store [name] ++ p := by
  rw [← placed_append]
  rfl

/-- A path is not above its own parent. -/
theorem not_prefix_dropLast {p : FilePath} (hp : p ≠ []) : ¬ p <+: p.dropLast := by
  intro h
  have hlen := h.length_le
  rw [List.length_dropLast] at hlen
  have hpos := List.length_pos_of_ne_nil hp
  omega

/-- Directories made inside the temporary one. -/
theorem Loaded.addDirs (h : Loaded store w t s u) {p : FilePath}
    (hb : u.blocked (placed store (t.name :: p)) = false) :
    u.SameFiles (u.addDirs (placed store (t.name :: p))) ∧
      AgreeOff store t.name s (u.addDirs (placed store (t.name :: p))) := by
  refine ⟨FileTree.sameFiles_addDirs hb, fun q hq => ?_⟩
  rw [placed_cons, FileTree.node_addDirs_off h.root hq]
  exact h.off q hq

theorem loopError_append (done : List FilePath) : ∀ l r : List FilePath,
    loopError done (l ++ r) = (loopError done l).or (loopError (done ++ l) r) := by
  intro l
  induction l generalizing done with
  | nil =>
    intro r
    rw [List.append_nil]
    rfl
  | cons p l ih =>
    intro r
    rw [List.cons_append, loopError, ih, loopError, Option.or_assoc, List.append_assoc,
      List.singleton_append]

/-- Turns without an error are for paths that the system takes. -/
theorem nulFree_of_loopError : ∀ {l done : List FilePath}, loopError done l = none → ∀ p ∈ l, NulFree p
  | [], _, _ => List.forall_mem_nil _
  | q :: l, done, h => by
    rw [loopError, Option.or_eq_none_iff, turnError] at h
    refine List.forall_mem_cons.mpr ⟨?_, nulFree_of_loopError h.2⟩
    by_contra hq
    rw [if_neg hq] at h
    cases h.1

/-- Nothing downloaded is above a path that is not blocked. -/
theorem Loaded.free (h : Loaded store w t s u) {p : FilePath}
    (hfree : u.blocked (placed store (t.name :: p)) = false) : ∀ q ∈ t.done, ¬ q <+: p := by
  intro q hq hqp
  obtain ⟨b, hb⟩ := h.has q hq
  have hblocked := u.blocked_iff.mpr ⟨placed store (t.name :: q),
    placed_prefix_iff.mpr (List.cons_prefix_cons.mpr ⟨rfl, hqp⟩),
    u.isFile_iff.mpr ⟨b, (h.file q b).mpr ⟨hq, hb⟩⟩⟩
  rw [hfree] at hblocked
  cases hblocked

/-- A file in the way of an object's directories is another object. -/
theorem Loaded.mkdir_error (h : Loaded store w t s u) {p : FilePath} {b : Bytes} {e : FsError} (hp : p ≠ [])
    (hb : w.Has (t.under ++ p) b) (he : u.mkdir (placed store (t.name :: p.dropLast)) = .error e) :
    Conflict w t.under ∧ pathError t.done p = some e := by
  obtain ⟨hblocked, rfl⟩ := FileTree.mkdir_error he
  rw [placed_cons] at hblocked
  obtain ⟨q, c, hq, hqp, hc⟩ := FileTree.blocked_append h.root hblocked
  rw [← placed_cons, h.file] at hc
  refine ⟨⟨q, p, c, b, hq, hqp.trans (List.dropLast_prefix p), ?_, hc.2, hb⟩, ?_⟩
  · rintro rfl
    exact not_prefix_dropLast hp hqp
  · have hfile : u.isFile (placed store (t.name :: p.dropLast)) = true ↔ p.dropLast ∈ t.done := by
      rw [u.isFile_iff]
      constructor
      · intro ⟨c, hc⟩
        exact ((h.file _ c).mp hc).1
      · intro hd
        obtain ⟨c, hc⟩ := h.has _ hd
        exact ⟨c, (h.file _ c).mpr ⟨hd, hc⟩⟩
    unfold pathError
    by_cases hd : p.dropLast ∈ t.done
    · rw [if_pos hd, if_pos (hfile.mpr hd)]
    · rw [if_neg hd, if_neg fun h' => hd (hfile.mp h'), if_pos ⟨q, hc.1, hqp⟩]

theorem placed_cons_inj {p q : FilePath} :
    placed store (name :: p) = placed store (name :: q) ↔ p = q :=
  ⟨fun h => (List.cons.inj (placed_injective h)).2, fun h => by rw [h]⟩

/-- The object of a key is written, below directories that were made for it. -/
theorem Loaded.write (h : Loaded store w t s u) {p : FilePath} {b : Bytes} (hp : p ≠ [])
    (hb : w.Has (t.under ++ p) b) (hplain : NulFree p)
    (hfree : u.blocked (placed store (t.name :: p.dropLast)) = false)
    (hv : (u.addDirs (placed store (t.name :: p.dropLast))).write (placed store (t.name :: p)) b = .ok v) :
    Loaded store w { t with done := t.done ++ [p] } s v := by
  obtain ⟨hsame, hoff⟩ := h.addDirs hfree
  obtain ⟨hnot, hnode⟩ := FileTree.write_ok hv
  refine ⟨fun q hq => ?_, ?_, ?_, ?_, fun q c => ?_, fun q hq => ?_⟩
  · rw [hnode, if_neg, hoff q hq]
    rintro rfl
    exact hq (placed_prefix_iff.mpr (List.prefix_append [t.name] p))
  · rw [hnode, if_neg fun hr => hp (placed_cons_inj.mp hr).symm]
    exact (hsame _).1 h.root
  · show loopError [] (t.done ++ [p]) = none
    rw [loopError_append, h.clear, Option.none_or, List.nil_append]
    have habove := h.free hfree
    have hbelow : ¬ ∃ q ∈ t.done, p <+: q ∧ p ≠ q := by
      rintro ⟨q, hq, ⟨r, rfl⟩, hne⟩
      obtain ⟨c, hc⟩ := h.has _ hq
      refine hnot ((hsame _).1 (u.dir_of_below (q := r) ?_ ?_))
      · rw [← placed_append, List.cons_append, (h.file _ c).mpr ⟨hq, hc⟩]
        exact Option.some_ne_none _
      · rintro rfl
        exact hne (List.append_nil p).symm
    rw [loopError, turnError, if_pos hplain, pathError, if_neg fun hd => habove _ hd List.prefix_rfl,
      if_neg fun ⟨q, hq, hqp⟩ => habove q hq hqp, if_neg hbelow]
    rfl
  · intro q hq
    rcases List.mem_append.mp hq with hq | hq
    · exact h.has q hq
    · rw [List.mem_singleton.mp hq]
      exact ⟨b, hb⟩
  · rw [hnode, List.mem_append, List.mem_singleton]
    by_cases hqp : q = p
    · subst hqp
      rw [if_pos rfl]
      constructor
      · intro hc
        cases hc
        exact ⟨Or.inr rfl, hb⟩
      · rintro ⟨-, hc⟩
        rw [hc.unique hb]
    · rw [if_neg fun hr => hqp (placed_cons_inj.mp hr), (hsame _).2 c, h.file q c]
      exact and_congr_left fun _ => (or_iff_left hqp).symm
  · rw [hnode] at hq
    split at hq
    · cases hq
    · rename_i hqp
      rw [FileTree.node_addDirs] at hq
      split at hq
      · rename_i hpre
        obtain ⟨-, hpre⟩ := List.cons_prefix_cons.mp (placed_prefix_iff.mp hpre)
        refine Or.inr ⟨p, List.mem_append_right _ List.mem_cons_self,
          hpre.trans (List.dropLast_prefix p), ?_⟩
        rintro rfl
        exact hqp rfl
      · rcases h.dirs q hq with hnil | ⟨r, hr, hqr⟩
        · exact Or.inl hnil
        · exact Or.inr ⟨r, List.mem_append_left _ hr, hqr⟩

/-- A directory in the way of an object belongs to another. -/
theorem Loaded.write_error (h : Loaded store w t s u) {p : FilePath} {b c : Bytes} {e : FsError} (hp : p ≠ [])
    (hb : w.Has (t.under ++ p) b) (hfree : u.blocked (placed store (t.name :: p.dropLast)) = false)
    (he : (u.addDirs (placed store (t.name :: p.dropLast))).write (placed store (t.name :: p)) c = .error e) :
    Conflict w t.under ∧ pathError t.done p = some e := by
  obtain ⟨d, a, hda⟩ := placed_concat store (List.cons_ne_nil t.name p)
  have hd : d = placed store (t.name :: p.dropLast) := by
    rw [← List.dropLast_cons_of_ne_nil hp, ← placed_dropLast (List.cons_ne_nil t.name p), hda,
      List.dropLast_concat]
  rw [hda] at he
  obtain ⟨rfl, hdir⟩ :=
    FileTree.write_error he (by rw [hd, FileTree.node_addDirs, if_pos List.prefix_rfl])
  rw [← hda, FileTree.node_addDirs, if_neg fun h' => not_prefix_dropLast hp
    (List.cons_prefix_cons.mp (placed_prefix_iff.mp h')).2] at hdir
  obtain ⟨q, hq, hpq, hne⟩ := (h.dirs p hdir).resolve_left hp
  obtain ⟨c, hc⟩ := h.has q hq
  have habove := h.free hfree
  refine ⟨⟨p, q, b, c, hp, hpq, hne, hb, hc⟩, ?_⟩
  rw [pathError, if_neg fun hd => habove _ hd List.prefix_rfl,
    if_neg fun ⟨q, hq, hqp⟩ => habove q hq hqp, if_pos ⟨q, hq, hpq, hne⟩]

/-- One turn of the loop. -/
theorem wp_downloadObject_alone {key : String} {keys rest : List String} (hx : WfDir x segs)
    (hobj : WfObject key) (hl : w.keysUnder x = keys ++ key :: rest)
    (h : Loaded store w ⟨name, segs, doneOf segs keys⟩ s u) :
    (downloadObject store x (placed store [name]) key).Wp (lone w faults)
      (Post.either (fun _ _ v => Loaded store w ⟨name, segs, doneOf segs (keys ++ [key])⟩ s v)
        fun exc _ _ v => Torn store w faults name x segs s exc v) () s₀ u := by
  obtain ⟨⟨b, hmem⟩, hpre⟩ := AnyBucket.mem_keysUnder.mp (hl ▸ List.mem_append_right keys List.mem_cons_self)
  obtain ⟨p, hp, hrel, hsplit, hjoin⟩ := hobj.rel hx hpre
  have hb : w.Has (segs ++ p) b := ⟨key, hmem, hobj, hsplit⟩
  have hkey : doneOf segs [key] = [p] := by simp [doneOf, hobj, hsplit]
  have herror : ∀ e, turnError (doneOf segs keys) p = some e → firstError w x segs = some e := by
    intro e he
    have hdone : doneOf segs (key :: rest) = p :: doneOf segs rest := by
      simp [doneOf, hobj, hsplit]
    rw [firstError, hl, show doneOf segs (keys ++ key :: rest) = doneOf segs keys ++ doneOf segs (key :: rest)
      from List.filterMap_append, loopError_append, h.clear, Option.none_or, hdone, List.nil_append, loopError, he]
    rfl
  have htarget : join (placed store [name]) (relKey x key) = placed store (name :: p) := by
    rw [hjoin, ← placed_cons]
  have hparent : (placed store (name :: p)).dropLast = placed store (name :: p.dropLast) := by
    rw [placed_dropLast (List.cons_ne_nil name p), List.dropLast_cons_of_ne_nil hp]
  have hbelow : Below (placed store [name]) (placed store (name :: p)) := by
    refine ⟨placed_prefix_iff.mpr (List.prefix_append [name] p), fun heq => hp ?_⟩
    exact (placed_cons_inj.mp heq).symm
  unfold downloadObject
  simp only
  rw [if_neg fun h' => (relKey_skip hx (w.keys_wf _ hmem) hpre).mp h' hobj]
  by_cases hnul : nul ∈ (relKey x key).toList
  · have hp' : ¬ NulFree p := fun h' => hrel.mp h' hnul
    rw [resolvePath_nul hnul]
    refine wp_raise ⟨h.off, h.root, fun _ => ⟨Or.inr ⟨p, b, hp, hb, ?_⟩, p, .nul, rfl, herror _ (if_neg hp')⟩⟩
    exact fun h' => hp' (nulFree_append.mp h').2
  have hplain : NulFree p := hrel.mpr hnul
  have hturn : ∀ e, pathError (doneOf segs keys) p = some e → firstError w x segs = some (.fs e) := by
    intro e he
    refine herror _ ?_
    rw [turnError, if_pos hplain, he]
    rfl
  rw [resolvePath_plain hnul, htarget]
  show Wp _ (if _ then _ else _) _ _ _ _
  rw [if_neg (not_not.mpr hbelow), hparent, doneOf_concat, hkey]
  refine wp_bind (wp_mkdir rfl rfl (fun v hmk => ?_) fun e he => ?_)
  · obtain ⟨rfl, hfree⟩ := FileTree.mkdir_ok hmk
    obtain ⟨hsame, hoff⟩ := h.addDirs hfree
    refine wp_tryCatch (wp_bind (wp_s3_alone fun z hz => ?_))
    cases z with
    | error exc =>
      show Torn store w faults name x segs s (objectError key (storageError key exc)) _
      refine ⟨hoff, (hsame _).1 h.root, fun hf => ?_⟩
      rcases hz with ⟨hf', -⟩ | ⟨_, _, hz⟩ | ⟨hno, -⟩
      · rw [hf] at hf'
        cases hf'
      · cases hz
      · exact absurd hmem (hno b)
    | ok content =>
      have hcontent : (key, content) ∈ w.objects := by
        rcases hz with ⟨-, _, hz⟩ | ⟨c, hc, hz⟩ | ⟨-, _, hz⟩ <;> cases hz
        exact hc
      have hc : w.Has (segs ++ p) content := ⟨key, hcontent, hobj, hsplit⟩
      refine wp_writeBytes rfl rfl (fun v hw => h.write hp hc hplain hfree hw) fun e he => ?_
      obtain ⟨hconf, herr⟩ := h.write_error hp hc hfree he
      show Torn store w faults name x segs s (fsError _ e) _
      exact ⟨hoff, (hsame _).1 h.root, fun _ => ⟨Or.inl hconf, _, .fs e, rfl, hturn e herr⟩⟩
  · obtain ⟨hconf, herr⟩ := h.mkdir_error hp hb he
    exact ⟨h.off, h.root, fun _ => ⟨Or.inl hconf, _, .fs e, rfl, hturn e herr⟩⟩

/-- The loop. -/
theorem wp_downloadObjects (hkeys : ∀ o ∈ w.objects, WfObject o.1) (hx : WfDir x segs)
    (h : Loaded store w ⟨name, segs, []⟩ s u) :
    (forEach (downloadObject store x (placed store [name])) (w.keysUnder x)).Wp (lone w faults)
      (Post.either (fun _ _ v => Loaded store w ⟨name, segs, doneOf segs (w.keysUnder x)⟩ s v)
        fun exc _ _ v => Torn store w faults name x segs s exc v) () s₀ u := by
  refine wp_forEach (fun l _ _ v => Loaded store w ⟨name, segs, doneOf segs l⟩ s v) _ ?_ h
  intro l key r hl _ _ v hv
  obtain ⟨⟨b, hb⟩, -⟩ := AnyBucket.mem_keysUnder.mp (hl ▸ List.mem_append_right l List.mem_cons_self)
  exact wp_downloadObject_alone hx (hkeys (key, b) hb) hl hv

/-- Objects that are all below one directory have no conflicts. -/
theorem not_conflict (dir : FilePath)
    (h : ∀ p b, p ≠ [] → w.Has (segs ++ p) b → u.node (dir ++ p) = some (.file b)) : ¬ Conflict w segs := by
  rintro ⟨p, q, b, c, hp, ⟨r, rfl⟩, hne, hb, hc⟩
  have hr : r ≠ [] := by
    rintro rfl
    exact hne (List.append_nil p).symm
  have hdir := u.dir_of_below (p := dir ++ p) (q := r) (by
    rw [List.append_assoc, h (p ++ r) c (List.append_ne_nil_of_left_ne_nil hp r) hc]
    exact Option.some_ne_none _) hr
  rw [h p b hp hb] at hdir
  cases hdir

theorem Loaded.fits (h : Loaded store w t s u) (hunder : NulFree t.under)
    (hall : ∀ p b, p ≠ [] → w.Has (t.under ++ p) b → p ∈ t.done) : ¬ Unfit w t.under := by
  refine not_or.mpr ⟨not_conflict (u := u) (placed store [t.name]) fun p b hp hb => ?_, ?_⟩
  · rw [← placed_cons]
    exact (h.file p b).mpr ⟨hall p b hp hb, hb⟩
  · rintro ⟨p, b, hp, hb, hnul⟩
    exact hnul (nulFree_append.mpr ⟨hunder, nulFree_of_loopError h.clear p (hall p b hp hb)⟩)

/-! ### Publication -/

/-- The cache, but for the temporary directory. -/
structure Around (store : TemplateStore) (w : CacheWorld) (name : String) (v : Files) : Prop where
  base : v.node store.cacheDir = some .dir
  temps : ∀ n, w.isTemp n = true → n ≠ name → v.node (placed store [n]) = none
  tmp : v.isFile (placed store [name]) = false

theorem not_prefix_cacheDir {p : FilePath} (hp : p ≠ []) : ¬ placed store p <+: store.cacheDir := by
  intro h
  have hlen := h.length_le
  have hpos := List.length_pos_of_ne_nil hp
  rw [placed, List.length_append] at hlen
  omega

theorem around_of_off (hs : Clean store w s) (hbase : s.node store.cacheDir = some .dir)
    (hoff : AgreeOff store name s v) (hroot : v.node (placed store [name]) = some .dir) :
    Around store w name v where
  base := (hoff _ (not_prefix_cacheDir (List.cons_ne_nil name []))).trans hbase
  temps n hn hne := (hoff _ (not_prefix_tmp hne.symm [])).trans (hs.temps n hn)
  tmp := by rw [FileTree.isFile, hroot]

theorem Around.node_rmtree (h : Around store w name v) (q : FilePath) :
    (v.rmtree (placed store [name])).node q = if placed store [name] <+: q then none else v.node q :=
  FileTree.node_rmtree_of (placed_ne_nil (List.cons_ne_nil name [])) h.tmp q

/-- The temporary directory goes. -/
theorem Around.clean (h : Around store w name v) : Clean store w (v.rmtree (placed store [name])) := by
  refine ⟨FileTree.not_blocked_of_dir ?_, fun n hn => ?_⟩
  · rw [h.node_rmtree, if_neg (not_prefix_cacheDir (List.cons_ne_nil name []))]
    exact h.base
  · rw [h.node_rmtree]
    by_cases hne : n = name
    · rw [hne, if_pos List.prefix_rfl]
    · rw [if_neg (not_prefix_tmp (Ne.symm hne) [])]
      exact h.temps n hn hne

/-- In the directory of the prefix are the files that were there, if it was,
and its objects if it was not. -/
def InPlace (store : TemplateStore) (w : CacheWorld) (segs : FilePath) (s t : Files) : Prop :=
  ∀ p b, p ≠ [] → (t.node (placed store (segs ++ p)) = some (.file b) ↔
    if s.has (placed store segs) = true then s.node (placed store (segs ++ p)) = some (.file b)
    else w.Has (segs ++ p) b)

theorem InPlace.rmtree (h : InPlace store w segs s v) (hn : w.isTemp name = true) (hk : w.Kept segs)
    (ha : Around store w name v) : InPlace store w segs s (v.rmtree (placed store [name])) := by
  intro p b hp
  rw [ha.node_rmtree, if_neg (not_prefix_kept hn (hk.below (List.prefix_append segs p)))]
  exact h p b hp

/-- The cache root, made, changes nothing below it. -/
theorem node_addDirs_root {p : FilePath} (hp : p ≠ []) :
    (s.addDirs store.cacheDir).node (placed store p) = s.node (placed store p) := by
  rw [FileTree.node_addDirs, if_neg (not_prefix_cacheDir hp)]

theorem InPlace.of_addDirs (h : InPlace store w segs (s.addDirs store.cacheDir) v) (hk : segs ≠ []) :
    InPlace store w segs s v := by
  intro p b hp
  have hhas : (s.addDirs store.cacheDir).has (placed store segs) = s.has (placed store segs) := by
    rw [FileTree.has, FileTree.has, node_addDirs_root hk]
  rw [h p b hp, hhas, node_addDirs_root (List.append_ne_nil_of_left_ne_nil hk p)]

section

variable {done : List FilePath} {d : FilePath} {a : String}

/-- The move is possible where nothing is. -/
theorem Loaded.movable (h : Loaded store w ⟨name, segs, done⟩ s u) (hn : w.isTemp name = true)
    (hk : w.Kept segs) (hda : placed store segs = d ++ [a]) (hthere : s.has (placed store segs) = false)
    (hfree : u.blocked d = false) : (u.addDirs d).Movable (placed store [name]) d a := by
  have hdir : (u.addDirs d).node (placed store [name]) = some .dir :=
    (FileTree.sameFiles_addDirs hfree _).1 h.root
  refine ⟨by rw [FileTree.has, hdir]; rfl, ?_, ?_, ?_, Or.inl ?_⟩
  · exact placed_ne_nil (List.cons_ne_nil name [])
  · rw [FileTree.isDir_iff, FileTree.node_addDirs, if_pos List.prefix_rfl]
  · rw [← hda]
    exact not_prefix_kept hn hk
  · rw [FileTree.node_addDirs, if_neg, ← hda, h.off _ (not_prefix_kept hn hk)]
    · simpa [FileTree.has] using hthere
    · intro hpre
      have hlen := hpre.length_le
      rw [List.length_append, List.length_singleton] at hlen
      omega

/-- A complete download that is moved is in place. -/
theorem Loaded.moved (h : Loaded store w ⟨name, segs, done⟩ s u) (hs : Clean store w s)
    (hbase : s.node store.cacheDir = some .dir) (hn : w.isTemp name = true) (hk : w.Kept segs)
    (hall : ∀ p b, p ≠ [] → w.Has (segs ++ p) b → p ∈ done) (hda : placed store segs = d ++ [a])
    (hthere : s.has (placed store segs) = false) (hfree : u.blocked d = false)
    (hm : (u.addDirs d).Movable (placed store [name]) d a) :
    Around store w name ((u.addDirs d).move hm) ∧ InPlace store w segs s ((u.addDirs d).move hm) := by
  have haround := around_of_off hs hbase h.off h.root
  have hsame := FileTree.sameFiles_addDirs hfree
  have hmoved : ∀ q, ((u.addDirs d).move hm).node q = if placed store segs <+: q then
      (u.addDirs d).node (placed store [name] ++ q.drop (placed store segs).length)
      else if placed store [name] <+: q then none else (u.addDirs d).node q := by
    intro q
    rw [FileTree.node_move, hda]
  refine ⟨⟨?_, fun n hn' hne => ?_, ?_⟩, fun p b hp => ?_⟩
  · rw [hmoved, if_neg (not_prefix_cacheDir hk.ne), if_neg (not_prefix_cacheDir (List.cons_ne_nil name []))]
    exact (hsame _).1 haround.base
  · rw [hmoved, if_neg (not_prefix_of_kept hn' hk []), if_neg (not_prefix_tmp (Ne.symm hne) []),
      FileTree.node_addDirs, if_neg]
    · exact haround.temps n hn' hne
    · intro hpre
      exact not_prefix_kept hn' hk (hpre.trans (by rw [hda]; exact List.prefix_append d [a]))
  · rw [FileTree.isFile, hmoved, if_neg (not_prefix_of_kept hn hk []), if_pos List.prefix_rfl]
  · rw [if_neg (Bool.eq_false_iff.mp hthere), hmoved,
      if_pos (placed_prefix_iff.mpr (List.prefix_append segs p)), placed_append, List.drop_left,
      ← placed_cons, (hsame _).2 b, h.file p b]
    exact ⟨fun h' => h'.2, fun h' => ⟨hall p b hp h', h'⟩⟩

end

/-- A complete download is published if nothing is in its place. -/
theorem wp_publish_alone (hs : Clean store w s) (hbase : s.node store.cacheDir = some .dir)
    (hn : w.isTemp name = true) (hk : w.Kept segs) (hopen : s.blocked (placed store segs) = false)
    {done : List FilePath} (hall : ∀ p b, p ≠ [] → w.Has (segs ++ p) b → p ∈ done)
    (h : Loaded store w ⟨name, segs, done⟩ s u) :
    (publish (placed store [name]) (placed store segs)).Wp (lone w faults)
      (fun r _ _ v => r = .ok () ∧ Around store w name v ∧ InPlace store w segs s v) () s₀ u := by
  have hkept : ∀ {p}, w.Kept p → u.node (placed store p) = s.node (placed store p) :=
    fun hp => h.off _ (not_prefix_kept hn hp)
  unfold publish
  refine wp_bind (wp_fsCall rfl fun y v hy => ?_)
  obtain ⟨rfl, rfl⟩ := hy
  show Wp _ (if _ then _ else _) _ _ _ _
  have hhas : v.has (placed store segs) = s.has (placed store segs) := by
    rw [FileTree.has, FileTree.has, hkept hk]
  split
  · -- what is there stays
    rename_i hthere
    rw [hhas] at hthere
    refine wp_ret ⟨rfl, around_of_off hs hbase h.off h.root, fun p b hp => ?_⟩
    rw [if_pos hthere, hkept (hk.below (List.prefix_append segs p))]
  rename_i hthere
  rw [hhas, Bool.not_eq_true] at hthere
  obtain ⟨d, a, hda⟩ := placed_concat store hk.ne
  have hd : (placed store segs).dropLast = d := by rw [hda, List.dropLast_concat]
  rw [hd]
  refine wp_bind (wp_mkdir rfl rfl (fun u' hmk => ?_) fun e he => ?_)
  swap
  · -- no file is in the way
    obtain ⟨q, hq, hf⟩ := v.blocked_iff.mp (FileTree.mkdir_error he).1
    have hqs : q <+: placed store segs := hq.trans (by rw [hda]; exact List.prefix_append d [a])
    rw [FileTree.isFile, h.off q fun hpre => not_prefix_kept hn hk (hpre.trans hqs), ← FileTree.isFile] at hf
    have hblocked := s.blocked_iff.mpr ⟨q, hqs, hf⟩
    rw [hopen] at hblocked
    cases hblocked
  obtain ⟨rfl, hfree⟩ := FileTree.mkdir_ok hmk
  refine wp_tryCatch (wp_fsCall rfl fun y t ht => ?_)
  rcases ht with ⟨d', a', hm, hda', rfl, rfl⟩ | ⟨hno, -⟩
  · obtain ⟨rfl, hlast⟩ := List.append_inj' (hda.symm.trans hda') rfl
    cases hlast
    exact ⟨rfl, h.moved hs hbase hn hk hall hda' hthere hfree hm⟩
  · exact absurd (h.movable hn hk hda hthere hfree) (hno d a hda)

/-! ### The download of a prefix -/

/-- What a download without faults ends with. -/
inductive Downloaded (store : TemplateStore) (w : CacheWorld) (x : String) (segs : FilePath) (s t : Files) :
    Except Exc Unit → Prop
  | unlisted (h : ¬ Listed w x) (message : String) :
      Downloaded store w x segs s t (.error (.docGen ⟨.templateNotFoundError, message⟩))
  | unfit (h : Listed w x) (hc : Unfit w segs) {e : TurnError} (he : firstError w x segs = some e)
      (p : FilePath) : Downloaded store w x segs s t (.error (e.exc p))
  | inPlace (h : Listed w x) (hc : ¬ Unfit w segs) (ht : InPlace store w segs s t) :
      Downloaded store w x segs s t (.ok ())

theorem listed_iff {pages : List (List String)} (h : pages.flatten = w.keysUnder x) :
    (pages.flatten.any fun k => Path.name k = manifestName) = true ↔ Listed w x := by
  simp [h, Listed]

/-- The cache root, made. -/
theorem Clean.addDirs (hs : Clean store w s) : Clean store w (s.addDirs store.cacheDir) where
  root := FileTree.not_blocked_of_dir (by rw [FileTree.node_addDirs, if_pos List.prefix_rfl])
  temps n hn := (node_addDirs_root (List.cons_ne_nil n [])).trans (hs.temps n hn)

/-- An empty temporary directory. -/
theorem loaded_mkdtemp (w : CacheWorld) (segs : FilePath) (hu : s.mkdirIn store.cacheDir name = .ok u) :
    Loaded store w ⟨name, segs, []⟩ s u := by
  obtain ⟨hfree, hnode⟩ := FileTree.mkdirIn_ok hu
  have hbelow : ∀ p, p ≠ [] → u.node (placed store (name :: p)) = none := by
    intro p hp
    rw [hnode, if_neg, placed_cons]
    · exact s.none_below p hfree
    · exact fun heq => hp (placed_cons_inj.mp heq)
  have hroot : u.node (placed store [name]) = some .dir := by
    rw [hnode]
    exact if_pos rfl
  refine ⟨fun q hq => ?_, hroot, rfl, by simp, fun p b => ?_, fun p hp => ?_⟩
  · rw [hnode, if_neg]
    rintro rfl
    exact hq List.prefix_rfl
  · rcases eq_or_ne p [] with rfl | hp
    · simp [hroot]
    · simp [hbelow p hp]
  · rcases eq_or_ne p [] with rfl | hne
    · exact Or.inl rfl
    · rw [hbelow p hne] at hp
      cases hp

theorem wp_downloadPrefix_alone (hkeys : ∀ o ∈ w.objects, WfObject o.1)
    (htemp : ∃ name, w.isTemp name = true) (hx : WfDir x segs) (hsegs : NulFree segs) (hk : w.Kept segs)
    (hs : Clean store w s) (hopen : Listed w x → s.blocked (placed store segs) = false) :
    (downloadPrefix store x (placed store segs)).Wp (lone w faults)
      (fun r _ _ t => Clean store w t ∧ (faults = false → Downloaded store w x segs s t r)) () s₀ s := by
  unfold downloadPrefix
  refine wp_bind (wp_tryCatch ?_)
  unfold listPrefix
  rw [bind_eq, inl_bind]
  refine wp_bind (wp_s3_alone fun z hz => ?_)
  cases z with
  | error exc =>
    rcases hz with ⟨hf, -⟩ | ⟨_, hz, -⟩
    · exact ⟨hs, fun hf' => absurd (hf.symm.trans hf') Bool.noConfusion⟩
    · cases hz
  | ok pages =>
    have hpages : pages.flatten = w.keysUnder x := by
      rcases hz with ⟨-, _, hz⟩ | ⟨_, hz, hpages⟩ <;> cases hz
      exact hpages
    show Wp _ (if _ then _ else _) _ _ _ _
    split
    · rename_i hno
      exact wp_raise ⟨hs, fun _ => .unlisted (fun hl => hno ((listed_iff hpages).mpr hl)) _⟩
    rename_i hlisted
    have hl : Listed w x := (listed_iff hpages).mp (not_not.mp hlisted)
    refine wp_bind (wp_mkdir rfl rfl (fun u hmk => ?_) fun e he => ?_)
    swap
    · have hblocked := (FileTree.mkdir_error he).1
      rw [hs.root] at hblocked
      cases hblocked
    obtain ⟨rfl, -⟩ := FileTree.mkdir_ok hmk
    have hs' := hs.addDirs
    have hbase : (s.addDirs store.cacheDir).node store.cacheDir = some .dir := by
      rw [FileTree.node_addDirs, if_pos List.prefix_rfl]
    refine wp_bind (wp_fsCall rfl fun y v hv => ?_)
    rcases hv with ⟨name, hn, hv, rfl⟩ | ⟨hno, -⟩
    swap
    · -- a name is free
      obtain ⟨name, hn⟩ := htemp
      obtain ⟨u, hu⟩ := FileTree.mkdirIn_free hbase (hs'.temps name hn)
      exact absurd hu (hno name hn u)
    have hload := loaded_mkdtemp w segs hv
    refine wp_tryFinally (wp_mono (Q := fun r _ _ v => Around store w name v ∧
      (faults = false →
        (Unfit w segs ∧ ∃ p e, r = .error (TurnError.exc p e) ∧ firstError w x segs = some e) ∨
        r = .ok () ∧ ¬ Unfit w segs ∧ InPlace store w segs (s.addDirs store.cacheDir) v)) ?_ ?_)
    · intro r _ _ v hv
      obtain ⟨ha, hr⟩ := hv
      refine wp_bind (wp_fsCall rfl fun z t hz => ?_)
      obtain ⟨rfl, rfl⟩ := hz
      refine wp_ofExcept ⟨ha.clean, fun hf => ?_⟩
      rcases hr hf with ⟨hc, p, e, rfl, he⟩ | ⟨rfl, hc, ht⟩
      · exact .unfit hl hc he p
      · exact .inPlace hl hc ((ht.of_addDirs hk.ne).rmtree hn hk ha)
    · rw [hpages]
      refine wp_bind (wp_mono (fun r _ _ v hr => ?_) (wp_downloadObjects hkeys hx hload))
      cases r with
      | error exc =>
        obtain ⟨hoff, hroot, hcause⟩ := hr
        refine ⟨around_of_off hs' hbase hoff hroot, fun hf => ?_⟩
        obtain ⟨hc, p, e, rfl, he⟩ := hcause hf
        exact Or.inl ⟨hc, p, e, rfl, he⟩
      | ok _ =>
        have hall : ∀ p b, p ≠ [] → w.Has (segs ++ p) b → p ∈ doneOf segs (w.keysUnder x) :=
          fun p b hp hb => mem_doneOf hx hp hb
        refine wp_mono (fun r _ _ v hv => ?_) (wp_publish_alone hs' hbase hn hk ?_ hall hr)
        · exact ⟨hv.2.1, fun _ => Or.inr ⟨hv.1, hr.fits hsegs hall, hv.2.2⟩⟩
        · rw [(FileTree.sameFiles_addDirs hs.root).blocked_eq]
          exact hopen hl

/-! ### The fetch -/

/-- No object is in the way of the directory of a prefix that has objects. -/
theorem CacheInv.open (hI : CacheInv store w s) (hs : Clean store w s) (hk : w.Kept segs) {p : FilePath}
    {b : Bytes} (hb : w.Has (segs ++ p) b) (hp : p ≠ []) : s.blocked (placed store segs) = false := by
  refine Bool.eq_false_iff.mpr fun hblocked => ?_
  obtain ⟨q, hq, hf⟩ := s.blocked_iff.mp hblocked
  rcases List.prefix_or_prefix_of_prefix hq (List.prefix_append store.cacheDir segs) with hqc | ⟨r, rfl⟩
  · have hroot := s.blocked_iff.mpr ⟨q, hqc, hf⟩
    rw [hs.root] at hroot
    cases hroot
  have hr : r ≠ [] := by
    rintro rfl
    rw [List.append_nil] at hf
    have hroot := s.blocked_iff.mpr ⟨_, List.prefix_rfl, hf⟩
    rw [hs.root] at hroot
    cases hroot
  obtain ⟨rest, hrest⟩ := placed_prefix_iff.mp hq
  have hkr : w.Kept r := by
    obtain ⟨seg, l, rfl, hseg⟩ := hk
    obtain ⟨seg', l', rfl⟩ := List.exists_cons_of_ne_nil hr
    obtain ⟨rfl, -⟩ := List.cons.inj hrest
    exact ⟨_, l', rfl, hseg⟩
  obtain ⟨c, hc⟩ := s.isFile_iff.mp hf
  obtain ⟨y, -, ⟨y', rfl⟩, hy⟩ := hI.complete r c hkr hc
  -- the object of the prefix would be below that file
  have hobj := hy.objects (y' ++ rest ++ p) b (List.append_ne_nil_of_right_ne_nil _ hp) (by
    rw [← hrest] at hb
    simpa only [List.append_assoc] using hb)
  have hbelow := s.dir_of_below (p := placed store (y ++ y')) (q := rest ++ p) (by
    rw [← placed_append, List.append_assoc, ← List.append_assoc y', hobj]
    exact Option.some_ne_none _) (List.append_ne_nil_of_right_ne_nil _ hp)
  rw [show s.node (placed store (y ++ y')) = some (.file c) from hc] at hbelow
  cases hbelow

/-- A prefix with a manifest of its own is listed. -/
theorem listed_of_manifest (hx : WfDir x segs) {content : Bytes}
    (h : w.Has (segs ++ [manifestName]) content) : Listed w x := by
  obtain ⟨key, hmem, -, hsplit⟩ := h
  have hpre : x.toList <+: key.toList := prefix_of_split hx.ne (List.cons_ne_nil _ []) hx.split_eq hsplit
  refine ⟨key, AnyBucket.mem_keysUnder.mpr ⟨⟨content, hmem⟩, hpre⟩, ?_⟩
  have hfilter : [manifestName].filter (fun seg => seg ≠ "" ∧ seg ≠ ".") = [manifestName] := by decide
  rw [Path.name, hsplit, List.filter_append, hfilter, List.getLast?_concat]
  rfl

/-- A template that a fetch into an empty cache serves. -/
structure Loadable (store : TemplateStore) (w : CacheWorld) (segs : FilePath) (manifest : Manifest) :
    Prop where
  fits : ¬ Unfit w segs
  valid : ∃ content, w.Has (segs ++ [manifestName]) content ∧
    store.modelValidateJson content = .ok manifest

theorem Loadable.nulFree {manifest : Manifest} (h : Loadable store w segs manifest) : NulFree segs := by
  obtain ⟨content, hhas, -⟩ := h.valid
  by_contra hnul
  exact h.fits (Or.inr ⟨_, content, List.cons_ne_nil _ _, hhas, fun h' => hnul (nulFree_append.mp h').1⟩)

/-- What a fetch without faults ends with, for a prefix that the system takes. -/
inductive Fetches (store : TemplateStore) (w : CacheWorld) (x : String) (segs : FilePath) (s t : Files) :
    Except Exc TemplateBundle → Prop
  | served {manifest : Manifest} (h : Loadable store w segs manifest)
      (hs : s.isFile (placed store segs ++ [manifestName]) = true ∨ s.has (placed store segs) = false)
      (ht : EntryComplete w x (placed store segs) t) :
      Fetches store w x segs s t (.ok ⟨manifest, placed store segs⟩)
  | notFound (hc : Listed w x → ¬ Unfit w segs)
      (h : ∀ manifest, Loadable store w segs manifest →
        s.isFile (placed store segs ++ [manifestName]) = false ∧ s.has (placed store segs) = true)
      (message : String) :
      Fetches store w x segs s t (.error (.docGen ⟨.templateNotFoundError, message⟩))
  | unfit (h : Listed w x) (hc : Unfit w segs) {e : TurnError} (he : firstError w x segs = some e)
      (p : FilePath) : Fetches store w x segs s t (.error (e.exc p))

theorem wp_loadManifest_alone {path : FilePath} {uri : String} {Q : Post Exc Files Unit Manifest}
    (hok : ∀ content manifest, s.node path = some (.file content) →
      store.modelValidateJson content = .ok manifest → Q (.ok manifest) () s₀ s)
    (herr : (∀ content manifest, s.node path = some (.file content) →
      store.modelValidateJson content ≠ .ok manifest) →
      ∀ message, Q (.error (.docGen ⟨.templateNotFoundError, message⟩)) () s₀ s) :
    (loadManifest store path uri).Wp (lone w faults) Q () s₀ s := by
  refine wp_loadManifest rfl (fun content u hy => ?_) fun exc u hy => ?_
  · obtain ⟨rfl, ⟨_, hnode, hc⟩ | ⟨-, _, hc⟩⟩ := w.fsAnswers_readBytes hy <;> cases hc
    refine ⟨fun manifest hvalid => hok content manifest hnode hvalid, fun message hvalid => ?_⟩
    refine herr (fun content' manifest hnode' hvalid' => ?_) _
    rw [hnode] at hnode'
    cases hnode'
    rw [hvalid] at hvalid'
    cases hvalid'
  · obtain ⟨rfl, ⟨_, -, hc⟩ | ⟨hnone, e, hc⟩⟩ := w.fsAnswers_readBytes hy <;> cases hc
    exact herr (fun content _ hnode _ => hnone content hnode) _

/-- What a fetch without faults that began with the files `s` ends with. -/
abbrev FetchEnds (store : TemplateStore) (w : CacheWorld) (x : String) (segs : FilePath) (faults : Bool)
    (s : Files) : Post Exc Files Unit TemplateBundle :=
  fun r _ _ t => Clean store w t ∧ (faults = false → Fetches store w x segs s t r)

/-- The end of a fetch whose manifest was there. -/
theorem wp_load_cached (hx : WfDir x segs) (hk : w.Kept segs) (hI : CacheInv store w s)
    (hs : Clean store w s) (hm : s.isFile (placed store segs ++ [manifestName]) = true) (uri : String) :
    ((loadManifest store (placed store segs ++ [manifestName]) uri).bind fun manifest =>
      .ret ⟨manifest, placed store segs⟩).Wp (lone w faults) (FetchEnds store w x segs faults s) () s₀ s := by
  have hkm : w.Kept (segs ++ [manifestName]) := hk.below (List.prefix_append _ _)
  have hobj : ∀ p b, p ≠ [] → w.Has (segs ++ p) b → s.node (placed store (segs ++ p)) = some (.file b) :=
    fun _ _ hp hb => hI.objects hk hm hp hb
  have hfits : ¬ Unfit w segs := by
    refine not_or.mpr ⟨not_conflict (u := s) (placed store segs) fun p b hp hb => ?_, ?_⟩
    · rw [← placed_append]
      exact hobj p b hp hb
    · rintro ⟨p, b, hp, hb, hnul⟩
      exact hnul (hI.object _ _ (hk.below (List.prefix_append segs p)) (hobj p b hp hb)).2
  refine wp_bind (wp_loadManifest_alone (fun content manifest hnode hvalid => ?_) fun hno message => ?_)
  · rw [← placed_append] at hnode
    have hhas := (hI.object _ _ hkm hnode).1
    exact ⟨hs, fun _ => .served ⟨hfits, content, hhas, hvalid⟩ (Or.inl hm) (hI.entry hx hk hm)⟩
  · refine ⟨hs, fun _ => .notFound (fun _ => hfits) (fun manifest hload => ?_) message⟩
    obtain ⟨content, hhas, hvalid⟩ := hload.valid
    refine absurd hvalid (hno content manifest ?_)
    rw [← placed_append]
    exact hobj _ _ (List.cons_ne_nil _ []) hhas

/-- The end of a fetch past its download. -/
theorem wp_load_downloaded {t : Files} (hx : WfDir x segs) (hct : Clean store w t)
    (hm : s.isFile (placed store segs ++ [manifestName]) = false)
    (hr : faults = false → Downloaded store w x segs s t (.ok ())) (uri : String) :
    ((loadManifest store (placed store segs ++ [manifestName]) uri).bind fun manifest =>
      .ret ⟨manifest, placed store segs⟩).Wp (lone w faults) (FetchEnds store w x segs faults s) () s₀ t := by
  refine wp_bind (wp_loadManifest_alone (fun content manifest hnode hvalid => ?_) fun hno message => ?_)
  · refine ⟨hct, fun hf => ?_⟩
    cases hr hf with
    | inPlace hl hc ht =>
      rw [← placed_append] at hnode
      have hplace := (ht _ content (List.cons_ne_nil manifestName [])).mp hnode
      split at hplace
      · rw [placed_append] at hplace
        rw [s.isFile_iff.mpr ⟨content, hplace⟩] at hm
        cases hm
      · rename_i hhas
        refine .served ⟨hc, content, hplace, hvalid⟩ (Or.inr (Bool.eq_false_iff.mpr hhas)) ?_
        refine entryComplete_of_objects hx fun p b hp hb => (ht p b hp).mpr ?_
        rwa [if_neg hhas]
  · refine ⟨hct, fun hf => ?_⟩
    cases hr hf with
    | inPlace hl hc ht =>
      refine .notFound (fun _ => hc) (fun manifest hload => ⟨hm, ?_⟩) message
      obtain ⟨content, hhas, hvalid⟩ := hload.valid
      by_contra hthere
      refine hno content manifest ?_ hvalid
      rw [← placed_append]
      refine (ht _ content (List.cons_ne_nil manifestName [])).mpr ?_
      rwa [if_neg hthere]

/-- A prefix with a NUL character is refused. -/
theorem fetchPrefix_nul (hx : WfDir x segs) (hsegs : ¬ NulFree segs) (uri : String) :
    fetchPrefix store uri x = .raise (.valueError "embedded null byte") := by
  have hnul : nul ∈ x.toList := by
    by_contra h
    exact hsegs (hx.nulFree.mpr h)
  rw [fetchPrefix, localDirFor, resolvePath_nul hnul]
  rfl

theorem wp_fetchPrefix_alone (hkeys : ∀ o ∈ w.objects, WfObject o.1)
    (htemp : ∃ name, w.isTemp name = true) (hx : WfDir x segs) (hsegs : NulFree segs) (hk : w.Kept segs)
    (hI : CacheInv store w s) (hs : Clean store w s) (uri : String) :
    (fetchPrefix store uri x).Wp (lone w faults)
      (fun r _ _ t => Clean store w t ∧ (faults = false → Fetches store w x segs s t r)) () s₀ s := by
  have hopen : Listed w x → s.blocked (placed store segs) = false := by
    rintro ⟨key, hkey, -⟩
    obtain ⟨⟨b, hb⟩, hpre⟩ := AnyBucket.mem_keysUnder.mp hkey
    obtain ⟨p, hp, -, hsplit, -⟩ := (hkeys _ hb).rel hx hpre
    exact hI.open hs hk ⟨key, hb, hkeys (key, b) hb, hsplit⟩ hp
  have hdir : localDirFor store x = .ok (placed store segs) := hx.localDir_ok.mpr ⟨hsegs, rfl⟩
  unfold fetchPrefix
  rw [hdir]
  show Wp _ ((ensureCached store x (placed store segs)).bind fun _ => _) _ _ _ _
  refine wp_bind ?_
  unfold ensureCached
  refine wp_bind (wp_fsCall rfl fun y u hy => ?_)
  obtain ⟨rfl, rfl⟩ := hy
  show Wp _ (if _ then _ else _) _ _ _ _
  split
  · rename_i hm
    exact wp_ret (wp_load_cached hx hk hI hs hm uri)
  rename_i hm
  rw [Bool.not_eq_true] at hm
  refine wp_mono (fun r _ _ t hr => ?_) (wp_downloadPrefix_alone hkeys htemp hx hsegs hk hs hopen)
  obtain ⟨hct, hr⟩ := hr
  cases r with
  | error exc =>
    refine ⟨hct, fun hf => ?_⟩
    cases hr hf with
    | unlisted hl message =>
      refine .notFound (fun hl' => absurd hl' hl) (fun manifest hload => ?_) message
      obtain ⟨content, hhas, -⟩ := hload.valid
      exact absurd (listed_of_manifest hx hhas) hl
    | unfit hl hc he p => exact .unfit hl hc he p
  | ok _ => exact wp_load_downloaded hx hct hm hr uri

end DocGen
