/-
# A fetch that fails

A fetch over a cache in any state, from a bucket with any keys, in which any
request of S3 and any call on the file system but the clean-up may fail. It
works in a temporary directory that goes in the end, so that a fetch that
raises leaves the files as they were, unless it has published its download and
fails after that, when it loads the manifest. The two checks differ: before the
download some key has to have the name of a manifest, and after it the manifest
has to be at the root, and valid (`failed_fetch_iff`).
-/
import DocGen.CacheFetch
import DocGen.Lib.Writes

namespace DocGen

open Prog DocGen.Path

/-! ### The faults -/

/-- What may fail: the requests of S3, and these calls on the file system. -/
structure Faults where
  s3 : Bool
  fs : FsOp → Bool

namespace AnyBucket

variable (b : AnyBucket) (f : Faults)

/-- Where a call on the file system that fails leaves the files. -/
def Partly : FsOp → Files → Files → Prop
  | .mkdir p, s, t => t = s ∨ ∃ q, q <+: p ∧ s.mkdir q = .ok t
  | .writeBytes p _, s, t => t = s ∨ ∃ content, s.write p content = .ok t
  | .rmtree _, _, _ => False
  | _, s, t => t = s

/-- The calls of the store, of which these may fail. -/
def sem : Sem storeSig Exc Files
  | .inl op, s, x, t => b.s3Answer f.s3 op x ∧ t = s
  | .inr op, s, x, t =>
    b.fsAnswers op s x t ∨ f.fs op = true ∧ (∃ n message, x = .error (.osError n message)) ∧ Partly op s t

end AnyBucket

/-! ### What a fetch downloads -/

section

variable (store : TemplateStore) (b : AnyBucket) (f : Faults)

/-- The files that the turns of the download write for the keys, in order. -/
def downloads (tmpDir : FilePath) (x : String) (keys : List String) : List (FilePath × Bytes) :=
  keys.filterMap fun key =>
    if relKey x key = "" ∨ key.toList.getLast? = some '/' then none
    else (b.objects.lookup key).map fun content => (join tmpDir (relKey x key), content)

/-- The files of a whole download. -/
def download (tmpDir : FilePath) (x : String) : List (FilePath × Bytes) :=
  downloads b tmpDir x (b.keysUnder x)

/-- A download of the prefix into the temporary directory can be moved to
`dir`: nothing is there, some key has the name of a manifest, every path
resolves, no file is outside the temporary directory or in the way of another,
and no file of the cache is in the way of a directory. -/
structure Publishes (s : Files) (x : String) (dir : FilePath) (name : String) : Prop where
  temp : b.isTemp name = true
  free : s.node (placed store [name]) = none
  root : s.blocked store.cacheDir = false
  listed : ∃ key ∈ b.keysUnder x, Path.name key = manifestName
  resolved : ∀ key ∈ b.keysUnder x, ¬ Unresolved x key
  below : ∀ d ∈ download b (placed store [name]) x, Below (placed store [name]) d.1
  fits : ∀ d ∈ download b (placed store [name]) x, ∀ d' ∈ download b (placed store [name]) x,
    d.1 <+: d'.1 → d.1 = d'.1
  ne : dir ≠ store.cacheDir
  absent : s.node dir = none
  clear : s.blocked dir = false
  apart : ¬ placed store [name] <+: dir

/-- The manifest at the root of the download does not load. -/
def Unloadable (x : String) (dir : FilePath) (name : String) : Prop :=
  f.fs (.readBytes (dir ++ [manifestName])) = true ∨
    ∀ content, lastAt (download b (placed store [name]) x) (placed store [name] ++ [manifestName]) =
      some content → ∀ manifest, store.modelValidateJson content ≠ .ok manifest

/-- The fetch of the URI can publish files whose manifest does not load. -/
def LeavesEntry (uri : String) (s : Files) : Prop :=
  ∃ x dir name, parseS3Uri uri = .ok (store.bucket, x) ∧ x ≠ "" ∧ localDirFor store x = .ok dir ∧
    Publishes store b s x dir name ∧ download b (placed store [name]) x ≠ [] ∧
    Unloadable store b f x dir name

end

section

variable {store : TemplateStore} {b : AnyBucket} {f : Faults} {x name uri : String} {dir tmp : FilePath}
  {ds : List (FilePath × Bytes)} {s₀ s u v t : Files}

/-- A fetch that no other comes between. -/
abbrev faulty (b : AnyBucket) (f : Faults) : Coop storeSig Exc Files Unit := Coop.alone (b.sem f)

/-! ### What the calls answer -/

theorem wp_s3_faulty {op : S3Op} {key : String} {Q : Post Exc Files Unit (S3Op.Res op)}
    (h : ∀ y, b.s3Answer f.s3 op y → Q (y.mapError (storageError key)) () s₀ s) :
    (s3Request op key).inl.Wp (faulty b f) Q () s₀ s := by
  refine wp_sync rfl fun y u hy => ?_
  obtain ⟨hy, rfl⟩ := hy
  cases y with
  | ok a => exact h _ hy
  | error e => exact h _ hy

/-- Where a directory may be made, the files are the same after it. -/
theorem answer_mkdir_same {p : FilePath} {y : Except Exc Unit} (h : b.sem f (.inr (.mkdir p)) s y u) :
    s.SameFiles u ∧ ∀ a, y = .ok a → s.mkdir p = .ok u := by
  rcases h with h | ⟨-, ⟨n, message, rfl⟩, rfl | ⟨q, -, hq⟩⟩
  · rcases fsAnswer_cases h with ⟨hu, -⟩ | ⟨e, -, rfl, rfl⟩
    · exact ⟨FileTree.sameFiles_mkdir hu, fun _ _ => hu⟩
    · exact ⟨FileTree.SameFiles.refl u, fun _ hy => by cases hy⟩
  · exact ⟨FileTree.SameFiles.refl u, fun _ hy => by cases hy⟩
  · exact ⟨FileTree.sameFiles_mkdir hq, fun _ hy => by cases hy⟩

theorem answer_write {p : FilePath} {content : Bytes} {y : Except Exc Unit}
    (h : b.sem f (.inr (.writeBytes p content)) s y u) :
    (y = .ok () ∧ s.write p content = .ok u) ∨
      ((∃ exc, y = .error exc) ∧ (u = s ∨ ∃ c, s.write p c = .ok u)) := by
  rcases h with h | ⟨-, ⟨n, message, rfl⟩, h⟩
  · rcases fsAnswer_cases h with ⟨hw, rfl⟩ | ⟨e, -, rfl, rfl⟩
    · exact Or.inl ⟨rfl, hw⟩
    · exact Or.inr ⟨⟨_, rfl⟩, Or.inl rfl⟩
  · exact Or.inr ⟨⟨_, rfl⟩, h⟩

/-! ### The temporary directory -/

/-- The temporary directory is there, and outside it the files are those of
`s`. -/
structure Inside (tmp : FilePath) (s u : Files) : Prop where
  dir : u.node tmp = some .dir
  off : ∀ q, ¬ tmp <+: q → (s.node q = some .dir → u.node q = some .dir) ∧
    ∀ c, u.node q = some (.file c) ↔ s.node q = some (.file c)

/-- It holds the files `ds` and the directories above them, and nothing else
has changed. -/
structure Filled (tmp : FilePath) (s : Files) (ds : List (FilePath × Bytes)) (u : Files) : Prop
    extends Inside tmp s u where
  agree : ∀ q, ¬ tmp <+: q → u.node q = s.node q
  below : ∀ d ∈ ds, Below tmp d.1
  file : ∀ p c, tmp <+: p → (u.node p = some (.file c) ↔ lastAt ds p = some c)
  dirs : ∀ p, Below tmp p → u.node p = some .dir → ∃ d ∈ ds, p <+: d.1 ∧ p ≠ d.1

theorem Inside.same (h : Inside tmp s u) (hv : u.SameFiles v) : Inside tmp s v where
  dir := (hv tmp).1 h.dir
  off q hq := ⟨fun hd => (hv q).1 ((h.off q hq).1 hd), fun c => ((hv q).2 c).trans ((h.off q hq).2 c)⟩

theorem Inside.write (h : Inside tmp s u) {p : FilePath} {c : Bytes} (hp : tmp <+: p)
    (hv : u.write p c = .ok v) : Inside tmp s v := by
  obtain ⟨hnot, hnode⟩ := FileTree.write_ok hv
  refine ⟨?_, fun q hq => ?_⟩
  · rw [hnode, if_neg]
    · exact h.dir
    · rintro rfl
      exact hnot h.dir
  · rw [hnode, if_neg]
    · exact h.off q hq
    · rintro rfl
      exact hq hp

theorem inside_of_agree (hdir : u.node tmp = some .dir) (h : ∀ q, ¬ tmp <+: q → u.node q = s.node q) :
    Inside tmp s u where
  dir := hdir
  off q hq := by
    rw [h q hq]
    exact ⟨id, fun _ => Iff.rfl⟩

/-- Made where nothing was, it is empty. -/
theorem filled_mkdtemp {d : FilePath} {a : String} (hv : s.mkdirIn d a = .ok v) :
    Filled (d ++ [a]) s [] v := by
  obtain ⟨hfree, hnode⟩ := FileTree.mkdirIn_ok hv
  have hnone : ∀ p, Below (d ++ [a]) p → v.node p = none := by
    rintro p ⟨⟨r, rfl⟩, hne⟩
    rw [hnode, if_neg (Ne.symm hne)]
    exact s.none_below r hfree
  have hdir : v.node (d ++ [a]) = some .dir := by rw [hnode, if_pos rfl]
  have hagree : ∀ q, ¬ d ++ [a] <+: q → v.node q = s.node q := by
    intro q hq
    rw [hnode, if_neg]
    rintro rfl
    exact hq List.prefix_rfl
  refine ⟨inside_of_agree hdir hagree, hagree, List.forall_mem_nil _, fun p c hp => ?_, fun p hp hd => ?_⟩
  · refine iff_of_false (fun hc => ?_) (Option.some_ne_none c ∘ Eq.symm)
    by_cases hne : d ++ [a] = p
    · rw [← hne, hdir] at hc
      cases hc
    · rw [hnone p ⟨hp, hne⟩] at hc
      cases hc
  · rw [hnone p hp] at hd
    cases hd

/-- It goes, and the files are those of `s`. -/
theorem Inside.rmtree (h : Inside tmp s u) (hne : tmp ≠ []) (hfree : s.node tmp = none) :
    s.SameFiles (u.rmtree tmp) := by
  intro q
  rw [FileTree.node_rmtree_of hne (by rw [FileTree.isFile, h.dir])]
  by_cases hq : tmp <+: q
  · obtain ⟨r, rfl⟩ := hq
    rw [if_pos (List.prefix_append tmp r), s.none_below r hfree]
    exact ⟨id, fun _ => Iff.rfl⟩
  · rw [if_neg hq]
    exact h.off q hq

/-- The parent of a path below a directory is at or below it. -/
theorem Path.Below.parent {p : FilePath} (h : Below tmp p) : tmp <+: p.dropLast := by
  obtain ⟨⟨r, rfl⟩, hne⟩ := h
  have hr : r ≠ [] := by
    rintro rfl
    exact hne (List.append_nil tmp).symm
  rw [List.dropLast_append_of_ne_nil hr]
  exact List.prefix_append tmp r.dropLast

theorem Filled.mem (h : Filled tmp s ds u) {p : FilePath} {c : Bytes} (hp : tmp <+: p)
    (hc : u.node p = some (.file c)) : (p, c) ∈ ds := by
  obtain ⟨l, r, hds, -⟩ := lastAt_eq_some.mp ((h.file p c hp).mp hc)
  rw [hds]
  simp

/-- A file is written, below directories that were made for it. -/
theorem Filled.write (h : Filled tmp s ds u) {p : FilePath} {c : Bytes} (hp : Below tmp p)
    (hmk : u.mkdir p.dropLast = .ok v) (hw : v.write p c = .ok t) :
    Filled tmp s (ds ++ [(p, c)]) t := by
  have hsame := FileTree.sameFiles_mkdir hmk
  obtain ⟨rfl, -⟩ := FileTree.mkdir_ok hmk
  obtain ⟨hnot, hnode⟩ := FileTree.write_ok hw
  have hagree : ∀ q, ¬ tmp <+: q → t.node q = s.node q := by
    intro q hq
    obtain ⟨r, hr⟩ := hp.parent
    rw [hnode, if_neg, ← hr, FileTree.node_addDirs_off h.dir hq, h.agree q hq]
    rintro rfl
    exact hq hp.1
  refine ⟨(h.toInside.same hsame).write hp.1 hw, hagree, fun d hd => ?_, fun q c' hq => ?_,
    fun q hq hd => ?_⟩
  · rcases List.mem_append.mp hd with hd | hd
    · exact h.below d hd
    · rw [List.mem_singleton.mp hd]
      exact hp
  · rw [hnode, lastAt_append]
    by_cases hqp : q = p
    · rw [if_pos hqp, hqp]
      simp [lastAt]
    · rw [if_neg hqp, (hsame q).2, h.file q c' hq]
      simp [lastAt, Ne.symm hqp]
  · rw [hnode] at hd
    split at hd
    · cases hd
    · rename_i hqp
      rw [FileTree.node_addDirs] at hd
      split at hd
      · rename_i hpre
        exact ⟨(p, c), by simp, hpre.trans (List.dropLast_prefix p), hqp⟩
      · obtain ⟨d, hmem, hd⟩ := h.dirs q hq hd
        exact ⟨d, List.mem_append_left _ hmem, hd⟩

/-! ### The download loop -/

theorem downloads_concat (keys : List String) (key : String) :
    downloads b tmp x (keys ++ [key]) = downloads b tmp x keys ++ downloads b tmp x [key] :=
  List.filterMap_append

/-- The turns for the keys are over. -/
structure Turned (b : AnyBucket) (x : String) (tmp : FilePath) (s : Files) (keys : List String) (u : Files) :
    Prop where
  filled : Filled tmp s (downloads b tmp x keys) u
  resolved : ∀ key ∈ keys, ¬ Unresolved x key

theorem Turned.concat {keys : List String} {key : String} (h : Turned b x tmp s keys u)
    (hv : Filled tmp s (downloads b tmp x keys ++ downloads b tmp x [key]) v) (hkey : ¬ Unresolved x key) :
    Turned b x tmp s (keys ++ [key]) v where
  filled := by rwa [downloads_concat]
  resolved := List.forall_mem_append.mpr ⟨h.resolved, List.forall_mem_singleton.mpr hkey⟩

/-- One turn. -/
theorem wp_downloadObject_faulty {keys : List String} {key : String} (hturned : Turned b x tmp s keys u) :
    (downloadObject store x tmp key).Wp (faulty b f)
      (Post.either (fun _ _ v => Turned b x tmp s (keys ++ [key]) v) fun _ _ _ v => Inside tmp s v) () s₀ u := by
  have h := hturned.filled
  unfold downloadObject
  simp only
  split
  · rename_i hskip
    exact wp_ret (hturned.concat (by simpa [downloads, hskip] using h) fun hun => hun.1 hskip)
  rename_i hkey
  by_cases hnul : nul ∈ (relKey x key).toList
  · rw [resolvePath_nul hnul]
    exact wp_raise h.toInside
  have hresolved : ¬ Unresolved x key := fun hun => hnul hun.2
  rw [resolvePath_plain hnul]
  show Wp _ (if _ then _ else _) _ _ _ _
  split
  · exact wp_raise h.toInside
  rename_i hbelow
  rw [not_not] at hbelow
  refine wp_bind (wp_fsCall rfl fun y v hy => ?_)
  obtain ⟨hsame, hmk⟩ := answer_mkdir_same hy
  cases y with
  | error exc => exact h.toInside.same hsame
  | ok _ =>
    refine wp_tryCatch (wp_bind (wp_s3_faulty fun z hz => ?_))
    cases z with
    | error exc => exact h.toInside.same hsame
    | ok content =>
      have hlookup : b.objects.lookup key = some content := by
        rcases hz with ⟨-, _, hz⟩ | ⟨_, hmem, hz⟩ | ⟨-, _, hz⟩
        · cases hz
        · cases hz
          exact AnyBucket.lookup_eq_some.mpr hmem
        · cases hz
      have hone : downloads b tmp x [key] = [(join tmp (relKey x key), content)] := by
        simp [downloads, hkey, hlookup]
      refine wp_fsCall rfl fun y w hy => ?_
      rcases answer_write hy with ⟨rfl, hw⟩ | ⟨⟨exc, rfl⟩, rfl | ⟨c, hw⟩⟩
      · refine hturned.concat ?_ hresolved
        rw [hone]
        exact h.write hbelow (hmk _ rfl) hw
      · exact h.toInside.same hsame
      · exact (h.toInside.same hsame).write hbelow.1 hw

theorem wp_downloadObjects_faulty (keys : List String) (h : Filled tmp s [] u) :
    (forEach (downloadObject store x tmp) keys).Wp (faulty b f)
      (Post.either (fun _ _ v => Turned b x tmp s keys v) fun _ _ _ v => Inside tmp s v) () s₀ u :=
  wp_forEach (fun l _ _ v => Turned b x tmp s l v) _
    (fun _ _ _ _ _ _ _ hv => wp_downloadObject_faulty hv) ⟨h, List.forall_mem_nil _⟩

/-! ### The publication -/

/-- The files `ds` are moved from the temporary directory to `dir`. -/
structure Moved (tmp dir : FilePath) (s : Files) (ds : List (FilePath × Bytes)) (t : Files) : Prop where
  gone : t.node tmp = none
  file : ∀ p c, t.node (dir ++ p) = some (.file c) ↔ lastAt ds (tmp ++ p) = some c
  same : ds = [] → s.SameFiles t

/-- The move is possible. -/
structure CanMove (tmp dir : FilePath) (s : Files) (ds : List (FilePath × Bytes)) : Prop where
  below : ∀ d ∈ ds, Below tmp d.1
  fits : ∀ d ∈ ds, ∀ d' ∈ ds, d.1 <+: d'.1 → d.1 = d'.1
  absent : s.node dir = none
  clear : s.blocked dir = false
  apart : ¬ tmp <+: dir

theorem lastAt_of_mem {κ ξ : Type} [DecidableEq κ] {ws : List (κ × ξ)} {k : κ} {y : ξ} (h : (k, y) ∈ ws) :
    ∃ z, lastAt ws k = some z := by
  rcases hl : lastAt ws k with _ | z
  · exact absurd rfl (lastAt_eq_none.mp hl _ h)
  · exact ⟨z, rfl⟩

/-- No downloaded file is in the way of another. -/
theorem Filled.fits (h : Filled tmp s ds u) : ∀ d ∈ ds, ∀ d' ∈ ds, d.1 <+: d'.1 → d.1 = d'.1 := by
  intro d hd d' hd' hpre
  obtain ⟨c, hc⟩ := lastAt_of_mem hd
  obtain ⟨c', hc'⟩ := lastAt_of_mem hd'
  have hfile := (h.file _ c (h.below d hd).1).mpr hc
  have hfile' := (h.file _ c' (h.below d' hd').1).mpr hc'
  obtain ⟨r, hr⟩ := hpre
  by_contra hne
  have hdir := u.dir_of_below (p := d.1) (q := r) (by rw [hr, hfile']; exact Option.some_ne_none _) (by
    rintro rfl
    exact hne (by rw [← hr, List.append_nil]))
  rw [hfile] at hdir
  cases hdir

/-- The download is moved. -/
theorem Filled.move (h : Filled tmp s ds u) (hfree : s.node tmp = none) {d : FilePath} {a : String}
    (habsent : u.has (d ++ [a]) = false) (hmk : u.mkdir d = .ok v) (hm : v.Movable tmp d a) :
    Moved tmp (d ++ [a]) s ds (v.move hm) ∧ CanMove tmp (d ++ [a]) s ds := by
  have hsame := FileTree.sameFiles_mkdir hmk
  obtain ⟨-, hclear⟩ := FileTree.mkdir_ok hmk
  have hv := h.toInside.same hsame
  have hnone : u.node (d ++ [a]) = none := by simpa [FileTree.has] using habsent
  have hoff := h.off (d ++ [a]) hm.apart
  have hs : s.node (d ++ [a]) = none := by
    rcases hn : s.node (d ++ [a]) with _ | ⟨c⟩ | _
    · rfl
    · rw [(hoff.2 c).mpr hn] at hnone
      cases hnone
    · rw [hoff.1 hn] at hnone
      cases hnone
  refine ⟨⟨?_, fun p c => ?_, fun hds q => ?_⟩, h.below, h.fits, hs, ?_, hm.apart⟩
  · rw [FileTree.node_move, if_neg, if_pos List.prefix_rfl]
    rintro ⟨r, hr⟩
    have := h.dir
    rw [← hr, u.none_below r hnone] at this
    cases this
  · rw [FileTree.node_move, if_pos (List.prefix_append _ p), List.drop_left, (hsame _).2,
      h.file _ c (List.prefix_append tmp p)]
  · rw [FileTree.node_move]
    split
    · rename_i hq
      obtain ⟨r, rfl⟩ := hq
      rw [s.none_below r hs, List.drop_left]
      refine ⟨(fun hd => by cases hd), fun c => iff_of_false (fun hc => ?_) (by simp)⟩
      rw [(hsame _).2, h.file _ c (List.prefix_append tmp r), hds] at hc
      cases hc
    split
    · rename_i hq
      obtain ⟨r, rfl⟩ := hq
      rw [s.none_below r hfree]
      exact ⟨id, fun _ => Iff.rfl⟩
    · rename_i hq
      exact hv.off q hq
  · refine Bool.eq_false_iff.mpr fun hb => ?_
    obtain ⟨q, hq, hf⟩ := s.blocked_iff.mp hb
    obtain ⟨c, hc⟩ := s.isFile_iff.mp hf
    rcases List.prefix_concat_iff.mp hq with rfl | hqd
    · rw [hs] at hc
      cases hc
    · have hq' : ¬ tmp <+: q := fun h' => hm.apart (h'.trans hq)
      have hblocked := u.blocked_iff.mpr ⟨q, hqd, u.isFile_iff.mpr ⟨c, ((h.off q hq').2 c).mpr hc⟩⟩
      rw [hclear] at hblocked
      cases hblocked

/-- What is left of a fetch past its download: the temporary directory, or the
files where they were moved. -/
def Left (tmp dir : FilePath) (s : Files) (ds : List (FilePath × Bytes)) (r : Except Exc Unit) (u : Files) :
    Prop :=
  Inside tmp s u ∨ r = .ok () ∧ Moved tmp dir s ds u ∧ CanMove tmp dir s ds

theorem answer_exists {p : FilePath} {y : Except Exc Bool} (h : b.sem f (.inr (.exists p)) s y u) :
    u = s ∧ ∀ a, y = .ok a → a = s.has p := by
  rcases h with ⟨rfl, rfl⟩ | ⟨-, ⟨n, message, rfl⟩, rfl⟩
  · exact ⟨rfl, fun _ h => (Except.ok.inj h).symm⟩
  · exact ⟨rfl, fun _ h => by cases h⟩

theorem wp_publish_faulty (hfree : s.node tmp = none) (h : Filled tmp s ds u) :
    (publish tmp dir).Wp (faulty b f) (fun r _ _ v => Left tmp dir s ds r v) () s₀ u := by
  unfold publish
  refine wp_bind (wp_fsCall rfl fun y v hy => ?_)
  obtain ⟨rfl, hthere⟩ := answer_exists hy
  cases y with
  | error exc => exact Or.inl h.toInside
  | ok there =>
    obtain rfl := hthere _ rfl
    show Wp _ (if _ then _ else _) _ _ _ _
    split
    · exact wp_ret (Or.inl h.toInside)
    rename_i habsent
    rw [Bool.not_eq_true] at habsent
    refine wp_bind (wp_fsCall rfl fun y w hy => ?_)
    obtain ⟨hsame, hmk⟩ := answer_mkdir_same hy
    have hin := h.toInside.same hsame
    cases y with
    | error exc => exact Or.inl hin
    | ok _ =>
      refine wp_tryCatch (wp_fsCall rfl fun y t hy => ?_)
      rcases hy with (⟨d, a, hm, rfl, rfl, rfl⟩ | ⟨-, rfl, n, message, rfl⟩) | ⟨-, ⟨n, message, rfl⟩, rfl⟩
      · obtain hmk := hmk _ rfl
        rw [List.dropLast_concat] at hmk
        exact Or.inr ⟨rfl, h.move hfree habsent hmk hm⟩
      all_goals
        -- the move has failed
        show Wp _ (if _ then _ else _) _ _ _ _
        split
        · refine wp_bind (wp_fsCall rfl fun y t' hy => ?_)
          obtain ⟨rfl, -⟩ := answer_exists hy
          cases y with
          | error exc => exact Or.inl hin
          | ok there => cases there <;> exact Or.inl hin
        · exact wp_raise (Or.inl hin)

/-! ### The fetch -/

/-- The cache after a download: the files are the same, or those of a download
have been published. -/
def AfterDownload (store : TemplateStore) (b : AnyBucket) (x : String) (dir : FilePath) (s t : Files) :
    Prop :=
  s.SameFiles t ∨ ∃ name, Publishes store b s x dir name ∧ download b (placed store [name]) x ≠ [] ∧
    ∀ c, t.node (dir ++ [manifestName]) = some (.file c) ↔
      lastAt (download b (placed store [name]) x) (placed store [name] ++ [manifestName]) = some c

/-- The temporary directory goes. -/
theorem Left.rmtree {r : Except Exc Unit} (h : Left tmp dir s ds r u) (hne : tmp ≠ [])
    (hfree : s.node tmp = none) : s.SameFiles (u.rmtree tmp) ∨
      r = .ok () ∧ ds ≠ [] ∧ Moved tmp dir s ds (u.rmtree tmp) ∧ CanMove tmp dir s ds := by
  rcases h with h | ⟨rfl, hm, hc⟩
  · exact Or.inl (h.rmtree hne hfree)
  · rw [FileTree.rmtree_none hm.gone]
    by_cases hds : ds = []
    · exact Or.inl (hm.same hds)
    · exact Or.inr ⟨rfl, hds, hm, hc⟩

theorem CanMove.publishes {s₁ : Files}
    (h : CanMove (placed store [name]) dir s₁ (download b (placed store [name]) x))
    (hsame : s.SameFiles s₁) (hbase : s₁.node store.cacheDir = some .dir)
    (hroot : s.blocked store.cacheDir = false) (hn : b.isTemp name = true)
    (hfree : s₁.node (placed store [name]) = none)
    (hlisted : ∃ key ∈ b.keysUnder x, Path.name key = manifestName)
    (hresolved : ∀ key ∈ b.keysUnder x, ¬ Unresolved x key) : Publishes store b s x dir name where
  temp := hn
  free := hsame.none hfree
  root := hroot
  listed := hlisted
  resolved := hresolved
  below := h.below
  fits := h.fits
  ne := by
    rintro rfl
    rw [h.absent] at hbase
    cases hbase
  absent := hsame.none h.absent
  clear := (hsame.blocked_eq dir).symm.trans h.clear
  apart := h.apart

theorem wp_downloadPrefix_faulty :
    (downloadPrefix store x dir).Wp (faulty b f)
      (Post.either (fun _ _ t => AfterDownload store b x dir s t) fun _ _ _ t => s.SameFiles t) () s₀ s := by
  have hrefl : s.SameFiles s := FileTree.SameFiles.refl s
  unfold downloadPrefix
  refine wp_bind (wp_tryCatch ?_)
  unfold listPrefix
  rw [bind_eq, inl_bind]
  refine wp_bind (wp_s3_faulty fun z hz => ?_)
  cases z with
  | error exc => exact hrefl
  | ok pages =>
    have hpages : pages.flatten = b.keysUnder x := by
      rcases hz with ⟨-, _, hz⟩ | ⟨_, hz, hpages⟩ <;> cases hz
      exact hpages
    show Wp _ (if _ then _ else _) _ _ _ _
    split
    · exact wp_raise hrefl
    rename_i hlisted
    rw [not_not] at hlisted
    refine wp_bind (wp_fsCall rfl fun y s₁ hy => ?_)
    obtain ⟨hsame, hmk⟩ := answer_mkdir_same hy
    cases y with
    | error exc => exact hsame
    | ok _ =>
      obtain ⟨hs₁, hroot⟩ := FileTree.mkdir_ok (hmk _ rfl)
      have hbase : s₁.node store.cacheDir = some .dir := by
        rw [hs₁, FileTree.node_addDirs, if_pos List.prefix_rfl]
      refine wp_bind (wp_fsCall rfl fun y u hy => ?_)
      rcases hy with (⟨name, hn, hu, rfl⟩ | ⟨-, rfl, n, message, rfl⟩) | ⟨-, ⟨n, message, rfl⟩, rfl⟩
      rotate_left
      · exact hsame
      · exact hsame
      obtain ⟨hfree, -⟩ := FileTree.mkdirIn_ok hu
      have hfill : Filled (placed store [name]) s₁ [] u := filled_mkdtemp hu
      refine wp_tryFinally (wp_mono (Q := fun r _ _ v =>
        Left (placed store [name]) dir s₁ (download b (placed store [name]) x) r v ∧
          (r = .ok () → ∀ key ∈ b.keysUnder x, ¬ Unresolved x key)) ?_ ?_)
      · intro r _ _ v hv
        refine wp_bind (wp_fsCall rfl fun z t hz => ?_)
        rcases hz with ⟨rfl, rfl⟩ | ⟨-, -, hz⟩
        swap
        · cases hz
        refine wp_ofExcept ?_
        rcases hv.1.rmtree (placed_ne_nil (List.cons_ne_nil name [])) hfree with hst | ⟨rfl, hds, hm, hc⟩
        · cases r with
          | error exc => exact hsame.trans hst
          | ok _ => exact Or.inl (hsame.trans hst)
        · refine Or.inr ⟨name, hc.publishes hsame hbase hroot hn hfree ?_ (hv.2 rfl), hds, fun c => hm.file _ c⟩
          simpa [hpages] using hlisted
      · rw [hpages]
        refine wp_bind (wp_mono (fun r _ _ v hr => ?_) (wp_downloadObjects_faulty (b.keysUnder x) hfill))
        cases r with
        | error exc => exact ⟨Or.inl hr, fun hok => nomatch hok⟩
        | ok _ =>
          exact wp_mono (fun _ _ _ _ hleft => ⟨hleft, fun _ => hr.resolved⟩) (wp_publish_faulty hfree hr.filled)

/-- The manifest loads, or the read fails, or what is there is not valid. -/
theorem wp_loadManifest_faulty {path : FilePath} {Q : Post Exc Files Unit Manifest}
    (hok : ∀ manifest, Q (.ok manifest) () s₀ s)
    (herr : (f.fs (.readBytes path) = true ∨ ∀ content, s.node path = some (.file content) →
      ∀ manifest, store.modelValidateJson content ≠ .ok manifest) → ∀ exc, Q (.error exc) () s₀ s) :
    (loadManifest store path uri).Wp (faulty b f) Q () s₀ s := by
  have hanswer : ∀ {x u}, b.sem f (.inr (.readBytes path)) s x u → u = s ∧
      ((∃ content, s.node path = some (.file content) ∧ x = .ok content) ∨
        (f.fs (.readBytes path) = true ∨ ∀ content, s.node path ≠ some (.file content)) ∧
          ∃ exc, x = .error exc) := by
    rintro x u (hx | ⟨hf, ⟨_, _, rfl⟩, rfl⟩)
    · obtain ⟨rfl, hc | ⟨hnone, e, hx⟩⟩ := b.fsAnswers_readBytes hx
      · exact ⟨rfl, Or.inl hc⟩
      · exact ⟨rfl, Or.inr ⟨Or.inr hnone, _, hx⟩⟩
    · exact ⟨rfl, Or.inr ⟨Or.inl hf, _, rfl⟩⟩
  refine wp_loadManifest rfl (fun content u hy => ?_) fun exc u hy => ?_
  · obtain ⟨rfl, ⟨_, hnode, hc⟩ | ⟨-, _, hc⟩⟩ := hanswer hy <;> cases hc
    refine ⟨fun manifest _ => hok manifest, fun message hinvalid => ?_⟩
    refine herr (Or.inr fun content' hnode' manifest hvalid => ?_) _
    rw [hnode] at hnode'
    cases hnode'
    rw [hinvalid] at hvalid
    cases hvalid
  · obtain ⟨rfl, ⟨_, -, hc⟩ | ⟨hno, -⟩⟩ := hanswer hy
    · cases hc
    · exact herr (hno.imp_right fun hnone content hnode _ => absurd hnode (hnone content)) _

/-- A fetch that raises leaves the files as they were, unless it has published
a download whose manifest does not load. -/
theorem wp_fetchPrefix_faulty (hdir : localDirFor store x = .ok dir)
    (hload : ∀ name, Publishes store b s x dir name → download b (placed store [name]) x ≠ [] →
      ¬ Unloadable store b f x dir name) :
    (fetchPrefix store uri x).Wp (faulty b f)
      (Post.either (fun _ _ _ => True) fun _ _ _ t => s.SameFiles t) () s₀ s := by
  have hrefl : s.SameFiles s := FileTree.SameFiles.refl s
  unfold fetchPrefix
  rw [hdir]
  show Wp _ ((ensureCached store x dir).bind fun _ => _) _ _ _ _
  refine wp_bind (wp_mono (Q := Post.either (fun _ _ t => AfterDownload store b x dir s t)
    fun _ _ _ t => s.SameFiles t) (fun r _ _ t hr => ?_) ?_)
  · cases r with
    | error exc => exact hr
    | ok _ =>
      refine wp_bind (wp_loadManifest_faulty (fun _ => trivial) fun hfail exc => ?_)
      rcases hr with hr | ⟨name, hp, hds, hfile⟩
      · exact hr
      · refine absurd (hfail.imp_right fun hno content hlast => ?_) (hload name hp hds)
        exact hno content ((hfile content).mpr hlast)
  · unfold ensureCached
    refine wp_bind (wp_fsCall rfl fun (y : Except Exc Bool) u hy => ?_)
    have hu : u = s := by
      rcases hy with ⟨-, rfl⟩ | ⟨-, -, rfl⟩ <;> rfl
    subst hu
    cases y with
    | error exc => exact hrefl
    | ok cached =>
      show Wp _ (if _ then _ else _) _ _ _ _
      split
      · exact wp_ret (Or.inl hrefl)
      · exact wp_downloadPrefix_faulty

/-! ### A run that leaves an entry -/

theorem exec_fsCall {op : FsOp} {y : FsOp.Res op} (h : b.sem f (.inr op) s (.ok y) u) :
    (fsCall op).Exec (b.sem f) s (.ok y) u := ⟨.ok y, u, h, rfl, rfl⟩

theorem exec_bind_ok {α β : Type} {p : Coroutine storeSig α} {k : α → Coroutine storeSig β} {a : α}
    {r : Except Exc β} (hp : p.Exec (b.sem f) s (.ok a) u) (hk : (k a).Exec (b.sem f) u r t) :
    (p.bind k).Exec (b.sem f) s r t := exec_bind.mpr (Or.inr ⟨a, u, hp, hk⟩)

/-- Directories are made where no file is. -/
theorem answer_mkdir_faulty {p : FilePath} (h : s.blocked p = false) :
    b.sem f (.inr (.mkdir p)) s (.ok ()) (s.addDirs p) := by
  have hfile : s.isFile p = false := Bool.eq_false_iff.mpr fun hf => by
    rw [s.blocked_iff.mpr ⟨p, List.prefix_rfl, hf⟩] at h
    cases h
  exact Or.inl (answer_mkdir hfile h)

theorem exec_s3_ok {op : S3Op} {key : String} {a : S3Op.Res op} (h : b.s3Answer f.s3 op (.ok a)) :
    (s3Request op key).inl.Exec (b.sem f) s (.ok a) s := ⟨.ok a, s, ⟨h, rfl⟩, rfl, rfl⟩

/-- A file that is in the way of no other can be written. -/
theorem Filled.can_write (h : Filled tmp s ds u) {p : FilePath} (hp : Below tmp p)
    (hfits : ∀ d ∈ ds, d.1 <+: p ∨ p <+: d.1 → d.1 = p) (c : Bytes) :
    u.blocked p.dropLast = false ∧ ∃ v, (u.addDirs p.dropLast).write p c = .ok v := by
  obtain ⟨d, a, rfl⟩ : ∃ d a, p = d ++ [a] := by
    refine ⟨_, _, (List.dropLast_append_getLast (l := p) ?_).symm⟩
    rintro rfl
    exact hp.2 (List.prefix_nil.mp hp.1)
  rw [List.dropLast_concat]
  have hclear : u.blocked d = false := by
    refine Bool.eq_false_iff.mpr fun hb => ?_
    obtain ⟨q, hq, hf⟩ := u.blocked_iff.mp hb
    obtain ⟨c', hc'⟩ := u.isFile_iff.mp hf
    have hqp : q <+: d ++ [a] := hq.trans (List.prefix_append d [a])
    rcases List.prefix_or_prefix_of_prefix hqp hp.1 with hqt | htq
    · have hblocked := u.blocked_iff.mpr ⟨q, hqt, hf⟩
      rw [FileTree.not_blocked_of_dir h.dir] at hblocked
      cases hblocked
    · have hlen := (hfits _ (h.mem htq hc') (Or.inl hqp) ▸ hq : d ++ [a] <+: d).length_le
      rw [List.length_append, List.length_singleton] at hlen
      omega
  refine ⟨hclear, FileTree.write_in c ?_ fun hd => ?_⟩
  · rw [FileTree.node_addDirs, if_pos List.prefix_rfl]
  · rw [FileTree.node_addDirs, if_neg] at hd
    · obtain ⟨e, he, hpe, hne⟩ := h.dirs _ hp hd
      exact hne (hfits e he (Or.inr hpe)).symm
    · intro hpre
      have hlen := hpre.length_le
      rw [List.length_append, List.length_singleton] at hlen
      omega

theorem exec_downloadObject {keys : List String} {key : String} {content : Bytes}
    (h : Filled tmp s (downloads b tmp x keys) u) (hlookup : b.objects.lookup key = some content)
    (hresolved : ¬ Unresolved x key) (hbelow : ∀ d ∈ downloads b tmp x [key], Below tmp d.1)
    (hfits : ∀ d ∈ downloads b tmp x keys, ∀ d' ∈ downloads b tmp x [key],
      d.1 <+: d'.1 ∨ d'.1 <+: d.1 → d.1 = d'.1) :
    ∃ v, (downloadObject store x tmp key).Exec (b.sem f) u (.ok ()) v ∧
      Filled tmp s (downloads b tmp x (keys ++ [key])) v := by
  rw [downloads_concat]
  by_cases hskip : relKey x key = "" ∨ key.toList.getLast? = some '/'
  · have hone : downloads b tmp x [key] = [] := by simp [downloads, hskip]
    rw [hone, List.append_nil]
    refine ⟨u, ?_, h⟩
    unfold downloadObject
    simp only [if_pos hskip]
    exact ⟨rfl, rfl⟩
  have hone : downloads b tmp x [key] = [(join tmp (relKey x key), content)] := by
    simp [downloads, hskip, hlookup]
  generalize htarget : join tmp (relKey x key) = p at hone
  rw [hone] at hbelow hfits ⊢
  have hp : Below tmp p := hbelow (p, content) (List.mem_singleton_self _)
  obtain ⟨hclear, v, hv⟩ := h.can_write hp
    (fun d hd => hfits d hd (p, content) (List.mem_singleton_self _)) content
  refine ⟨v, ?_, h.write hp (FileTree.mkdir_of_clear hclear) hv⟩
  have hwrite : b.sem f (.inr (.writeBytes p content)) (u.addDirs p.dropLast) (.ok ()) v := by
    refine Or.inl ?_
    show fsAnswer p _ _ _ _
    rw [hv]
    exact ⟨rfl, rfl⟩
  have hget : b.s3Answer f.s3 (.getObject store.bucket key) (.ok content) := by
    exact Or.inr (Or.inl ⟨content, AnyBucket.lookup_eq_some.mp hlookup, rfl⟩)
  unfold downloadObject
  simp only [if_neg hskip]
  rw [resolvePath_plain fun hnul => hresolved ⟨hskip, hnul⟩, htarget]
  show Prog.Exec _ (if _ then _ else _) _ _ _
  rw [if_neg (not_not.mpr hp)]
  refine exec_bind_ok (exec_fsCall (answer_mkdir_faulty hclear)) ?_
  refine exec_tryCatch.mpr (Or.inl ⟨(), rfl, ?_⟩)
  exact exec_bind_ok (exec_s3_ok hget) (exec_fsCall hwrite)

theorem exec_publish (h : Filled tmp s ds u) (hne : tmp ≠ []) (hfree : s.node tmp = none) (hdir : dir ≠ [])
    (habsent : s.node dir = none) (hclear : s.blocked dir = false) (hapart : ¬ tmp <+: dir) :
    ∃ v, (publish tmp dir).Exec (b.sem f) u (.ok ()) v ∧ Moved tmp dir s ds v := by
  obtain ⟨d, a, rfl⟩ : ∃ d a, dir = d ++ [a] := ⟨_, _, (List.dropLast_append_getLast hdir).symm⟩
  have hu : u.node (d ++ [a]) = none := (h.agree _ hapart).trans habsent
  have hhas : u.has (d ++ [a]) = false := by rw [FileTree.has, hu]; rfl
  have hd : u.blocked d = false := by
    refine Bool.eq_false_iff.mpr fun hb => ?_
    obtain ⟨q, hq, hf⟩ := u.blocked_iff.mp hb
    have hqd : q <+: d ++ [a] := hq.trans (List.prefix_append d [a])
    rw [FileTree.isFile, h.agree q fun h' => hapart (h'.trans hqd), ← FileTree.isFile] at hf
    rw [s.blocked_iff.mpr ⟨q, hqd, hf⟩] at hclear
    cases hclear
  have hmk := FileTree.mkdir_of_clear hd
  have hm : (u.addDirs d).Movable tmp d a := by
    refine ⟨?_, hne, ?_, hapart, Or.inl ?_⟩
    · rw [FileTree.has, ((FileTree.sameFiles_mkdir hmk) tmp).1 h.dir]
      rfl
    · rw [FileTree.isDir_iff, FileTree.node_addDirs, if_pos List.prefix_rfl]
    · rw [FileTree.node_addDirs, if_neg]
      · exact hu
      · intro hpre
        have hlen := hpre.length_le
        rw [List.length_append, List.length_singleton] at hlen
        omega
  refine ⟨_, ?_, (h.move hfree hhas hmk hm).1⟩
  unfold publish
  have hthere : (fsCall (.exists (d ++ [a]))).Exec (b.sem f) u (.ok false) u :=
    exec_fsCall (Or.inl ⟨congrArg Except.ok hhas.symm, rfl⟩)
  refine exec_bind_ok hthere ?_
  rw [List.dropLast_concat]
  refine exec_bind_ok (exec_fsCall (answer_mkdir_faulty hd)) (exec_tryCatch.mpr (Or.inl ⟨(), rfl, ?_⟩))
  exact exec_fsCall (Or.inl (Or.inl ⟨d, a, hm, rfl, rfl, rfl⟩))

/-- A key of a listing is that of an object. -/
theorem exists_content {key : String} (h : key ∈ b.keysUnder x) :
    ∃ content, b.objects.lookup key = some content := by
  obtain ⟨⟨content, hmem⟩, -⟩ := AnyBucket.mem_keysUnder.mp h
  exact ⟨content, AnyBucket.lookup_eq_some.mpr hmem⟩

/-- What some of the keys give is part of the download. -/
theorem downloads_subset {l keys : List String} (h : l ⊆ keys) : downloads b tmp x l ⊆ downloads b tmp x keys := by
  intro d hd
  obtain ⟨key, hkey, hd⟩ := List.mem_filterMap.mp hd
  exact List.mem_filterMap.mpr ⟨key, h hkey, hd⟩

/-- The loop of a download that can be published runs to its end. -/
theorem Publishes.exec_loop (h : Publishes store b s x dir name) {s₁ : Files}
    (hu : Filled (placed store [name]) s₁ [] u) :
    ∃ us v, (forEach (downloadObject store x (placed store [name])) (b.keysUnder x)).Exec (b.sem f) u (.ok us) v ∧
      Filled (placed store [name]) s₁ (download b (placed store [name]) x) v := by
  have hnil : Filled (placed store [name]) s₁ (downloads b (placed store [name]) x []) u := hu
  refine exec_forEach (fun l v => Filled (placed store [name]) s₁ (downloads b (placed store [name]) x l) v)
    (fun l key r hl v hv => ?_) hnil
  rw [List.nil_append] at hl
  have hl' : l ⊆ b.keysUnder x := hl ▸ List.subset_append_left l _
  have hkey : [key] ⊆ b.keysUnder x := by simp [hl]
  obtain ⟨content, hcontent⟩ := exists_content (hkey List.mem_cons_self)
  obtain ⟨w, hw⟩ := exec_downloadObject hv hcontent (h.resolved key (hkey List.mem_cons_self))
    (fun d hd => h.below d (downloads_subset hkey hd))
    (fun d hd d' hd' hor => hor.elim (h.fits d (downloads_subset hl' hd) d' (downloads_subset hkey hd'))
      fun hpre => (h.fits d' (downloads_subset hkey hd') d (downloads_subset hl' hd) hpre).symm)
  exact ⟨(), w, hw⟩

/-- A download that can be published is. -/
theorem Publishes.exec (h : Publishes store b s x dir name) (hdir : Below store.cacheDir dir) :
    ∃ t, (downloadPrefix store x dir).Exec (b.sem f) s (.ok ()) t ∧
      Moved (placed store [name]) dir (s.addDirs store.cacheDir) (download b (placed store [name]) x) t := by
  have hne : placed store [name] ≠ [] := placed_ne_nil (List.cons_ne_nil name [])
  have hnil : dir ≠ [] := by
    rintro rfl
    exact hdir.2 (List.prefix_nil.mp hdir.1)
  have hbase : (s.addDirs store.cacheDir).node store.cacheDir = some .dir := by
    rw [FileTree.node_addDirs, if_pos List.prefix_rfl]
  have hfree : (s.addDirs store.cacheDir).node (placed store [name]) = none :=
    (node_addDirs_root (List.cons_ne_nil name [])).trans h.free
  have habsent : (s.addDirs store.cacheDir).node dir = none := by
    rw [FileTree.node_addDirs, if_neg]
    · exact h.absent
    · exact fun hpre => hdir.2 (hdir.1.eq_of_length_le hpre.length_le)
  have hclear : (s.addDirs store.cacheDir).blocked dir = false :=
    ((FileTree.sameFiles_addDirs h.root).blocked_eq dir).trans h.clear
  obtain ⟨u, hu⟩ := FileTree.mkdirIn_free hbase hfree
  obtain ⟨us, v, hloop, hv⟩ := h.exec_loop (f := f) (filled_mkdtemp hu)
  obtain ⟨t, hpub, ht⟩ := exec_publish (b := b) (f := f) hv hne hfree hnil habsent hclear h.apart
  refine ⟨t, ?_, ht⟩
  have hlist : (listPrefix store.bucket x).inl.Exec (b.sem f) s (.ok (b.keysUnder x)) s := by
    unfold listPrefix
    rw [bind_eq, inl_bind]
    refine exec_bind_ok (exec_s3_ok (a := [b.keysUnder x]) (Or.inr ⟨_, rfl, by simp⟩)) ⟨?_, rfl⟩
    simp
  have htmp : (fsCall (.mkdtemp store.cacheDir)).Exec (b.sem f) (s.addDirs store.cacheDir)
      (.ok (placed store [name])) u := exec_fsCall (Or.inl (Or.inl ⟨name, h.temp, hu, rfl⟩))
  have hgone : (fsCall (.rmtree (placed store [name]))).Exec (b.sem f) t (.ok ()) t :=
    exec_fsCall (Or.inl ⟨rfl, (FileTree.rmtree_none ht.gone).symm⟩)
  have hany : ¬ ¬ ((b.keysUnder x).any fun k => Path.name k = manifestName) = true := by
    simpa using h.listed
  unfold downloadPrefix
  refine exec_bind_ok (exec_tryCatch.mpr (Or.inl ⟨_, rfl, hlist⟩)) ?_
  rw [if_neg hany]
  refine exec_bind_ok (exec_fsCall (answer_mkdir_faulty h.root)) (exec_bind_ok htmp ?_)
  refine exec_tryFinally.mpr ⟨.ok (), t, exec_bind_ok hloop hpub, exec_bind_ok hgone ⟨rfl, rfl⟩⟩

/-- A manifest that does not load is reported. -/
theorem exec_loadManifest_error {path : FilePath}
    (h : f.fs (.readBytes path) = true ∨ ∀ content, s.node path = some (.file content) →
      ∀ manifest, store.modelValidateJson content ≠ .ok manifest) :
    ∃ exc, (loadManifest store path uri).Exec (b.sem f) s (.error exc) s := by
  have hraise : ∀ {p : Coroutine storeSig Manifest} {exc : Exc}, p.Exec (b.sem f) s (.error exc) s →
      (p.tryCatch fun exc => .raise (manifestError uri exc)).Exec (b.sem f) s
        (.error (manifestError uri exc)) s :=
    fun hp => exec_tryCatch.mpr (Or.inr ⟨_, s, hp, rfl, rfl⟩)
  have hread : ∀ exc : Exc, b.sem f (.inr (.readBytes path)) s (.error exc) s →
      ∃ exc, (loadManifest store path uri).Exec (b.sem f) s (.error exc) s :=
    fun exc hr => ⟨_, hraise (exec_bind.mpr (Or.inl ⟨exc, rfl, .error exc, s, hr, rfl, rfl⟩))⟩
  rcases h with hf | hno
  · exact hread (.osError 24 "Too many open files") (Or.inr ⟨hf, ⟨_, _, rfl⟩, rfl⟩)
  rcases hr : s.read path with e | content
  · refine hread (fsError path e) (Or.inl ⟨rfl, ?_⟩)
    rw [hr]
    rfl
  · have hok : (fsCall (.readBytes path)).Exec (b.sem f) s (.ok content) s := by
      refine exec_fsCall (Or.inl ⟨rfl, ?_⟩)
      rw [hr]
      rfl
    rcases hv : store.modelValidateJson content with message | manifest
    · refine ⟨_, hraise (exec_bind_ok hok (r := .error (.valueError message)) ?_)⟩
      rw [hv]
      exact ⟨rfl, rfl⟩
    · exact absurd hv (hno content (s.read_ok.mp hr) manifest)

/-- A fetch that can leave an entry does so in some run, and raises. -/
theorem LeavesEntry.exec (h : LeavesEntry store b f uri s) :
    ∃ exc t, (fetch store uri).Exec (b.sem f) s (.error exc) t ∧ ¬ s.SameFiles t := by
  obtain ⟨x, dir, name, hparse, hx, hdir, hp, hds, hload⟩ := h
  have hbelow : Below store.cacheDir dir :=
    ((localDirFor_ok store).mp hdir).2.1.resolve_left hp.ne.symm
  obtain ⟨t, hdown, ht⟩ := hp.exec (f := f) hbelow
  have hfail : f.fs (.readBytes (dir ++ [manifestName])) = true ∨
      ∀ content, t.node (dir ++ [manifestName]) = some (.file content) →
        ∀ manifest, store.modelValidateJson content ≠ .ok manifest :=
    hload.imp_right fun hno content hfile => hno content ((ht.file _ content).mp hfile)
  obtain ⟨exc, hexc⟩ : ∃ exc, (loadManifest store (dir ++ [manifestName]) uri).Exec (b.sem f) t (.error exc) t :=
    exec_loadManifest_error hfail
  have hmissing : s.isFile (dir ++ [manifestName]) = false :=
    s.isFile_of_none (s.none_below _ hp.absent)
  have hcached : (ensureCached store x dir).Exec (b.sem f) s (.ok ()) t := by
    have hthere : (fsCall (.isFile (dir ++ [manifestName]))).Exec (b.sem f) s (.ok false) s :=
      exec_fsCall (Or.inl ⟨congrArg Except.ok hmissing.symm, rfl⟩)
    exact exec_bind_ok hthere hdown
  refine ⟨exc, t, ?_, fun hsame => ?_⟩
  · rw [fetch_eq store hparse hx, fetchPrefix, hdir]
    exact exec_bind_ok hcached (exec_bind.mpr (Or.inl ⟨exc, rfl, hexc⟩))
  · -- a downloaded file is new
    obtain ⟨d, hd⟩ := List.exists_mem_of_ne_nil _ hds
    obtain ⟨⟨q, hq⟩, -⟩ := hp.below d hd
    obtain ⟨c, hc⟩ := lastAt_of_mem (k := d.1) (y := d.2) hd
    have hfile := (ht.file q c).mpr (hq ▸ hc)
    rw [(hsame _).2, s.none_below q hp.absent] at hfile
    cases hfile

end

/-- A prefix with no manifest but one below. -/
def belowBucket : AnyBucket where
  objects := [("a/b/manifest.json", [1])]
  keys_nodup := List.nodup_singleton _
  isTemp name := name == "tmp"

end DocGen
