/-
# A cache entry that is served is complete

Any number of fetches go on side by side, and give way at their listings and
gets. Each owns its temporary directory, in which it has written part of its
prefix (`Tmp`), and what it has begun to serve. The invariant of the cache
(`CacheInv`) is that every file outside the temporary directories is an object
of the bucket, at its place, below the directory of some prefix all of whose
objects are there. A publication moves a whole temporary directory to where
nothing was, so it adds a complete prefix and takes nothing away.
-/
import DocGen.Cache

namespace DocGen

open Prog DocGen.Path

/-- A temporary directory: its name, the segments of the prefix downloaded into
it, and the objects written, by what follows those segments. -/
structure Tmp where
  name : String
  under : FilePath
  done : List FilePath

/-- What a fetch owns. -/
inductive Holding
  | idle
  | tmp (t : Tmp)
  | served (segs : FilePath) (content : Bytes)

section

variable (store : TemplateStore) (w : CacheWorld)

/-- Where a path of the bucket belongs in the cache. -/
def placed (p : FilePath) : FilePath := store.cacheDir ++ p

/-- The directory of the prefix `y` is there, with every object below it. -/
structure Complete (y : FilePath) (s : Files) : Prop where
  dir : s.node (placed store y) = some .dir
  objects : ∀ p b, p ≠ [] → w.Has (y ++ p) b → s.node (placed store (y ++ p)) = some (.file b)

/-- The invariant of the cache. -/
structure CacheInv (s : Files) : Prop where
  object : ∀ p b, w.Kept p → s.node (placed store p) = some (.file b) → w.Has p b ∧ NulFree p
  complete : ∀ p b, w.Kept p → s.node (placed store p) = some (.file b) →
    ∃ y, w.Kept y ∧ y <+: p ∧ Complete store w y s

/-- The temporary directory holds the objects written, and nothing else. -/
structure TmpOwned (t : Tmp) (s : Files) : Prop where
  temp : w.isTemp t.name = true
  dir : s.node (placed store [t.name]) = some .dir
  written : ∀ p ∈ t.done, ∀ b, w.Has (t.under ++ p) b →
    s.node (placed store (t.name :: p)) = some (.file b)
  only : ∀ p b, s.node (placed store (t.name :: p)) = some (.file b) →
    w.Has (t.under ++ p) b ∧ NulFree (t.under ++ p)

def Held : Holding → Files → Prop
  | .idle, _ => True
  | .tmp t, s => TmpOwned store w t s
  | .served segs content, s => w.Kept segs ∧
    s.node (placed store (segs ++ [manifestName])) = some (.file content)

/-- Two fetches have different temporary directories. -/
def Disjoint : Holding → Holding → Prop
  | .tmp t, .tmp t' => t.name ≠ t'.name
  | _, _ => True

/-- The calls on the file system do not give way. -/
def isFs : storeSig.Op → Bool
  | .inl _ => false
  | .inr _ => true

/-- Fetches over a cache whose bucket may fail. -/
def cacheCoop : Coop storeSig Exc Files Holding where
  sem := w.sem true
  sync := isFs
  Inv := CacheInv store w
  Own := Held store w
  Apart := Disjoint
  apart_symm g h := by cases g <;> cases h <;> simp [Disjoint, eq_comm]

end

/-! ### What each call on the file system keeps -/

section

variable {store : TemplateStore} {w : CacheWorld} {s u : Files} {t : Tmp}

theorem placed_append (p q : FilePath) : placed store (p ++ q) = placed store p ++ q :=
  (List.append_assoc _ _ _).symm

theorem placed_injective {p q : FilePath} (h : placed store p = placed store q) : p = q :=
  List.append_cancel_left h

theorem placed_prefix_iff {p q : FilePath} : placed store p <+: placed store q ↔ p <+: q :=
  List.prefix_append_right_inj _

/-- A kept path is not below a temporary directory. -/
theorem not_prefix_kept {name : String} {p : FilePath} (hn : w.isTemp name = true) (hp : w.Kept p) :
    ¬ placed store [name] <+: placed store p := by
  obtain ⟨seg, r, rfl, hseg⟩ := hp
  rw [placed_prefix_iff, List.cons_prefix_cons]
  rintro ⟨rfl, -⟩
  rw [hn] at hseg
  cases hseg

/-- A path of a temporary directory is not below a kept one. -/
theorem not_prefix_of_kept {name : String} {y : FilePath} (hn : w.isTemp name = true) (hy : w.Kept y)
    (p : FilePath) : ¬ placed store y <+: placed store (name :: p) := by
  obtain ⟨seg, r, rfl, hseg⟩ := hy
  rw [placed_prefix_iff, List.cons_prefix_cons]
  rintro ⟨rfl, -⟩
  rw [hn] at hseg
  cases hseg

theorem CacheWorld.Kept.ne {p : FilePath} (hp : w.Kept p) : p ≠ [] := by
  obtain ⟨seg, r, rfl, -⟩ := hp
  exact List.cons_ne_nil seg r

theorem CacheWorld.Kept.below {p q : FilePath} (hp : w.Kept p) (hpq : p <+: q) : w.Kept q := by
  obtain ⟨seg, r, rfl, hseg⟩ := hp
  obtain ⟨r', rfl⟩ := hpq
  exact ⟨seg, r ++ r', rfl, hseg⟩

/-! More directories change nothing. -/

theorem Complete.same {y : FilePath} (h : Complete store w y s) (hu : s.SameFiles u) :
    Complete store w y u :=
  ⟨(hu _).1 h.dir, fun p b hp hb => ((hu _).2 b).mpr (h.objects p b hp hb)⟩

theorem CacheInv.same (h : CacheInv store w s) (hu : s.SameFiles u) : CacheInv store w u where
  object p b hp hb := h.object p b hp (((hu _).2 b).mp hb)
  complete p b hp hb := by
    obtain ⟨y, hk, hy, hc⟩ := h.complete p b hp (((hu _).2 b).mp hb)
    exact ⟨y, hk, hy, hc.same hu⟩

theorem Held.same : ∀ {g : Holding}, Held store w g s → s.SameFiles u → Held store w g u
  | .idle, _, _ => trivial
  | .tmp _, h, hu =>
    { temp := h.temp
      dir := (hu _).1 h.dir
      written := fun p hp b hb => ((hu _).2 b).mpr (h.written p hp b hb)
      only := fun p b hb => h.only p b (((hu _).2 b).mp hb) }
  | .served _ _, h, hu => ⟨h.1, ((hu _).2 _).mpr h.2⟩

theorem ready_same {g : Holding} (hI : CacheInv store w s) (ho : Held store w g s)
    (hu : s.SameFiles u) : (cacheCoop store w).Ready g g s u :=
  ⟨fun _ ha ho' => ⟨ho'.same hu, ha⟩, hI.same hu, ho.same hu⟩

/-! A change inside a temporary directory. -/

/-- The trees agree outside the temporary directory. -/
def AgreeOff (store : TemplateStore) (name : String) (s u : Files) : Prop :=
  ∀ q, ¬ placed store [name] <+: q → u.node q = s.node q

theorem Complete.off {y : FilePath} {name : String} (h : Complete store w y s) (hy : w.Kept y)
    (hn : w.isTemp name = true) (hu : AgreeOff store name s u) : Complete store w y u where
  dir := (hu _ (not_prefix_kept hn hy)).trans h.dir
  objects p b hp hb :=
    (hu _ (not_prefix_kept hn (hy.below (List.prefix_append y p)))).trans (h.objects p b hp hb)

theorem CacheInv.off {name : String} (h : CacheInv store w s) (hn : w.isTemp name = true)
    (hu : AgreeOff store name s u) : CacheInv store w u where
  object p b hp hb := h.object p b hp ((hu _ (not_prefix_kept hn hp)) ▸ hb)
  complete p b hp hb := by
    obtain ⟨y, hk, hy, hc⟩ := h.complete p b hp ((hu _ (not_prefix_kept hn hp)) ▸ hb)
    exact ⟨y, hk, hy, hc.off hk hn hu⟩

theorem not_prefix_tmp {name name' : String} (h : name ≠ name') (p : FilePath) :
    ¬ placed store [name] <+: placed store (name' :: p) := by
  rw [placed_prefix_iff, List.cons_prefix_cons]
  exact fun h' => h h'.1

/-- What another fetch holds is elsewhere. -/
theorem Held.off : ∀ {g : Holding}, Held store w g s → Disjoint (.tmp t) g → w.isTemp t.name = true →
    AgreeOff store t.name s u → Held store w g u
  | .idle, _, _, _, _ => trivial
  | .tmp _, h, hd, _, hu =>
    { temp := h.temp
      dir := (hu _ (not_prefix_tmp hd [])).trans h.dir
      written := fun p hp b hb => (hu _ (not_prefix_tmp hd p)).trans (h.written p hp b hb)
      only := fun p b hb => h.only p b ((hu _ (not_prefix_tmp hd p)) ▸ hb) }
  | .served _ _, h, _, hn, hu =>
    ⟨h.1, (hu _ (not_prefix_kept hn (h.1.below (List.prefix_append _ _)))).trans h.2⟩

theorem disjoint_done {g : Holding} {l : List FilePath} (h : Disjoint (.tmp t) g) :
    Disjoint (.tmp { t with done := l }) g := by
  cases g <;> exact h

/-- An object is written into the temporary directory. -/
theorem ready_write {p : FilePath} {b : Bytes} (hI : CacheInv store w s) (ho : TmpOwned store w t s)
    (hp : p ≠ []) (hb : w.Has (t.under ++ p) b) (hplain : NulFree (t.under ++ p))
    (hu : s.write (placed store (t.name :: p)) b = .ok u) :
    (cacheCoop store w).Ready (.tmp { t with done := t.done ++ [p] }) (.tmp t) s u := by
  obtain ⟨-, hnode⟩ := FileTree.write_ok hu
  have hoff : AgreeOff store t.name s u := by
    intro q hq
    rw [hnode, if_neg]
    rintro rfl
    exact hq (placed_prefix_iff.mpr (List.prefix_append [t.name] p))
  have hcons : ∀ {q : FilePath}, placed store (t.name :: q) = placed store (t.name :: p) ↔ q = p := by
    intro q
    exact ⟨fun h => (List.cons.inj (placed_injective h)).2, fun h => by rw [h]⟩
  refine ⟨fun g hd hg => ⟨hg.off hd ho.temp hoff, disjoint_done hd⟩, hI.off ho.temp hoff,
    ho.temp, ?_, ?_, ?_⟩
  · rw [hnode, if_neg fun h => hp (hcons.mp h).symm]
    exact ho.dir
  · intro q hq c hc
    rw [hnode]
    by_cases hqp : q = p
    · subst hqp
      rw [if_pos rfl, hc.unique hb]
    · rw [if_neg fun h => hqp (hcons.mp h)]
      refine ho.written q ((List.mem_append.mp hq).resolve_right fun h => ?_) c hc
      exact hqp (List.mem_singleton.mp h)
  · intro q c hc
    rw [hnode] at hc
    by_cases hqp : q = p
    · subst hqp
      rw [if_pos rfl] at hc
      cases hc
      exact ⟨hb, hplain⟩
    · rw [if_neg fun h => hqp (hcons.mp h)] at hc
      exact ho.only q c hc

/-- The temporary directory is removed. -/
theorem ready_rmtree (hI : CacheInv store w s) (ho : TmpOwned store w t s) :
    (cacheCoop store w).Ready .idle (.tmp t) s (s.rmtree (placed store [t.name])) := by
  have hoff : AgreeOff store t.name s (s.rmtree (placed store [t.name])) := by
    intro q hq
    rw [FileTree.node_rmtree, if_neg fun h => hq h.2.2]
  exact ⟨fun g hd hg => ⟨hg.off hd ho.temp hoff, trivial⟩, hI.off ho.temp hoff, trivial⟩

/-- The temporary directory is moved into place, with every object of its
prefix. -/
theorem ready_move {d : FilePath} {a : String} (hI : CacheInv store w s) (ho : TmpOwned store w t s)
    (hk : w.Kept t.under) (hd : placed store t.under = d ++ [a])
    (hall : ∀ p b, p ≠ [] → w.Has (t.under ++ p) b → p ∈ t.done)
    (h : s.Movable (placed store [t.name]) d a) :
    (cacheCoop store w).Ready .idle (.tmp t) s (s.move h) ∧
      (s.move h).node (placed store [t.name]) = none := by
  have hnode : ∀ q, (s.move h).node q = if placed store t.under <+: q then
      s.node (placed store [t.name] ++ q.drop (placed store t.under).length)
      else if placed store [t.name] <+: q then none else s.node q := by
    intro q
    rw [FileTree.node_move, hd]
  have hvacant : ∀ q, placed store t.under <+: q → s.node q = none ∨
      (q = placed store t.under ∧ s.node q = some .dir) := by
    intro q hq
    rw [hd] at hq ⊢
    exact h.vacant (s.isDir_iff.mpr ho.dir) hq
  -- what was outside both directories is where it was
  have hother : ∀ q, ¬ placed store t.under <+: q → ¬ placed store [t.name] <+: q →
      (s.move h).node q = s.node q := by
    intro q h₁ h₂
    rw [hnode, if_neg h₁, if_neg h₂]
  have hmoved : ∀ p, (s.move h).node (placed store (t.under ++ p)) = s.node (placed store (t.name :: p)) := by
    intro p
    rw [hnode, if_pos (placed_prefix_iff.mpr (List.prefix_append _ p)), placed_append, List.drop_left,
      ← placed_append]
    rfl
  -- a file or directory that was there is not at the target
  have hkeep : ∀ {p : FilePath} {n : Node Bytes}, w.Kept p → s.node (placed store p) = some n →
      (p ≠ t.under ∨ ∃ b, n = .file b) → (s.move h).node (placed store p) = some n := by
    intro p n hp hn hne
    rw [hother _ _ (not_prefix_kept ho.temp hp), hn]
    intro hpre
    rcases hvacant _ hpre with hnone | ⟨heq, hdir⟩
    · rw [hn] at hnone
      cases hnone
    · rcases hne with hne | ⟨b, rfl⟩
      · exact hne (placed_injective heq)
      · rw [hn] at hdir
        cases hdir
  refine ⟨⟨fun g hdj hg => ⟨?_, trivial⟩, ⟨?_, ?_⟩, trivial⟩, ?_⟩
  · cases g with
    | idle => trivial
    | tmp t' =>
      have hsame : ∀ p, (s.move h).node (placed store (t'.name :: p)) = s.node (placed store (t'.name :: p)) :=
        fun p => hother _ (not_prefix_of_kept hg.temp hk p) (not_prefix_tmp hdj p)
      exact ⟨hg.temp, (hsame []).trans hg.dir, fun p hp b hb => (hsame p).trans (hg.written p hp b hb),
        fun p b hb => hg.only p b ((hsame p) ▸ hb)⟩
    | served segs content =>
      exact ⟨hg.1, hkeep (hg.1.below (List.prefix_append _ _)) hg.2 (Or.inr ⟨_, rfl⟩)⟩
  · intro p b hp hb
    by_cases hpre : t.under <+: p
    · obtain ⟨r, rfl⟩ := hpre
      rw [hmoved] at hb
      exact ho.only r b hb
    · rw [hother _ (fun h' => hpre (placed_prefix_iff.mp h')) (not_prefix_kept ho.temp hp)] at hb
      exact hI.object p b hp hb
  · intro p b hp hb
    by_cases hpre : t.under <+: p
    · refine ⟨t.under, hk, hpre, ?_, fun q c hq hc => ?_⟩
      · have hroot := hmoved []
        rw [List.append_nil] at hroot
        exact hroot.trans ho.dir
      · rw [hmoved]
        exact ho.written q (hall q c hq hc) c hc
    · rw [hother _ (fun h' => hpre (placed_prefix_iff.mp h')) (not_prefix_kept ho.temp hp)] at hb
      obtain ⟨y, hyk, hy, hc⟩ := hI.complete p b hp hb
      refine ⟨y, hyk, hy, ?_, fun q c hq hqc => ?_⟩
      · refine hkeep hyk hc.dir (Or.inl ?_)
        rintro rfl
        exact hpre hy
      · exact hkeep (hyk.below (List.prefix_append y q)) (hc.objects q c hq hqc) (Or.inr ⟨_, rfl⟩)
  · rw [hnode, if_neg (not_prefix_of_kept ho.temp hk []), if_pos List.prefix_rfl]

/-- A name for a temporary directory is free, so no other fetch has it. -/
theorem ready_mkdtemp {name : String} {segs : FilePath} (hI : CacheInv store w s)
    (hn : w.isTemp name = true) (hu : s.mkdirIn store.cacheDir name = .ok u) :
    (cacheCoop store w).Ready (.tmp ⟨name, segs, []⟩) .idle s u := by
  obtain ⟨hfree, hnode⟩ := FileTree.mkdirIn_ok hu
  have hsame := FileTree.sameFiles_mkdirIn hu
  refine ⟨fun g _ hg => ⟨hg.same hsame, ?_⟩, hI.same hsame, hn, ?_, by simp, fun p b hb => ?_⟩
  · cases g with
    | tmp t =>
      rintro rfl
      have hdir := hg.dir
      rw [placed, hfree] at hdir
      cases hdir
    | _ => trivial
  · rw [hnode]
    exact if_pos rfl
  · have hfile := ((hsame _).2 b).mp hb
    have hnone := s.none_below p hfree
    rw [placed, ← List.singleton_append, ← List.append_assoc, hnone] at hfile
    cases hfile

/-- What is read is served from now on. -/
theorem ready_serve {segs : FilePath} {content : Bytes} (hI : CacheInv store w s)
    (hk : w.Kept segs) (hc : s.node (placed store (segs ++ [manifestName])) = some (.file content)) :
    (cacheCoop store w).Ready (.served segs content) .idle s s :=
  ⟨fun g _ hg => ⟨hg, by cases g <;> trivial⟩, hI, hk, hc⟩

end

/-! ### The coroutines -/

section

variable {store : TemplateStore} {w : CacheWorld} {g₀ : Holding} {s₀ s : Files} {α : Type}

/-- A call on the file system, in threads that do not give way at it. -/
theorem wp_fsCall {γ : Type} {C : Coop storeSig Exc Files γ} {op : FsOp}
    {Q : Post Exc Files γ (FsOp.Res op)} {g₀ : γ} (hs : C.sync (.inr op) = true)
    (h : ∀ x u, C.sem (.inr op) s x u → Q x g₀ s₀ u) : (fsCall op).Wp C Q g₀ s₀ s := by
  refine wp_sync hs fun x u hx => ?_
  cases x with
  | ok a => exact h _ u hx
  | error e => exact h _ u hx

/-- A manifest is read, and then it validates or not. -/
theorem wp_loadManifest {γ : Type} {C : Coop storeSig Exc Files γ} {path : FilePath} {uri : String}
    {Q : Post Exc Files γ Manifest} {g₀ : γ} (hs : C.sync (.inr (.readBytes path)) = true)
    (hok : ∀ content u, C.sem (.inr (.readBytes path)) s (.ok content) u →
      (∀ manifest, store.modelValidateJson content = .ok manifest → Q (.ok manifest) g₀ s₀ u) ∧
        ∀ message, store.modelValidateJson content = .error message →
          Q (.error (manifestError uri (.valueError message))) g₀ s₀ u)
    (herr : ∀ exc u, C.sem (.inr (.readBytes path)) s (.error exc) u →
      Q (.error (manifestError uri exc)) g₀ s₀ u) :
    (loadManifest store path uri).Wp C Q g₀ s₀ s := by
  unfold loadManifest
  refine wp_tryCatch (wp_bind (wp_fsCall hs fun x u hx => ?_))
  cases x with
  | error exc => exact herr exc u hx
  | ok content =>
    obtain ⟨hvalid, hinvalid⟩ := hok content u hx
    dsimp only [Post.seq]
    split
    · rename_i manifest h
      exact hvalid manifest h
    · rename_i message h
      exact hinvalid message h

theorem wp_mkdir {γ : Type} {C : Coop storeSig Exc Files γ} {p : FilePath} {faults : Bool}
    {Q : Post Exc Files γ Unit} {g₀ : γ} (hC : C.sem = w.sem faults) (hs : C.sync (.inr (.mkdir p)) = true)
    (hok : ∀ u, s.mkdir p = .ok u → Q (.ok ()) g₀ s₀ u)
    (herr : ∀ e, s.mkdir p = .error e → Q (.error (fsError p e)) g₀ s₀ s) :
    Wp C (fsCall (.mkdir p)) Q g₀ s₀ s := by
  refine wp_fsCall hs fun x u hu => ?_
  rw [hC] at hu
  rcases fsAnswer_cases hu with ⟨h, rfl⟩ | ⟨e, h, rfl, rfl⟩
  · exact hok u h
  · exact herr e h

theorem wp_writeBytes {γ : Type} {C : Coop storeSig Exc Files γ} {p : FilePath} {content : Bytes}
    {faults : Bool} {Q : Post Exc Files γ Unit} {g₀ : γ} (hC : C.sem = w.sem faults)
    (hs : C.sync (.inr (.writeBytes p content)) = true)
    (hok : ∀ u, s.write p content = .ok u → Q (.ok ()) g₀ s₀ u)
    (herr : ∀ e, s.write p content = .error e → Q (.error (fsError p e)) g₀ s₀ s) :
    Wp C (fsCall (.writeBytes p content)) Q g₀ s₀ s := by
  refine wp_fsCall hs fun x u hu => ?_
  rw [hC] at hu
  rcases fsAnswer_cases hu with ⟨h, rfl⟩ | ⟨e, h, rfl, rfl⟩
  · exact hok u h
  · exact herr e h

theorem wp_s3Request {op : S3Op} {key : String} {g : Holding} {Q : Post Exc Files Holding (S3Op.Res op)}
    (hr : (cacheCoop store w).Ready g g₀ s₀ s)
    (h : ∀ s', CacheInv store w s' → Held store w g s' → ∀ x, w.s3Answer true op x →
      Q (x.mapError (storageError key)) g s' s') :
    (s3Request op key).inl.Wp (cacheCoop store w) Q g₀ s₀ s := by
  refine wp_await rfl hr fun s' hI ho x u hx => ?_
  obtain ⟨hx, rfl⟩ := hx
  cases x with
  | ok a => exact h _ hI ho _ hx
  | error e => exact h _ hI ho _ hx

/-- The objects among the keys, by what follows the prefix's segments. -/
def doneOf (segs : FilePath) (keys : List String) : List FilePath :=
  keys.filterMap fun key => if WfObject key then some ((split '/' key).drop segs.length) else none

theorem doneOf_concat (segs : FilePath) (keys : List String) (key : String) :
    doneOf segs (keys ++ [key]) = doneOf segs keys ++ doneOf segs [key] :=
  List.filterMap_append

/-- Between two calls the fetch owns its temporary directory. -/
def Loading (store : TemplateStore) (w : CacheWorld) (name : String) (segs : FilePath) (g₀ : Holding)
    (s₀ s : Files) : Prop :=
  ∃ done, (cacheCoop store w).Ready (.tmp ⟨name, segs, done⟩) g₀ s₀ s

/-- One turn of the download loop writes the object, if the key is one. -/
theorem wp_downloadObject {x key name : String} {segs : FilePath} {keys : List String}
    (hx : WfDir x segs) (hsegs : NulFree segs) (hkey : key ∈ w.keysUnder x)
    (hr : (cacheCoop store w).Ready (.tmp ⟨name, segs, doneOf segs keys⟩) g₀ s₀ s) :
    (downloadObject store x (placed store [name]) key).Wp (cacheCoop store w)
      (Post.either ((cacheCoop store w).Ready (.tmp ⟨name, segs, doneOf segs (keys ++ [key])⟩))
        fun _ => Loading store w name segs) g₀ s₀ s := by
  obtain ⟨⟨b, hb⟩, hpre⟩ := AnyBucket.mem_keysUnder.mp hkey
  have hskip := relKey_skip hx (w.keys_wf _ hb) hpre
  unfold downloadObject
  simp only
  by_cases hobj : WfObject key
  swap
  · -- a placeholder
    rw [if_pos (hskip.mpr hobj)]
    refine wp_ret ?_
    show (cacheCoop store w).Ready (.tmp ⟨name, segs, doneOf segs (keys ++ [key])⟩) g₀ s₀ s
    rw [doneOf_concat]
    simpa [doneOf, hobj] using hr
  obtain ⟨p, hp, hrel, hsplit, hjoin⟩ := hobj.rel hx hpre
  rw [if_neg fun h => hskip.mp h hobj]
  by_cases hnul : nul ∈ (relKey x key).toList
  · rw [resolvePath_nul hnul]
    exact wp_raise ⟨_, hr⟩
  have hplain : NulFree (segs ++ p) := nulFree_append.mpr ⟨hsegs, hrel.mpr hnul⟩
  have htarget : join (placed store [name]) (relKey x key) = placed store (name :: p) := by
    rw [hjoin, ← placed_append]
    rfl
  have hbelow : Below (placed store [name]) (placed store (name :: p)) := by
    refine ⟨placed_prefix_iff.mpr (List.prefix_append [name] p), fun heq => hp ?_⟩
    exact (List.cons.inj (placed_injective heq)).2.symm
  rw [resolvePath_plain hnul, htarget]
  show Wp _ (if _ then _ else _) _ _ _ _
  rw [if_neg (not_not.mpr hbelow)]
  refine wp_bind (wp_mkdir rfl rfl (fun u hmk => ?_) fun e _ => ⟨_, hr⟩)
  have hr' := hr.step fun hI ho => ready_same hI ho (FileTree.sameFiles_mkdir hmk)
  refine wp_tryCatch (wp_bind (wp_s3Request hr' fun v hI ho z hz => ?_))
  have hloading : Loading store w name segs (.tmp ⟨name, segs, doneOf segs keys⟩) v v :=
    ⟨_, Coop.ready_refl hI ho⟩
  cases z with
  | error exc => exact hloading
  | ok content =>
    have hcontent : w.Has (segs ++ p) content := by
      rcases hz with ⟨-, _, hz⟩ | ⟨c, hc, hz⟩ | ⟨-, _, hz⟩ <;> cases hz
      exact ⟨key, hc, hobj, hsplit⟩
    refine wp_writeBytes rfl rfl (fun u' hw => ?_) fun e _ => hloading
    have hwritten := ready_write hI ho hp hcontent hplain hw
    show (cacheCoop store w).Ready (.tmp ⟨name, segs, doneOf segs (keys ++ [key])⟩) _ v u'
    rw [doneOf_concat]
    simpa [doneOf, hobj, hsplit] using hwritten

/-- After publication the temporary directory is still owned, or it has moved. -/
def Published (store : TemplateStore) (w : CacheWorld) (name : String) (segs : FilePath) (g₀ : Holding)
    (s₀ s : Files) : Prop :=
  Loading store w name segs g₀ s₀ s ∨
    ((cacheCoop store w).Ready .idle g₀ s₀ s ∧ s.node (placed store [name]) = none)

theorem wp_publish {name : String} {segs : FilePath} {done : List FilePath} (hk : w.Kept segs)
    (hall : ∀ p b, p ≠ [] → w.Has (segs ++ p) b → p ∈ done)
    (hr : (cacheCoop store w).Ready (.tmp ⟨name, segs, done⟩) g₀ s₀ s) :
    (publish (placed store [name]) (placed store segs)).Wp (cacheCoop store w)
      (fun _ g s₀ s => Published store w name segs g s₀ s) g₀ s₀ s := by
  unfold publish
  refine wp_bind (wp_fsCall rfl fun x u hx => ?_)
  obtain ⟨rfl, rfl⟩ := hx
  show Wp _ (if _ then _ else _) _ _ _ _
  split
  · exact wp_ret (Or.inl ⟨_, hr⟩)
  refine wp_bind (wp_mkdir rfl rfl (fun u' hmk => ?_) fun e _ => Or.inl ⟨_, hr⟩)
  have hr' := hr.step fun hI ho => ready_same hI ho (FileTree.sameFiles_mkdir hmk)
  refine wp_tryCatch (wp_fsCall rfl fun y v hv => ?_)
  rcases hv with ⟨d, a, h, hd, rfl, rfl⟩ | ⟨-, rfl, n, message, rfl⟩
  · -- moved into place
    have hmove := ready_move hr'.inv hr'.own hk hd hall h
    exact Or.inr ⟨hr'.step fun _ _ => hmove.1, hmove.2⟩
  · show Wp _ (if _ then _ else _) _ _ _ _
    have hos : (Exc.osError n message).isOSError = true := rfl
    rw [if_pos hos]
    refine wp_bind (wp_fsCall rfl fun z t hz => ?_)
    obtain ⟨rfl, rfl⟩ := hz
    show Wp _ (if _ then _ else _) _ _ _ _
    split
    · exact wp_ret (Or.inl ⟨_, hr'⟩)
    · exact wp_raise (Or.inl ⟨_, hr'⟩)

/-- Every object of a prefix is among the keys listed for it. -/
theorem mem_doneOf {x : String} {segs : FilePath} (hx : WfDir x segs) {p : FilePath} {b : Bytes}
    (hp : p ≠ []) (hb : w.Has (segs ++ p) b) : p ∈ doneOf segs (w.keysUnder x) := by
  obtain ⟨key, hmem, hobj, hsplit⟩ := hb
  have hpre : x.toList <+: key.toList := prefix_of_split hx.ne hp hx.split_eq hsplit
  refine List.mem_filterMap.mpr ⟨key, AnyBucket.mem_keysUnder.mpr ⟨⟨b, hmem⟩, hpre⟩, ?_⟩
  rw [if_pos hobj, hsplit, List.drop_left]

/-- A download ends with nothing held, whatever happens. -/
theorem wp_downloadPrefix {x : String} {segs : FilePath} (hx : WfDir x segs) (hsegs : NulFree segs)
    (hk : w.Kept segs) (hr : (cacheCoop store w).Ready .idle g₀ s₀ s) :
    (downloadPrefix store x (placed store segs)).Wp (cacheCoop store w)
      (fun _ g s₀ s => (cacheCoop store w).Ready .idle g s₀ s) g₀ s₀ s := by
  unfold downloadPrefix
  refine wp_bind (wp_tryCatch ?_)
  unfold listPrefix
  rw [bind_eq, inl_bind]
  refine wp_bind (wp_s3Request hr fun s₁ hI ho z hz => ?_)
  have hidle : (cacheCoop store w).Ready .idle .idle s₁ s₁ := Coop.ready_refl hI ho
  cases z with
  | error exc => exact hidle
  | ok pages =>
    have hkeys : pages.flatten = w.keysUnder x := by
      rcases hz with ⟨-, _, hz⟩ | ⟨_, hz, hkeys⟩ <;> cases hz
      exact hkeys
    show Wp _ (if _ then _ else _) _ _ _ _
    split
    · exact wp_raise hidle
    refine wp_bind (wp_mkdir rfl rfl (fun u hmk => ?_) fun e _ => hidle)
    have hidle' := hidle.step fun hI ho => ready_same hI ho (FileTree.sameFiles_mkdir hmk)
    refine wp_bind (wp_fsCall rfl fun y v hv => ?_)
    rcases hv with ⟨name, hn, hv, rfl⟩ | ⟨-, rfl, n, message, rfl⟩
    swap
    · exact hidle'
    have htmp : (cacheCoop store w).Ready (.tmp ⟨name, segs, []⟩) .idle s₁ v :=
      hidle'.step fun hI _ => ready_mkdtemp hI hn hv
    refine wp_tryFinally (wp_mono (Q := fun _ g s₀ s => Published store w name segs g s₀ s) ?_ ?_)
    · -- `finally`: the temporary directory goes, unless it has moved
      intro r g s₀ s hpub
      refine wp_bind (wp_fsCall rfl fun z t hz => ?_)
      obtain ⟨rfl, rfl⟩ := hz
      refine wp_ofExcept ?_
      rcases hpub with ⟨done, hown⟩ | ⟨hidle, hnone⟩
      · exact hown.step fun hI ho => ready_rmtree hI ho
      · exact hidle.step fun hI ho => ready_same hI ho (FileTree.sameFiles_rmtree hnone)
    · have hloop : (forEach (downloadObject store x (placed store [name])) pages.flatten).Wp
          (cacheCoop store w) _ .idle s₁ v :=
        wp_forEach (fun l => (cacheCoop store w).Ready (.tmp ⟨name, segs, doneOf segs l⟩))
          (fun _ => Loading store w name segs) (fun l key r hl g s₀ s hJ => wp_downloadObject hx hsegs
            (by rw [← hkeys, hl]; simp) hJ) htmp
      refine wp_bind (wp_mono (fun r g s₀ s hr => ?_) hloop)
      cases r with
      | error exc => exact Or.inl hr
      | ok units =>
        refine wp_publish hk (fun p b hp hb => ?_) hr
        rw [hkeys]
        exact mem_doneOf hx hp hb

/-- What a fetch of `uri` has ended with, in a state `s`. -/
def Fetched (store : TemplateStore) (w : CacheWorld) (uri : String) :
    Except Exc TemplateBundle → Files → Prop
  | .ok bundle, s => ∃ x segs content, parseS3Uri uri = .ok (store.bucket, x) ∧ WfDir x segs ∧
      w.Kept segs ∧ bundle.root = placed store segs ∧
      s.node (bundle.root ++ [manifestName]) = some (.file content) ∧
      store.modelValidateJson content = .ok bundle.manifest
  | .error _, _ => True

/-- A URI of the bucket has a well-formed prefix, outside the temporary
directories. -/
def WfUri (store : TemplateStore) (w : CacheWorld) (uri : String) : Prop :=
  ∀ x, parseS3Uri uri = .ok (store.bucket, x) → x ≠ "" → ∃ segs, WfDir x segs ∧ w.Kept segs

theorem ends_error {uri : String} {exc : Exc} (hr : (cacheCoop store w).Ready .idle g₀ s₀ s) :
    (cacheCoop store w).Ends (Fetched store w uri) (.error exc) g₀ s₀ s :=
  ⟨.idle, hr, fun _ _ _ => trivial⟩

theorem wp_fetch {uri : String} (hu : WfUri store w uri) (hr : (cacheCoop store w).Ready .idle g₀ s₀ s) :
    (fetch store uri).Wp (cacheCoop store w) ((cacheCoop store w).Ends (Fetched store w uri)) g₀ s₀ s := by
  rcases fetch_cases store uri with ⟨message, hf⟩ | ⟨x, hparse, hne, hf⟩ <;> rw [hf]
  · exact wp_raise (ends_error hr)
  obtain ⟨segs, hx, hk⟩ := hu x hparse hne
  unfold fetchPrefix
  rcases hdir : localDirFor store x with exc | dir
  · exact wp_raise (ends_error hr)
  obtain ⟨hsegs, rfl⟩ := hx.localDir_ok.mp hdir
  refine wp_bind (wp_mono (Q := fun _ => (cacheCoop store w).Ready .idle) ?_ ?_)
  · intro r g s₀ s hr
    cases r with
    | error exc => exact ends_error hr
    | ok _ =>
      refine wp_bind (wp_loadManifest rfl (fun content u hy => ⟨fun manifest hvalid => ?_, fun _ _ => ?_⟩)
        fun _ u hy => ?_)
      · obtain ⟨rfl, ⟨_, hnode, hc⟩ | ⟨-, _, hc⟩⟩ := w.fsAnswers_readBytes hy <;> cases hc
        have hserved := hr.step fun hI _ => ready_serve hI hk (placed_append segs [manifestName] ▸ hnode)
        refine ⟨_, hserved, fun s' _ ho => ?_⟩
        refine ⟨x, segs, content, hparse, hx, hk, rfl, ?_, hvalid⟩
        exact placed_append segs [manifestName] ▸ ho.2
      · obtain rfl := hy.1
        exact ends_error hr
      · obtain rfl := hy.1
        exact ends_error hr
  · unfold ensureCached
    refine wp_bind (wp_fsCall rfl fun y u hy => ?_)
    obtain ⟨rfl, rfl⟩ := hy
    show Wp _ (if _ then _ else _) _ _ _ _
    split
    · exact wp_ret hr
    · exact wp_downloadPrefix hx hsegs hk hr

/-- A fetch looks for the manifest first, unless it rejects its URI. -/
theorem fetch_begins (uri : String) : (∃ exc, fetch store uri = .raise exc) ∨
    ∃ p k, fetch store uri = .call (.inr (.isFile p)) k := by
  rcases fetch_cases store uri with ⟨message, hf⟩ | ⟨x, -, -, hf⟩ <;> rw [hf]
  · exact Or.inl ⟨_, rfl⟩
  unfold fetchPrefix
  split
  · exact Or.inl ⟨_, rfl⟩
  · exact Or.inr ⟨_, _, rfl⟩

theorem rest_fetch {uri : String} (hu : WfUri store w uri) :
    (cacheCoop store w).Rest (Fetched store w uri) (fetch store uri) .idle := by
  rcases fetch_begins uri with ⟨exc, hf⟩ | ⟨p, k, hf⟩
  · rw [hf]
    exact fun _ _ _ => trivial
  · rw [hf]
    refine Coop.rest_of_wp_call rfl fun s hI ho => ?_
    rw [← hf]
    exact wp_fetch hu (Coop.ready_refl hI ho)

/-- An empty cache satisfies the invariant. -/
theorem cacheInv_empty (h : ∀ p, p ≠ [] → s.node (placed store p) = none) : CacheInv store w s := by
  have hno : ∀ p b, w.Kept p → s.node (placed store p) ≠ some (.file b) := by
    rintro p b ⟨seg, r, rfl, -⟩ hb
    rw [h _ (List.cons_ne_nil seg r)] at hb
    cases hb
  exact ⟨fun p b hp hb => absurd hb (hno p b hp), fun p b hp hb => absurd hb (hno p b hp)⟩

/-- Every object listed under the prefix `x` is at its place below `dir`. -/
def EntryComplete (w : CacheWorld) (x : String) (dir : FilePath) (s : Files) : Prop :=
  ∀ key b, (key, b) ∈ w.objects → x.toList <+: key.toList → key.toList.getLast? ≠ some '/' →
    s.node (join dir (relKey x key)) = some (.file b)

/-- Where every object is below the directory of a prefix, its entry is
complete. -/
theorem entryComplete_of_objects {x : String} {segs : FilePath} (hx : WfDir x segs)
    (h : ∀ p b, p ≠ [] → w.Has (segs ++ p) b → s.node (placed store (segs ++ p)) = some (.file b)) :
    EntryComplete w x (placed store segs) s := by
  intro key b hb hpre hends
  have hobj : WfObject key := (w.keys_wf _ hb).resolve_right fun ⟨_, h⟩ => hends h.ends
  obtain ⟨p, hp, -, hsplit, hjoin⟩ := hobj.rel hx hpre
  rw [hjoin, ← placed_append]
  exact h p b hp ⟨key, hb, hobj, hsplit⟩

/-- A manifest in the directory of a prefix is that of a complete prefix. -/
theorem CacheInv.objects {segs : FilePath} (hI : CacheInv store w s) (hk : w.Kept segs)
    (hm : s.isFile (placed store segs ++ [manifestName]) = true) {p : FilePath} {b : Bytes} (hp : p ≠ [])
    (hb : w.Has (segs ++ p) b) : s.node (placed store (segs ++ p)) = some (.file b) := by
  obtain ⟨content, hcontent⟩ := s.isFile_iff.mp hm
  rw [← placed_append] at hcontent
  obtain ⟨y, -, hy, hc⟩ := hI.complete _ _ (hk.below (List.prefix_append _ _)) hcontent
  rcases List.prefix_concat_iff.mp hy with rfl | ⟨r, rfl⟩
  · -- the manifest is a file, and the directory of a complete prefix is not
    rw [hc.dir] at hcontent
    cases hcontent
  · rw [List.append_assoc] at hb ⊢
    exact hc.objects (r ++ p) b (List.append_ne_nil_of_right_ne_nil r hp) hb

theorem CacheInv.entry {x : String} {segs : FilePath} (hI : CacheInv store w s) (hx : WfDir x segs)
    (hk : w.Kept segs) (hm : s.isFile (placed store segs ++ [manifestName]) = true) :
    EntryComplete w x (placed store segs) s :=
  entryComplete_of_objects hx fun _ _ hp hb => hI.objects hk hm hp hb

/-! ### A run -/

/-- A run goes on after an answer of S3. -/
theorem exec_s3 {faults : Bool} (op : S3Op) (x : Except Exc op.Res)
    {k : Except Exc op.Res → Coroutine storeSig α} {r : Except Exc α} {P : Files → Prop}
    (hx : w.s3Answer faults op x) (h : ∃ t, (k x).Exec (w.sem faults) s r t ∧ P t) :
    ∃ t, (call (S := storeSig) (Sum.inl op) k).Exec (w.sem faults) s r t ∧ P t :=
  exec_goes_on (S := storeSig) (.inl op) x ⟨hx, rfl⟩ h

/-- A run goes on after a call on the file system. -/
theorem exec_fs {faults : Bool} (op : FsOp) (x : Except Exc op.Res)
    {k : Except Exc op.Res → Coroutine storeSig α} {u : Files} {r : Except Exc α} {P : Files → Prop}
    (hx : w.fsAnswers op s x u) (h : ∃ t, (k x).Exec (w.sem faults) u r t ∧ P t) :
    ∃ t, (call (S := storeSig) (Sum.inr op) k).Exec (w.sem faults) s r t ∧ P t :=
  exec_goes_on (S := storeSig) (.inr op) x hx h

theorem answer_mkdir {b : AnyBucket} {p : FilePath} (h : s.isFile p = false)
    (hb : s.blocked p = false) : b.fsAnswers (.mkdir p) s (.ok ()) (s.addDirs p) := by
  have hmk : s.mkdir p = .ok (s.addDirs p) := by simp [FileTree.mkdir, h, hb]
  show fsAnswer _ (s.mkdir p) _ _ _
  rw [hmk]
  exact ⟨rfl, rfl⟩

/-- Two templates, one below the other. -/
def nestedWorld : CacheWorld where
  objects := [("a/b/manifest.json", [2]), ("a/manifest.json", [1])]
  keys_nodup := by decide
  keys_wf := by
    intro o ho
    refine Or.inl ?_
    revert o
    decide
  isTemp name := name == "tmp"

theorem wfDir_outer : WfDir "a/" ["a"] := ⟨by decide, by decide, by decide⟩

theorem wfDir_inner : WfDir "a/b/" ["a", "b"] := ⟨by decide, by decide, by decide⟩

theorem wfUri_outer : WfUri cacheStore nestedWorld "s3://bkt/a/" := by
  intro x hx _
  cases (show Except.ok ("bkt", "a/") = Except.ok (_, x) from hx)
  exact ⟨_, wfDir_outer, "a", [], rfl, rfl⟩

theorem wfUri_inner : WfUri cacheStore nestedWorld "s3://bkt/a/b/" := by
  intro x hx _
  cases (show Except.ok ("bkt", "a/b/") = Except.ok (_, x) from hx)
  exact ⟨_, wfDir_inner, "a", ["b"], rfl, rfl⟩

/-- The template below is fetched into an empty cache: the directory of the one
above is then there, without its manifest. -/
theorem exec_fetch_inner (faults : Bool) : ∃ t,
    (fetch cacheStore "s3://bkt/a/b/").Exec (nestedWorld.sem faults) FileTree.empty
      (.ok ⟨invoiceManifest, ["cache", "a", "b"]⟩) t ∧
    (t.node ["cache", "a"] = some .dir ∧ t.node ["cache", "a", "manifest.json"] = none) := by
  have hf : fetch cacheStore "s3://bkt/a/b/" = fetchPrefix cacheStore "s3://bkt/a/b/" "a/b/" :=
    fetch_eq cacheStore (by decide) (by decide)
  have hd : localDirFor cacheStore "a/b/" = .ok ["cache", "a", "b"] := by decide
  rw [hf, fetchPrefix, hd]
  refine exec_fs (.isFile ["cache", "a", "b", "manifest.json"]) (.ok false) ⟨rfl, rfl⟩ ?_
  refine exec_s3 (.listObjectsV2 "bkt" "a/b/") (.ok [["a/b/manifest.json"]])
    (Or.inr ⟨_, rfl, by decide⟩) ?_
  refine exec_fs (.mkdir ["cache"]) (.ok ()) (answer_mkdir (by decide) (by decide)) ?_
  refine exec_fs (.mkdtemp ["cache"]) (.ok ["cache", "tmp"])
    (Or.inl ⟨"tmp", rfl, rfl, rfl⟩) ?_
  refine exec_fs (.mkdir ["cache", "tmp"]) (.ok ()) (answer_mkdir (by decide) (by decide)) ?_
  refine exec_s3 (.getObject "bkt" "a/b/manifest.json") (.ok [2])
    (Or.inr (Or.inl ⟨[2], by decide, rfl⟩)) ?_
  refine exec_fs (.writeBytes ["cache", "tmp", "manifest.json"] [2]) (.ok ()) ⟨rfl, rfl⟩ ?_
  refine exec_fs (.exists ["cache", "a", "b"]) (.ok false) ⟨rfl, rfl⟩ ?_
  refine exec_fs (.mkdir ["cache", "a"]) (.ok ()) (answer_mkdir (by decide) (by decide)) ?_
  refine exec_fs (.replace ["cache", "tmp"] ["cache", "a", "b"]) (.ok ())
    (Or.inl ⟨["cache", "a"], "b", ⟨by decide, by decide, by decide, by decide, Or.inl rfl⟩, rfl, rfl, rfl⟩) ?_
  refine exec_fs (.rmtree ["cache", "tmp"]) (.ok ()) ⟨rfl, rfl⟩ ?_
  refine exec_fs (.readBytes ["cache", "a", "b", "manifest.json"]) (.ok [2]) ⟨rfl, rfl⟩ ?_
  exact ⟨_, ⟨rfl, rfl⟩, rfl, rfl⟩

/-- **Complete entries.** In every state that any interleaving of any number of
fetches reaches from an empty cache, with any listing or get failing: a prefix
whose manifest is in its directory has all its objects there, and a bundle that
a fetch has returned is that of such a prefix. -/
theorem cache_entries_complete {ι : Type} [DecidableEq ι] {uris : ι → String} {s₀ : Files}
    {c : Threads storeSig Exc ι Files TemplateBundle} (hu : ∀ i, WfUri store w (uris i))
    (hempty : ∀ p, p ≠ [] → s₀.node (placed store p) = none)
    (h : Threads.Reach (w.sem true) isFs ⟨s₀, fun i => fetch store (uris i)⟩ c) :
    (∀ x segs dir, WfDir x segs → w.Kept segs → localDirFor store x = .ok dir →
      c.shared.isFile (dir ++ [manifestName]) = true → EntryComplete w x dir c.shared) ∧
    ∀ i bundle, c.thread i = .ret bundle → ∃ x content,
      parseS3Uri (uris i) = .ok (store.bucket, x) ∧ localDirFor store x = .ok bundle.root ∧
      c.shared.node (bundle.root ++ [manifestName]) = some (.file content) ∧
      store.modelValidateJson content = .ok bundle.manifest ∧
      EntryComplete w x bundle.root c.shared := by
  obtain ⟨hI, hfin⟩ := Coop.coop_sound (C := cacheCoop store w)
    (fun i => Fetched store w (uris i)) (fun _ => .idle) (cacheInv_empty hempty)
    (fun _ => trivial) (fun _ _ _ => trivial) (fun i => rest_fetch (hu i)) h
  refine ⟨fun x segs dir hx hk hdir hm => ?_, fun i bundle hi => ?_⟩
  · obtain ⟨-, rfl⟩ := hx.localDir_ok.mp hdir
    exact hI.entry hx hk hm
  · obtain ⟨x, segs, content, hparse, hx, hk, hroot, hnode, hvalid⟩ := hfin i (.ok bundle) hi
    refine ⟨x, content, hparse, ?_, hnode, hvalid, ?_⟩
    · rw [hroot, ← placed_append] at hnode
      have hplain := (hI.object _ _ (hk.below (List.prefix_append _ _)) hnode).2
      exact hx.localDir_ok.mpr ⟨(nulFree_append.mp hplain).1, hroot⟩
    · rw [hroot] at hnode ⊢
      exact hI.entry hx hk ((FileTree.isFile_iff _).mpr ⟨content, hnode⟩)

end

/-- Two templates, one below the other, fetched side by side: the one below has
been served, the other fetch has not begun. -/
theorem cache_entries_complete_nested : ∃ c : Threads storeSig Exc Bool Files TemplateBundle,
    c.thread true = .ret ⟨invoiceManifest, ["cache", "a", "b"]⟩ ∧
    EntryComplete nestedWorld "a/b/" ["cache", "a", "b"] c.shared := by
  obtain ⟨t, ht, -⟩ := exec_fetch_inner true
  have hu : ∀ i : Bool, WfUri cacheStore nestedWorld (if i then "s3://bkt/a/b/" else "s3://bkt/a/") := by
    rintro (_ | _)
    · exact wfUri_outer
    · exact wfUri_inner
  have hempty : ∀ p, p ≠ [] → (FileTree.empty : Files).node (placed cacheStore p) = none :=
    fun p _ => FileTree.node_empty (List.cons_ne_nil "cache" p)
  have h := cache_entries_complete hu hempty (Threads.reach_exec isFs (i := true) ht rfl)
  obtain ⟨x, content, hparse, -, -, -, hentry⟩ := h.2 true
    ⟨invoiceManifest, ["cache", "a", "b"]⟩ (by simp)
  cases (show Except.ok ("bkt", "a/b/") = Except.ok (_, x) from hparse)
  exact ⟨_, by simp, hentry⟩

end DocGen
