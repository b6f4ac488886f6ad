/-
# What a fetch finds depends on what was fetched before

Fetches one after the other over one cache, from an empty one, whatever S3 does
to the earlier ones. A fetch without faults finds what it would find in an
empty cache, except in one case: its template is sound, its directory is there
and the manifest is not in it, as when a template below was published first.
The download is then dropped, and the fetch reads a manifest that is not there.
-/
import DocGen.CacheFetch

namespace DocGen

open Prog DocGen.Path

section

variable (store : TemplateStore) (w : CacheWorld)

/-- An empty cache. -/
structure EmptyCache (s : Files) : Prop where
  root : s.blocked store.cacheDir = false
  none : ∀ p, p ≠ [] → s.node (placed store p) = none

/-- The fetches of the URIs, one after the other. -/
def Ran (faults : Bool) : List String → Files → Files → Prop
  | [], s, t => t = s
  | uri :: uris, s, t => ∃ r u, (fetch store uri).Exec (w.sem faults) s r u ∧ Ran faults uris u t

/-- Two fetches of the URI end alike: with the same manifest and the same files
for the objects of the prefix, or with exceptions of one class. -/
def SameOutcome (uri : String) : Except Exc TemplateBundle → Files → Except Exc TemplateBundle → Files → Prop
  | .ok bundle, t, .ok bundle', t' => bundle.manifest = bundle'.manifest ∧
    ∀ x, parseS3Uri uri = .ok (store.bucket, x) → ∀ key b, (key, b) ∈ w.objects → x.toList <+: key.toList →
      t.node (join bundle.root (relKey x key)) = t'.node (join bundle'.root (relKey x key))
  | .error exc, _, .error exc', _ => exc.cls = exc'.cls
  | _, _, _, _ => False

/-- The directory of a sound template is there without its manifest. -/
def Stuck (uri : String) (s : Files) : Prop :=
  ∃ x segs manifest, parseS3Uri uri = .ok (store.bucket, x) ∧ WfDir x segs ∧
    Loadable store w segs manifest ∧ s.has (placed store segs) = true ∧
    s.isFile (placed store segs ++ [manifestName]) = false

end

variable {store : TemplateStore} {w : CacheWorld} {faults : Bool} {s s₀ s₁ t t' : Files} {uri : String}

/-! ### What a sequence of fetches keeps -/

theorem EmptyCache.cacheInv (h : EmptyCache store s) : CacheInv store w s := cacheInv_empty h.none

theorem EmptyCache.clean (h : EmptyCache store s) : Clean store w s where
  root := h.root
  temps name _ := h.none [name] (List.cons_ne_nil name [])

/-- What happens without faults may happen with them. -/
theorem sem_faults (op : storeSig.Op) (s : Files) (x : storeSig.Ans Exc op) (t : Files)
    (h : w.sem faults op s x t) : w.sem true op s x t := by
  rcases op with op | op
  · obtain ⟨hx, rfl⟩ := h
    refine ⟨?_, rfl⟩
    cases op with
    | listObjectsV2 b x => exact hx.imp_left fun h => ⟨rfl, h.2⟩
    | getObject b key => exact hx.imp_left fun h => ⟨rfl, h.2⟩
    | _ => trivial
  · cases op <;> exact h

theorem fetch_keeps (hkeys : ∀ o ∈ w.objects, WfObject o.1) (htemp : ∃ name, w.isTemp name = true)
    (hu : WfUri store w uri) (hI : CacheInv store w s) (hs : Clean store w s)
    {r : Except Exc TemplateBundle} (h : (fetch store uri).Exec (w.sem faults) s r t) :
    CacheInv store w t ∧ Clean store w t := by
  constructor
  · obtain ⟨_, _, _, hr, -⟩ :=
      exec_of_wp (wp_fetch hu (Coop.ready_refl hI trivial)) (exec_mono sem_faults h)
    exact hr.inv
  · rcases fetch_cases store uri with ⟨message, hf⟩ | ⟨x, hparse, hne, hf⟩ <;> rw [hf] at h
    · obtain ⟨-, rfl⟩ := h
      exact hs
    · obtain ⟨segs, hx, hk⟩ := hu x hparse hne
      by_cases hsegs : NulFree segs
      · obtain ⟨_, ht, -⟩ := exec_of_wp_alone (wp_fetchPrefix_alone hkeys htemp hx hsegs hk hI hs uri) h
        exact ht
      · rw [fetchPrefix_nul hx hsegs] at h
        obtain ⟨-, rfl⟩ := h
        exact hs

/-- After any sequence of fetches the cache satisfies the invariant. -/
theorem ran_keeps (hkeys : ∀ o ∈ w.objects, WfObject o.1) (htemp : ∃ name, w.isTemp name = true) :
    ∀ {uris : List String} {s : Files}, (∀ uri ∈ uris, WfUri store w uri) → CacheInv store w s →
      Clean store w s → Ran store w faults uris s t → CacheInv store w t ∧ Clean store w t
  | [], s, _, hI, hs, h => by
    obtain rfl : t = s := h
    exact ⟨hI, hs⟩
  | uri :: uris, s, hu, hI, hs, ⟨r, u, hr, h⟩ => by
    obtain ⟨hI', hs'⟩ := fetch_keeps hkeys htemp (hu uri List.mem_cons_self) hI hs hr
    exact ran_keeps hkeys htemp (fun v hv => hu v (List.mem_cons_of_mem _ hv)) hI' hs' h

/-! ### The last fetch -/

/-- Every call has an answer. -/
theorem sem_total (faults : Bool) (op : storeSig.Op) (s : Files) : ∃ x t, w.sem faults op s x t := by
  have hanswer : ∀ (p : FilePath) (r : Except FsError Files), ∃ x t, fsAnswer p r s x t := by
    rintro p (e | u)
    · exact ⟨_, _, rfl, rfl⟩
    · exact ⟨_, _, rfl, rfl⟩
  rcases op with op | op
  · cases op with
    | listObjectsV2 b x => exact ⟨.ok [w.keysUnder x], s, Or.inr ⟨_, rfl, by simp⟩, rfl⟩
    | getObject b key =>
      by_cases h : ∃ b, (key, b) ∈ w.objects
      · obtain ⟨c, hc⟩ := h
        exact ⟨.ok c, s, Or.inr (Or.inl ⟨c, hc, rfl⟩), rfl⟩
      · exact ⟨_, s, Or.inr (Or.inr ⟨fun c hc => h ⟨c, hc⟩, "", rfl⟩), rfl⟩
    | putObject b key body ct => exact ⟨.ok (), s, trivial, rfl⟩
    | generatePresignedUrl b key ttl => exact ⟨.ok "", s, trivial, rfl⟩
  · cases op with
    | isFile p => exact ⟨_, _, rfl, rfl⟩
    | «exists» p => exact ⟨_, _, rfl, rfl⟩
    | mkdir p => exact hanswer p _
    | writeBytes p content => exact hanswer p _
    | rmtree p => exact ⟨_, _, rfl, rfl⟩
    | mkdtemp dir =>
      by_cases h : ∃ name, w.isTemp name = true ∧ ∃ t, s.mkdirIn dir name = .ok t
      · obtain ⟨name, hn, t, ht⟩ := h
        exact ⟨_, t, Or.inl ⟨name, hn, ht, rfl⟩⟩
      · exact ⟨_, s, Or.inr ⟨fun name hn t ht => h ⟨name, hn, t, ht⟩, rfl, 0, "", rfl⟩⟩
    | readBytes p =>
      rcases hread : s.read p with e | b
      · refine ⟨.error (fsError p e), s, rfl, ?_⟩
        rw [hread]
        rfl
      · refine ⟨.ok b, s, rfl, ?_⟩
        rw [hread]
        rfl
    | replace src dst =>
      by_cases h : ∃ d a, dst = d ++ [a] ∧ s.Movable src d a
      · obtain ⟨d, a, hd, hm⟩ := h
        exact ⟨_, _, Or.inl ⟨d, a, hm, hd, rfl, rfl⟩⟩
      · exact ⟨_, s, Or.inr ⟨fun d a hd hm => h ⟨d, a, hd, hm⟩, rfl, 0, "", rfl⟩⟩

/-- A prefix has one list of segments. -/
theorem WfDir.segs_unique {x : String} {segs segs' : FilePath} (h : WfDir x segs) (h' : WfDir x segs') :
    segs = segs' :=
  List.append_cancel_right (h.split_eq.symm.trans h'.split_eq)

theorem WfDir.text_ne {x : String} {segs : FilePath} (h : WfDir x segs) : x ≠ "" := by
  rintro rfl
  have hsplit := h.split_eq
  rw [split_empty] at hsplit
  exact h.ne (List.append_cancel_right (hsplit.symm.trans (List.nil_append _).symm))

/-- Unless the first finds its template stuck, two fetches end alike. -/
theorem Fetches.same {x : String} {segs : FilePath} {r r' : Except Exc TemplateBundle}
    (hkeys : ∀ o ∈ w.objects, WfObject o.1) (hparse : parseS3Uri uri = .ok (store.bucket, x))
    (hx : WfDir x segs) (hstuck : ¬ Stuck store w uri s)
    (hfresh : s₁.has (placed store segs) = false) (h : Fetches store w x segs s t r)
    (h' : Fetches store w x segs s₁ t' r') : SameOutcome store w uri r t r' t' := by
  have hfree : ∀ m, Loadable store w segs m →
      ¬ (s.isFile (placed store segs ++ [manifestName]) = false ∧ s.has (placed store segs) = true) :=
    fun m hm hbad => hstuck ⟨x, segs, m, hparse, hx, hm, hbad.2, hbad.1⟩
  have hfresh' : ∀ m, Loadable store w segs m →
      ¬ (s₁.isFile (placed store segs ++ [manifestName]) = false ∧ s₁.has (placed store segs) = true) :=
    fun m _ hbad => Bool.noConfusion (hfresh.symm.trans hbad.2)
  cases h with
  | served hm _ ht =>
    cases h' with
    | served hm' _ ht' =>
      obtain ⟨c, hc, hv⟩ := hm.valid
      obtain ⟨c', hc', hv'⟩ := hm'.valid
      rw [hc.unique hc'] at hv
      refine ⟨Except.ok.inj (hv.symm.trans hv'), fun x' hx' key b hb hpre => ?_⟩
      cases hparse.symm.trans hx'
      have hends := (hkeys _ hb).not_ends
      rw [ht key b hb hpre hends, ht' key b hb hpre hends]
    | notFound _ h _ => exact absurd (h _ hm) (hfresh' _ hm)
    | unfit _ hc _ _ => exact absurd hc hm.fits
  | notFound hl h _ =>
    cases h' with
    | served hm' _ _ => exact absurd (h _ hm') (hfree _ hm')
    | notFound _ _ _ => rfl
    | unfit hl' hc _ _ => exact absurd hc (hl hl')
  | unfit hl hc he _ =>
    cases h' with
    | served hm' _ _ => exact absurd hc hm'.fits
    | notFound hl' _ _ => exact absurd hc (hl' hl)
    | unfit _ _ he' _ =>
      cases Option.some.inj (he.symm.trans he')
      exact TurnError.exc_cls _ _ _

section

variable (hkeys : ∀ o ∈ w.objects, WfObject o.1) (htemp : ∃ name, w.isTemp name = true)
include hkeys htemp

/-- What a fetch of an accepted URI ends with. -/
theorem exec_fetches {x : String} {segs : FilePath} (hparse : parseS3Uri uri = .ok (store.bucket, x))
    (hx : WfDir x segs) (hsegs : NulFree segs) (hk : w.Kept segs) (hI : CacheInv store w s) (hs : Clean store w s)
    {r : Except Exc TemplateBundle} (h : (fetch store uri).Exec (w.sem false) s r t) :
    Fetches store w x segs s t r := by
  rw [fetch_eq store hparse hx.text_ne] at h
  obtain ⟨_, -, hr⟩ := exec_of_wp_alone (wp_fetchPrefix_alone hkeys htemp hx hsegs hk hI hs uri) h
  exact hr rfl

/-- A fetch that finds its template stuck does not end as in an empty cache. -/
theorem not_same_of_stuck (hu : WfUri store w uri) (hI : CacheInv store w s) (hs : Clean store w s)
    (h₁ : EmptyCache store s₁) (hstuck : Stuck store w uri s) :
    ∃ r t r' t', (fetch store uri).Exec (w.sem false) s r t ∧
      (fetch store uri).Exec (w.sem false) s₁ r' t' ∧ ¬ SameOutcome store w uri r t r' t' := by
  obtain ⟨x, segs, m, hparse, hx, hm, hthere, hmissing⟩ := hstuck
  obtain ⟨segs', hx', hk⟩ := hu x hparse hx.text_ne
  obtain rfl := hx'.segs_unique hx
  obtain ⟨r, t, hr⟩ := exec_total (sem_total (w := w) false) (fetch store uri) s
  obtain ⟨r', t', hr'⟩ := exec_total (sem_total (w := w) false) (fetch store uri) s₁
  refine ⟨r, t, r', t', hr, hr', ?_⟩
  have hnone : s₁.has (placed store segs') = false := by
    rw [FileTree.has, h₁.none _ hx.ne]
    rfl
  cases exec_fetches hkeys htemp hparse hx hm.nulFree hk h₁.cacheInv h₁.clean hr' with
  | notFound _ h _ => exact absurd ((h _ hm).2.symm.trans hnone) Bool.noConfusion
  | unfit _ hc _ _ => exact absurd hc hm.fits
  | served _ _ _ =>
    cases exec_fetches hkeys htemp hparse hx hm.nulFree hk hI hs hr with
    | served _ h _ =>
      rcases h with h | h
      · exact absurd (h.symm.trans hmissing) Bool.noConfusion
      · exact absurd (h.symm.trans hthere) Bool.noConfusion
    | notFound _ _ _ => exact id
    | unfit _ hc _ _ => exact absurd hc hm.fits

end

theorem nestedWorld_objects : ∀ o ∈ nestedWorld.objects, WfObject o.1 := by
  intro o ho
  revert o
  decide

theorem nestedWorld_has {p : FilePath} {b : Bytes} (h : nestedWorld.Has p b) :
    p ∈ [["a", "b", "manifest.json"], ["a", "manifest.json"]] := by
  obtain ⟨key, hkey, -, rfl⟩ := h
  have hmem : ∀ o ∈ nestedWorld.objects,
      split '/' o.1 ∈ [["a", "b", "manifest.json"], ["a", "manifest.json"]] := by
    decide
  exact hmem _ hkey

theorem nestedWorld_fits : ¬ Unfit nestedWorld ["a"] := by
  rintro (⟨p, q, b, c, -, hpq, hne, hb, hc⟩ | ⟨p, b, -, hb, hnul⟩)
  · have hall : ∀ p ∈ [["a", "b", "manifest.json"], ["a", "manifest.json"]],
        ∀ q ∈ [["a", "b", "manifest.json"], ["a", "manifest.json"]], p <+: q → p = q := by
      decide
    refine hne (List.append_cancel_left (hall _ (nestedWorld_has hb) _ (nestedWorld_has hc) ?_))
    exact (List.prefix_append_right_inj ["a"]).mpr hpq
  · have hall : ∀ p ∈ [["a", "b", "manifest.json"], ["a", "manifest.json"]], NulFree p := by decide
    exact hnul (hall _ (nestedWorld_has hb))

theorem emptyCache_empty : EmptyCache cacheStore FileTree.empty where
  root := rfl
  none p _ := FileTree.node_empty (List.cons_ne_nil "cache" p)

end DocGen
