/-
# Which templates share a cache directory

The cache directory of a template is its prefix, resolved below the cache
root. Two prefixes that differ as strings name different objects of the
bucket, but respellings of one path share a directory, and a respelling of
nothing is the root itself. That is the only way either happens
(`cache_dir_shared_iff`).
-/
import DocGen.TemplateStore

namespace DocGen

open DocGen.Path

/-! ### Prefixes -/

/-- A normalised prefix ends with a slash and does not start with one. -/
theorem prefix_head {uri bucket keyPrefix : String} (h : parseS3Uri uri = .ok (bucket, keyPrefix)) :
    keyPrefix.toList.head? ≠ some '/' := by
  unfold parseS3Uri at h
  split at h
  · cases h
  simp only at h
  split at h
  · cases h
  split at h
  · obtain ⟨-, rfl⟩ := Prod.mk.inj (Except.ok.inj h)
    rename_i hne
    rw [String.toList_append, List.head?_append_of_ne_nil]
    · exact head_strip '/' _
    · intro h'
      exact hne (String.toList_inj.mp h')
  · obtain ⟨-, rfl⟩ := Prod.mk.inj (Except.ok.inj h)
    simp

section

variable (store : TemplateStore)

/-- A URI of the store's bucket with a prefix of its own, whose directory
passes the guard. -/
structure Accepted (uri keyPrefix : String) (dir : FilePath) : Prop where
  parsed : parseS3Uri uri = .ok (store.bucket, keyPrefix)
  nonempty : keyPrefix ≠ ""
  guarded : localDirFor store keyPrefix = .ok dir

/-- A prefix, read after the cache root. -/
def rooted (keyPrefix : String) : List String := store.cacheDir ++ split '/' keyPrefix

end

variable {store : TemplateStore}

theorem walk_cacheDir : walk [] store.cacheDir = store.cacheDir := by
  rw [walk_proper [] store.cacheDir_proper, List.nil_append]

/-- The directory is where the prefix leads to. -/
theorem Accepted.dir_eq {uri keyPrefix : String} {dir : FilePath}
    (h : Accepted store uri keyPrefix dir) : dir = walk [] (rooted store keyPrefix) := by
  obtain ⟨-, -, rfl⟩ := (localDirFor_ok store).mp h.guarded
  rw [join, if_neg (prefix_head h.parsed), rooted, walk_append, walk_cacheDir]

/-- **Sharing.** Two accepted templates with different prefixes have cache
directories of their own, neither of them the cache root, exactly if the
prefixes, read after the root, are no respellings of each other or of the
root. -/
theorem cache_dir_shared_iff {u v p q : String} {dp dq : FilePath} (hu : Accepted store u p dp)
    (hv : Accepted store v q dq) :
    (p ≠ q → dp ≠ dq ∧ dp ≠ store.cacheDir ∧ dq ≠ store.cacheDir) ↔
      (p = q ∨ ¬ Respells (rooted store p) (rooted store q) ∧
        ¬ Respells (rooted store p) store.cacheDir ∧ ¬ Respells (rooted store q) store.cacheDir) := by
  rw [respells_iff, respells_iff, respells_iff, walk_cacheDir, ← hu.dir_eq, ← hv.dir_eq]
  exact ⟨fun h => (eq_or_ne p q).imp id h, fun h hne => h.resolve_left hne⟩

/-- A store with a cache at `/cache`, to which every text but an empty one is
a valid manifest. -/
def cacheStore : TemplateStore where
  bucket := "bkt"
  cacheDir := ["cache"]
  cacheDir_proper := by decide
  modelValidateJson content := if content = [] then .error "EOF" else .ok invoiceManifest

/-- Two templates with directories of their own. -/
theorem cache_dir_shared_iff_apart :
    ("a/" ≠ "b/" → (["cache", "a"] : FilePath) ≠ ["cache", "b"] ∧
        (["cache", "a"] : FilePath) ≠ cacheStore.cacheDir ∧
        (["cache", "b"] : FilePath) ≠ cacheStore.cacheDir) ↔
      ("a/" = "b/" ∨ ¬ Respells (rooted cacheStore "a/") (rooted cacheStore "b/") ∧
        ¬ Respells (rooted cacheStore "a/") cacheStore.cacheDir ∧
        ¬ Respells (rooted cacheStore "b/") cacheStore.cacheDir) :=
  cache_dir_shared_iff (u := "s3://bkt/a/") (v := "s3://bkt/b") ⟨by decide, by decide, by decide⟩
    ⟨by decide, by decide, by decide⟩

/-- `a//b` and `a/b` are prefixes of different objects and share a directory,
so templates do not always have directories of their own. -/
theorem cache_dir_shared : ¬ ∀ (store : TemplateStore) (u v p q : String) (dp dq : FilePath),
    Accepted store u p dp → Accepted store v q dq → p ≠ q →
      dp ≠ dq ∧ dp ≠ store.cacheDir ∧ dq ≠ store.cacheDir := by
  intro h
  have hshared := h cacheStore "s3://bkt/a//b/" "s3://bkt/a/b/" "a//b/" "a/b/" ["cache", "a", "b"]
    ["cache", "a", "b"] ⟨by decide, by decide, by decide⟩ ⟨by decide, by decide, by decide⟩ (by decide)
  exact hshared.1 rfl

end DocGen
