/-
# Template URIs

`parse_s3_uri` splits a text at the first slash after the scheme and strips
the slashes around what follows, so that a URI has one normal form: a bucket
without a slash, and nothing or the name of a directory with one slash after
it. A key starts with such a prefix exactly if its segments go on from those
of the directory (`prefix_iff_in_directory`), which is what the listing of a
template, the guard of the cache and the relative paths of its files rest on.

Key definitions: `DirName`, `NormalForm`, `InDirectory`.
Key theorem: `parse_s3_uri_normal_form`.
-/
import DocGen.TemplateStore

namespace DocGen

/-- The name of a directory in a bucket: slashes only inside. -/
structure DirName (dir : String) : Prop where
  nonempty : dir ≠ ""
  head : dir.toList.head? ≠ some '/'
  last : dir.toList.getLast? ≠ some '/'

/-- A bucket and a prefix in normal form. -/
structure NormalForm (bucket keyPrefix : String) : Prop where
  bucket_ne : bucket ≠ ""
  bucket_slash : '/' ∉ bucket.toList
  directory : keyPrefix = "" ∨ ∃ dir, DirName dir ∧ keyPrefix = dir ++ "/"

/-- The segments of the key go on from those of the directory. -/
def InDirectory (dir key : String) : Prop :=
  ∃ rest, rest ≠ [] ∧ split '/' key = split '/' dir ++ rest

/-- `n` slashes. -/
def slashes (n : ℕ) : String := String.ofList (List.replicate n '/')

/-- The prefix of a stripped text. -/
def dirPrefix (s : String) : String := if s ≠ "" then s ++ "/" else ""

/-- A URI with `i` slashes right after the bucket and `k` at its end. -/
def uriText (bucket : String) (i : ℕ) (body : String) (k : ℕ) : String :=
  "s3://" ++ (bucket ++ (slashes i ++ body ++ slashes k))

/-- What may follow a bucket: nothing, or a slash and any text. -/
def AfterBucket (tail : String) : Prop := tail = "" ∨ tail.toList.head? = some '/'

/-! ### What is accepted -/

theorem toList_scheme_append (rest : String) :
    ("s3://" ++ rest).toList = "s3://".toList ++ rest.toList := String.toList_append

theorem scheme_iff (uri : String) :
    uri.toList.take 5 = "s3://".toList ↔ ∃ rest, uri = "s3://" ++ rest := by
  constructor
  · intro h
    have hdrop : (String.ofList (uri.toList.drop 5)).toList = uri.toList.drop 5 :=
      String.toList_ofList
    refine ⟨String.ofList (uri.toList.drop 5), String.toList_inj.mp ?_⟩
    rw [toList_scheme_append, hdrop, ← h, List.take_append_drop]
  · rintro ⟨rest, rfl⟩
    rw [toList_scheme_append]
    rfl

theorem parse_no_scheme {uri : String} (h : ∀ rest, uri ≠ "s3://" ++ rest) :
    ∃ message, parseS3Uri uri = .error message :=
  ⟨_, if_pos fun hs => (scheme_iff uri).mp hs |>.elim h⟩

/-- What stands before the first slash is the bucket. -/
theorem parse_bucket {bucket tail : String} (hslash : '/' ∉ bucket.toList) (htail : AfterBucket tail) :
    parseS3Uri ("s3://" ++ (bucket ++ tail)) =
      if bucket = "" then
        .error ("template uri has no bucket: " ++ pyRepr ("s3://" ++ (bucket ++ tail)))
      else .ok (bucket, dirPrefix (strip '/' tail)) := by
  have hdrop : ("s3://" ++ (bucket ++ tail)).toList.drop 5 = (bucket ++ tail).toList := by
    rw [toList_scheme_append]
    rfl
  unfold parseS3Uri
  rw [if_neg (not_not.mpr ((scheme_iff _).mpr ⟨_, rfl⟩))]
  simp only [hdrop, String.ofList_toList]
  rcases htail with rfl | htail
  · -- no slash: the partition leaves nothing after the bucket
    have hp : partition '/' (bucket ++ "") = (bucket, "") := by
      have hall : ∀ x ∈ bucket.toList, decide (x ≠ '/') = true := fun x hx =>
        decide_eq_true fun he => hslash (he ▸ hx)
      rw [String.append_empty, partition, List.takeWhile_eq_self_iff.mpr hall,
        List.dropWhile_eq_nil_iff.mpr hall, String.ofList_toList]
      rfl
    rw [hp]
    rfl
  · obtain ⟨rest, hrest⟩ := List.head?_eq_some_iff.mp htail
    have ht : tail = String.singleton '/' ++ String.ofList rest := by
      apply String.toList_inj.mp
      rw [hrest, String.toList_append, String.toList_ofList]
      rfl
    have hpad := strip_pad '/' 1 0 rest
    have hs : strip '/' tail = strip '/' (String.ofList rest) := by
      rw [← hpad, ← String.ofList_toList (s := tail), hrest]
      simp
    rw [hs, ht, ← String.append_assoc, partition_append '/' hslash]
    rfl

/-- A text after the scheme is a bucket and what may follow one. -/
theorem bucket_split (rest : String) :
    ∃ bucket tail, '/' ∉ bucket.toList ∧ AfterBucket tail ∧ rest = bucket ++ tail := by
  refine ⟨(partition '/' rest).1, String.ofList (rest.toList.dropWhile (· ≠ '/')),
    partition_fst_not_mem '/' rest, ?_, ?_⟩
  · rcases hd : rest.toList.dropWhile (· ≠ '/') with _ | ⟨c, l⟩
    · exact Or.inl rfl
    · have hc := List.head?_dropWhile_not (fun c : Char => decide (c ≠ '/')) rest.toList
      rw [hd] at hc
      simp only [List.head?_cons, decide_not, Bool.not_eq_false',
        decide_eq_true_eq] at hc
      refine Or.inr ?_
      rw [String.toList_ofList, List.head?_cons, hc]
  · apply String.toList_inj.mp
    rw [partition, String.toList_append, String.toList_ofList, String.toList_ofList,
      List.takeWhile_append_dropWhile]

/-- The texts accepted, and what they are accepted as. -/
theorem parse_ok_iff {uri bucket keyPrefix : String} : parseS3Uri uri = .ok (bucket, keyPrefix) ↔
    bucket ≠ "" ∧ '/' ∉ bucket.toList ∧ ∃ tail, AfterBucket tail ∧
      uri = "s3://" ++ (bucket ++ tail) ∧ keyPrefix = dirPrefix (strip '/' tail) := by
  constructor
  · intro h
    by_cases hs : ∃ rest, uri = "s3://" ++ rest
    swap
    · obtain ⟨message, hm⟩ := parse_no_scheme fun rest he => hs ⟨rest, he⟩
      rw [hm] at h
      cases h
    obtain ⟨rest, rfl⟩ := hs
    obtain ⟨b, tail, hslash, htail, rfl⟩ := bucket_split rest
    rw [parse_bucket hslash htail] at h
    split at h
    · cases h
    · rename_i hne
      obtain ⟨rfl, rfl⟩ := Prod.mk.inj (Except.ok.inj h)
      exact ⟨hne, hslash, tail, htail, rfl, rfl⟩
  · intro ⟨hne, hslash, tail, htail, huri, hkey⟩
    rw [huri, parse_bucket hslash htail, if_neg hne, hkey]

/-- The texts that raise. -/
theorem parse_error_iff (uri : String) : (∃ message, parseS3Uri uri = .error message) ↔
    (∀ rest, uri ≠ "s3://" ++ rest) ∨ ∃ tail, AfterBucket tail ∧ uri = "s3://" ++ tail := by
  constructor
  · rintro ⟨message, h⟩
    by_cases hs : ∃ rest, uri = "s3://" ++ rest
    swap
    · exact Or.inl fun rest he => hs ⟨rest, he⟩
    obtain ⟨rest, rfl⟩ := hs
    obtain ⟨b, tail, hslash, htail, rfl⟩ := bucket_split rest
    rw [parse_bucket hslash htail] at h
    split at h
    · rename_i hb
      exact Or.inr ⟨tail, htail, by rw [hb, String.empty_append]⟩
    · cases h
  · rintro (hs | ⟨tail, htail, he⟩)
    · exact parse_no_scheme hs
    · have hslash : '/' ∉ "".toList := List.not_mem_nil
      have h := parse_bucket hslash htail
      rw [if_pos rfl, String.empty_append, ← he] at h
      exact ⟨_, h⟩

/-! ### The normal form -/

/-- A stripped text is empty or the name of a directory. -/
theorem dir_name_strip (s : String) : strip '/' s = "" ∨ DirName (strip '/' s) :=
  or_iff_not_imp_left.mpr fun hne => ⟨hne, head_strip '/' s, getLast_strip '/' s⟩

theorem dirPrefix_strip (s : String) :
    dirPrefix (strip '/' s) = "" ∨ ∃ dir, DirName dir ∧ dirPrefix (strip '/' s) = dir ++ "/" := by
  rcases dir_name_strip s with h | h
  · exact Or.inl (if_neg (not_not.mpr h))
  · exact Or.inr ⟨_, h, if_pos h.nonempty⟩

/-- A prefix in normal form, stripped and read as a directory again, is
itself, whatever slashes are put before it. -/
theorem dirPrefix_strip_slashes {keyPrefix : String}
    (h : keyPrefix = "" ∨ ∃ dir, DirName dir ∧ keyPrefix = dir ++ "/") :
    dirPrefix (strip '/' ("/" ++ keyPrefix)) = keyPrefix := by
  rcases h with rfl | ⟨dir, hdir, rfl⟩
  · rfl
  · have hpad := strip_pad '/' 1 1 dir.toList
    have hs : strip '/' ("/" ++ (dir ++ "/")) = dir := by
      rw [← String.ofList_toList (s := "/" ++ (dir ++ "/"))]
      simp only [String.toList_append]
      rw [String.ofList_toList, strip_eq_self hdir.head hdir.last] at hpad
      simpa [List.append_assoc] using hpad
    rw [hs]
    exact if_pos hdir.nonempty

/-- The slashes around what follows the bucket do not count. -/
theorem strip_slashes (i k : ℕ) (body : String) :
    strip '/' (slashes i ++ body ++ slashes k) = strip '/' body := by
  have hpad := strip_pad '/' i k body.toList
  rw [String.ofList_toList] at hpad
  rw [← hpad, ← String.ofList_toList (s := slashes i ++ body ++ slashes k)]
  simp only [slashes, String.toList_append, String.toList_ofList]

theorem afterBucket_slashes {i : ℕ} (hi : 1 ≤ i) (body : String) (k : ℕ) :
    AfterBucket (slashes i ++ body ++ slashes k) := by
  obtain ⟨n, rfl⟩ := Nat.exists_eq_add_of_le' hi
  refine Or.inr ?_
  simp [slashes, List.replicate_succ]

/-! ### The directory of a prefix -/

theorem split_ne_nil (c : Char) (s : String) : split c s ≠ [] := by
  rw [split, Ne, List.map_eq_nil_iff]
  exact List.splitOn_ne_nil c s.toList

/-- **A prefix is a directory.** A key starts with the prefix exactly if it
lies in the directory. -/
theorem prefix_iff_in_directory (dir key : String) :
    (dir ++ "/").toList <+: key.toList ↔ InDirectory dir key := by
  have hdir : (dir ++ "/").toList = dir.toList ++ ['/'] := String.toList_append
  constructor
  · rintro ⟨r, hr⟩
    have hkey : key.toList = dir.toList ++ '/' :: r := by
      rw [← hr, hdir, List.append_assoc, List.singleton_append]
    refine ⟨split '/' (String.ofList r), split_ne_nil '/' _, ?_⟩
    rw [split_append hkey, String.ofList_toList]
  · rintro ⟨rest, hne, hkey⟩
    have hs : split '/' (dir ++ "/") = split '/' dir ++ [""] := by
      rw [split_append hdir, String.ofList_toList, String.ofList_nil, split_empty]
    exact prefix_of_split (split_ne_nil '/' dir) hne hs hkey

/-- No key of a sibling directory whose name goes on is in the directory. -/
theorem not_prefix_sibling (dir : String) {ext : String} (hne : ext ≠ "")
    (hslash : '/' ∉ ext.toList) (rest : String) :
    ¬ (dir ++ "/").toList <+: (dir ++ ext ++ "/" ++ rest).toList := by
  obtain ⟨c, l, hext⟩ := List.exists_cons_of_ne_nil fun h => hne (String.toList_inj.mp h)
  have hc : c ≠ '/' := fun he => hslash (by rw [hext, he]; exact List.mem_cons_self)
  simp only [String.toList_append, List.append_assoc, List.prefix_append_right_inj, hext]
  intro h
  exact hc (List.cons_prefix_cons.mp h).1.symm

/-- **Normal form.** What `parse_s3_uri` accepts, the normal form it returns,
and what that means for the keys of the bucket. -/
theorem parse_s3_uri_normal_form (uri : String) :
    ((∃ message, parseS3Uri uri = .error message) ∨
      ∃ bucket keyPrefix, parseS3Uri uri = .ok (bucket, keyPrefix) ∧ NormalForm bucket keyPrefix) ∧
    ((∃ message, parseS3Uri uri = .error message) ↔
      (∀ rest, uri ≠ "s3://" ++ rest) ∨ ∃ tail, AfterBucket tail ∧ uri = "s3://" ++ tail) ∧
    ∀ bucket keyPrefix, parseS3Uri uri = .ok (bucket, keyPrefix) →
      parseS3Uri ("s3://" ++ bucket ++ "/" ++ keyPrefix) = .ok (bucket, keyPrefix) ∧
      (∀ i body k j l, 1 ≤ i → 1 ≤ j → uri = uriText bucket i body k →
        parseS3Uri (uriText bucket j body l) = .ok (bucket, keyPrefix)) ∧
      ∀ dir, keyPrefix = dir ++ "/" →
        (∀ key : String, keyPrefix.toList <+: key.toList ↔ InDirectory dir key) ∧
        ∀ ext rest, ext ≠ "" → '/' ∉ ext.toList →
          ¬ keyPrefix.toList <+: (dir ++ ext ++ "/" ++ rest).toList := by
  refine ⟨?_, parse_error_iff uri, fun bucket keyPrefix h => ⟨?_, ?_, ?_⟩⟩
  · rcases hparse : parseS3Uri uri with message | ⟨bucket, keyPrefix⟩
    · exact Or.inl ⟨message, rfl⟩
    · obtain ⟨hne, hslash, tail, -, -, hkey⟩ := parse_ok_iff.mp hparse
      exact Or.inr ⟨bucket, keyPrefix, rfl, hne, hslash, hkey ▸ dirPrefix_strip tail⟩
  · obtain ⟨hne, hslash, tail, -, -, hkey⟩ := parse_ok_iff.mp h
    have hdir := dirPrefix_strip_slashes (hkey ▸ dirPrefix_strip tail)
    refine parse_ok_iff.mpr ⟨hne, hslash, "/" ++ keyPrefix, Or.inr ?_, ?_, hdir.symm⟩
    · rw [String.toList_append]
      rfl
    · simp only [String.append_assoc]
  · intro i body k j l hi hj huri
    obtain ⟨hne, hslash, -⟩ := parse_ok_iff.mp h
    have hparse := parse_bucket hslash (afterBucket_slashes hi body k)
    rw [if_neg hne, strip_slashes] at hparse
    rw [huri, uriText, hparse] at h
    rw [uriText, parse_bucket hslash (afterBucket_slashes hj body l), if_neg hne, strip_slashes, h]
  · intro dir hdir
    rw [hdir]
    exact ⟨prefix_iff_in_directory dir, fun ext rest hne hslash =>
      not_prefix_sibling dir hne hslash rest⟩

/-- A prefix with slashes to strip, and the directory it names. -/
theorem parse_s3_uri_normal_form_v1 :
    parseS3Uri "s3://bkt//billing/v1" = .ok ("bkt", "billing/v1/") ∧
      parseS3Uri "s3://bkt/billing/v1///" = .ok ("bkt", "billing/v1/") ∧
      ¬ "billing/v1/".toList <+: "billing/v10/manifest.json".toList := by
  have hparse : parseS3Uri "s3://bkt//billing/v1" = .ok ("bkt", "billing/v1/") := by decide
  obtain ⟨-, hvariant, hdir⟩ := (parse_s3_uri_normal_form "s3://bkt//billing/v1").2.2 _ _ hparse
  exact ⟨hparse, hvariant 2 "billing/v1" 0 1 3 (by decide) (by decide) (by decide),
    (hdir "billing/v1" (by decide)).2 "0" "manifest.json" (by decide) (by decide)⟩

end DocGen
