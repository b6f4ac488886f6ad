/-
# The files that a template can reach

The guard of `adapters/renderers/_paths.py` and the two of the template store:
a prefix under the cache, a listed key under the temporary directory and an
entrypoint under the template's root. Each joins the text to a directory and
resolves it, so that an absolute text or one with `..` leads anywhere, and then
looks for the directory among the parents. Resolution is lexical, and every
directory may be searched.
-/
import DocGen.Cache
import DocGen.Lib.Calls
import DocGen.Lib.Fault

namespace DocGen

open Prog DocGen.Path

/-! ### `resolve_template_file` -/

/-- `NAME_MAX`: the bytes of a name. -/
def nameMax : ℕ := 255

/-- `PATH_MAX`: the bytes of a path, with the one that ends it. -/
def pathMax : ℕ := 4096

/-- `len(text.encode())`. -/
def textBytes (text : String) : ℕ := text.utf8ByteSize

/-- The way from `dir` comes to a name that is too long. It ends where no
directory is. -/
def longName (files : Files) : FilePath → FilePath → Bool
  | _, [] => false
  | dir, name :: rest =>
    files.isDir dir && (decide (nameMax < textBytes name) || longName files (dir ++ [name]) rest)

/-- The system does not look the path up. -/
def tooLong (files : Files) (path : FilePath) : Bool :=
  decide (pathMax ≤ textBytes (pathText path)) || longName files [] path

/-- `ENAMETOOLONG`. -/
def fileNameTooLong (path : FilePath) : Exc :=
  .osError 36 ("[Errno 36] File name too long: " ++ pyRepr (pathText path))

/-- `path.is_file()`: a path with nothing there is no file, and one that is too
long raises. -/
def pathIsFile (files : Files) (path : FilePath) : Except Exc Bool :=
  if tooLong files path then .error (fileNameTooLong path) else .ok (files.isFile path)

/-- `resolve_template_file`. The root is resolved. -/
def resolveTemplateFile (files : Files) (root : FilePath) (name : String) : Except Exc FilePath := do
  let target ← resolvePath root name
  if target ≠ root ∧ root ∉ parents target then
    .error (.docGen ⟨.templateNotFoundError, "template entrypoint escapes the template root: " ++ pyRepr name⟩)
  else do
    let there ← pathIsFile files target
    if ¬ there then
      .error (.docGen ⟨.templateNotFoundError, "template entrypoint not found: " ++ pyRepr name⟩)
    else .ok target

/-- The path is the root or below it. -/
def Within (root path : FilePath) : Prop := path = root ∨ Below root path

instance (root path : FilePath) : Decidable (Within root path) := inferInstanceAs (Decidable (_ ∨ _))

/-- What becomes of an entrypoint. -/
inductive EntryOutcome (files : Files) (root : FilePath) (name : String) : Except Exc FilePath → Prop
  | nul (hnul : nul ∈ name.toList) : EntryOutcome files root name (.error (.valueError "embedded null byte"))
  | outside (hplain : nul ∉ name.toList) (hout : ¬ Within root (join root name)) (message : String) :
      EntryOutcome files root name (.error (.docGen ⟨.templateNotFoundError, message⟩))
  | long (hplain : nul ∉ name.toList) (hin : Within root (join root name))
      (hlong : tooLong files (join root name) = true) :
      EntryOutcome files root name (.error (fileNameTooLong (join root name)))
  | missing (hplain : nul ∉ name.toList) (hin : Within root (join root name))
      (hshort : tooLong files (join root name) = false) (hmiss : files.isFile (join root name) = false)
      (message : String) : EntryOutcome files root name (.error (.docGen ⟨.templateNotFoundError, message⟩))
  | found (hplain : nul ∉ name.toList) (hin : Within root (join root name))
      (hshort : tooLong files (join root name) = false) (hfile : files.isFile (join root name) = true) :
      EntryOutcome files root name (.ok (join root name))

theorem resolveTemplateFile_outcome (files : Files) (root : FilePath) (name : String) :
    EntryOutcome files root name (resolveTemplateFile files root name) := by
  unfold resolveTemplateFile
  by_cases hnul : nul ∈ name.toList
  · rw [resolvePath_nul hnul]
    exact .nul hnul
  rw [resolvePath_plain hnul]
  show EntryOutcome files root name (if _ then _ else _)
  split
  · rename_i hout
    refine .outside hnul ?_ _
    rwa [Within, not_or, below_iff_mem_parents]
  rename_i hin
  rw [not_and_or, not_not, not_not, ← below_iff_mem_parents] at hin
  unfold pathIsFile
  rcases hlong : tooLong files (join root name) with _ | _
  swap
  · exact .long hnul hin hlong
  show EntryOutcome files root name (if _ then _ else _)
  split
  · rename_i hmiss
    exact .missing hnul hin hlong (Bool.not_eq_true _ ▸ hmiss) _
  · rename_i hfile
    exact .found hnul hin hlong (not_not.mp hfile)

/-- The system takes the name: it holds no NUL character, and what it leads to,
at the root or below it, is not too long. -/
structure Readable (files : Files) (root : FilePath) (name : String) : Prop where
  plain : nul ∉ name.toList
  short : Within root (join root name) → tooLong files (join root name) = false

section

variable {files : Files} {root : FilePath} {name : String}

theorem resolved_ok {target : FilePath} (h : resolveTemplateFile files root name = .ok target) :
    Readable files root name ∧ Within root (join root name) ∧ target = join root name ∧
      files.isFile (join root name) = true := by
  have hcases := resolveTemplateFile_outcome files root name
  rw [h] at hcases
  cases hcases with
  | found hplain hin hshort hfile => exact ⟨⟨hplain, fun _ => hshort⟩, hin, rfl, hfile⟩

theorem resolved_iff {target : FilePath} : resolveTemplateFile files root name = .ok target ↔
    Readable files root name ∧ Within root (join root name) ∧ target = join root name ∧
      files.isFile (join root name) = true := by
  refine ⟨resolved_ok, ?_⟩
  rintro ⟨hread, hin, rfl, hfile⟩
  have hcases := resolveTemplateFile_outcome files root name
  generalize resolveTemplateFile files root name = r at hcases
  cases hcases with
  | nul hnul => exact absurd hnul hread.plain
  | outside _ hout => exact absurd hin hout
  | long _ _ hlong => exact Bool.noConfusion (hlong.symm.trans (hread.short hin))
  | missing _ _ _ hmiss => exact Bool.noConfusion (hfile.symm.trans hmiss)
  | found => rfl

/-- What is resolved is strictly below the root, which is no file. -/
theorem resolved_below (hroot : files.isFile root = false) {target : FilePath}
    (h : resolveTemplateFile files root name = .ok target) : Below root target ∧ files.isFile target = true := by
  obtain ⟨-, hin, rfl, hfile⟩ := resolved_ok h
  refine ⟨hin.resolve_left fun heq => ?_, hfile⟩
  rw [heq, hroot] at hfile
  cases hfile

theorem resolved_error {exc : Exc} (h : resolveTemplateFile files root name = .error exc) :
    (∃ message, exc = .docGen ⟨.templateNotFoundError, message⟩) ↔ Readable files root name := by
  have hcases := resolveTemplateFile_outcome files root name
  rw [h] at hcases
  cases hcases with
  | nul hnul => exact iff_of_false (fun ⟨_, h⟩ => nomatch h) fun h => h.plain hnul
  | outside hplain hout message => exact iff_of_true ⟨message, rfl⟩ ⟨hplain, fun hin => absurd hin hout⟩
  | long _ hin hlong =>
    exact iff_of_false (fun ⟨_, h⟩ => nomatch h) fun h => Bool.noConfusion (hlong.symm.trans (h.short hin))
  | missing hplain _ hshort _ message => exact iff_of_true ⟨message, rfl⟩ ⟨hplain, fun _ => hshort⟩

/-- An entrypoint is refused as a template error, or is a file strictly below
the root, exactly if the system takes its name. -/
theorem resolve_confined_iff (hroot : files.isFile root = false) :
    ((∃ message, resolveTemplateFile files root name = .error (.docGen ⟨.templateNotFoundError, message⟩)) ∨
      ∃ target, resolveTemplateFile files root name = .ok target ∧ Below root target ∧
        files.isFile target = true) ↔ Readable files root name := by
  rcases h : resolveTemplateFile files root name with exc | target
  · rw [← resolved_error h]
    constructor
    · rintro (⟨message, hexc⟩ | ⟨_, hok, -⟩)
      · exact ⟨message, Except.error.inj hexc⟩
      · cases hok
    · rintro ⟨message, rfl⟩
      exact Or.inl ⟨message, rfl⟩
  · exact iff_of_true (Or.inr ⟨target, rfl, resolved_below hroot h⟩) (resolved_ok h).1

end

/-! ### `_local_dir_for` -/

theorem localDirFor_cases (store : TemplateStore) (keyPrefix : String) :
    (∃ exc, localDirFor store keyPrefix = .error exc) ∨
      ∃ dir, localDirFor store keyPrefix = .ok dir ∧ (dir = store.cacheDir ∨ Below store.cacheDir dir) := by
  rcases h : localDirFor store keyPrefix with exc | dir
  · exact Or.inl ⟨exc, rfl⟩
  · obtain ⟨-, hin, -⟩ := (localDirFor_ok store).mp h
    exact Or.inr ⟨dir, rfl, hin.imp_left Eq.symm⟩

/-! ### The download loop -/

/-- A key that the loop downloads has a path that resolves to the temporary
directory or out of it. -/
def Escapes (keyPrefix : String) (tmpDir : FilePath) (key : String) : Prop :=
  ¬ Skipped keyPrefix key ∧ nul ∉ (relKey keyPrefix key).toList ∧
    ¬ Below tmpDir (Path.join tmpDir (relKey keyPrefix key))

/-- The calls of the download loop. -/
def loopCall (tmpDir : FilePath) : storeSig.Op → Prop
  | .inl (.getObject _ _) => True
  | .inr (.mkdir _) => True
  | .inr (.writeBytes p _) => Below tmpDir p
  | _ => False

/-- The calls of `_publish`. -/
def publishCall : storeSig.Op → Prop
  | .inr (.exists _) => True
  | .inr (.mkdir _) => True
  | .inr (.replace _ _) => True
  | _ => False

/-- The call of the listing. -/
def listCall : storeSig.Op → Prop
  | .inl (.listObjectsV2 _ _) => True
  | _ => False

theorem calls_fsCall {P : storeSig.Op → Prop} {op : FsOp} (h : P (.inr op)) : (fsCall op).Calls P :=
  calls_inr (calls_perform h)

theorem calls_s3Request {P : s3Sig.Op → Prop} {op : S3Op} (key : String) (h : P op) :
    (s3Request op key).Calls P :=
  calls_tryCatch (fun _ => calls_raise) (calls_perform h)

theorem returns_s3Request (op : S3Op) (key : String) : Returns (s3Request op key) :=
  returns_tryCatch returns_perform

theorem returns_fsCall (op : FsOp) : Returns (fsCall op) := returns_inr returns_perform

section

variable {store : TemplateStore} {keyPrefix key : String} {tmpDir localDir : FilePath}

/-- One turn of the loop: it refuses the key, or asks for the object only and
writes below the temporary directory. -/
theorem downloadObject_cases (store : TemplateStore) (keyPrefix key : String) (tmpDir : FilePath) :
    (Escapes keyPrefix tmpDir key ∧ ∃ message,
      downloadObject store keyPrefix tmpDir key = templateNotFound message) ∨
    (Unresolved keyPrefix key ∧ ∃ message,
      downloadObject store keyPrefix tmpDir key = .raise (.valueError message)) ∨
    ¬ Escapes keyPrefix tmpDir key ∧ (downloadObject store keyPrefix tmpDir key).Calls (loopCall tmpDir) ∧
      Returns (downloadObject store keyPrefix tmpDir key) := by
  unfold downloadObject
  by_cases hskip : relKey keyPrefix key = "" ∨ key.toList.getLast? = some '/'
  · refine Or.inr (Or.inr ⟨fun h => h.1 hskip, ?_, ?_⟩)
    · simp only [if_pos hskip]
      exact calls_ret
    · simp only [if_pos hskip]
      exact returns_ret
  simp only [if_neg hskip]
  by_cases hnul : nul ∈ (relKey keyPrefix key).toList
  · rw [resolvePath_nul hnul]
    exact Or.inr (Or.inl ⟨⟨hskip, hnul⟩, _, rfl⟩)
  rw [resolvePath_plain hnul]
  by_cases hbelow : Below tmpDir (Path.join tmpDir (relKey keyPrefix key))
  swap
  · exact Or.inl ⟨⟨hskip, hnul, hbelow⟩, _, if_pos hbelow⟩
  simp only [not_not_intro hbelow, if_false]
  refine Or.inr (Or.inr ⟨fun h => h.2.2 hbelow, ?_, ?_⟩)
  · refine calls_bind (fun _ => ?_) (calls_fsCall trivial)
    refine calls_tryCatch (fun _ => calls_raise) (calls_bind (fun _ => ?_) ?_)
    · exact calls_fsCall hbelow
    · exact calls_inl (calls_s3Request key trivial)
  · refine returns_bind (returns_fsCall _) fun _ => returns_tryCatch (returns_bind ?_ fun _ => ?_)
    · exact returns_inl (returns_s3Request _ key)
    · exact returns_fsCall _

theorem downloadObject_calls : (downloadObject store keyPrefix tmpDir key).Calls (loopCall tmpDir) := by
  rcases downloadObject_cases store keyPrefix key tmpDir with ⟨-, message, h⟩ | ⟨-, message, h⟩ | ⟨-, h, -⟩
  · rw [h]
    exact calls_raise
  · rw [h]
    exact calls_raise
  · exact h

theorem publish_calls : (publish tmpDir localDir).Calls publishCall := by
  unfold publish
  refine calls_bind (fun there => ?_) (calls_fsCall trivial)
  split
  · exact calls_ret
  refine calls_bind (fun _ => ?_) (calls_fsCall trivial)
  refine calls_tryCatch (fun exc => ?_) (calls_fsCall trivial)
  split
  · refine calls_bind (fun there => ?_) (calls_fsCall trivial)
    split
    · exact calls_ret
    · exact calls_raise
  · exact calls_raise

/-- In a list that is split twice, an element before the second split is before
the first, or at it, or has the first before it. -/
theorem before_or_at {α : Type} {pre post pre' post' : List α} {x y : α}
    (h : pre ++ x :: post = pre' ++ y :: post') : x ∈ pre' ∨ x = y ∨ y ∈ pre := by
  rcases List.append_eq_append_iff.mp h with ⟨l, rfl, hl⟩ | ⟨l, rfl, hl⟩
  · rcases l with _ | ⟨z, l⟩
    · exact Or.inr (Or.inl (List.cons.inj hl).1)
    · obtain ⟨rfl, -⟩ := List.cons.inj hl
      exact Or.inl (by simp)
  · rcases l with _ | ⟨z, l⟩
    · exact Or.inr (Or.inl (List.cons.inj hl).1.symm)
    · obtain ⟨rfl, -⟩ := List.cons.inj hl
      exact Or.inr (Or.inr (by simp))

/-- A loop over keys of which one escapes raises. Without a fault, and with no
key before it whose path does not resolve, the exception is the refusal. -/
theorem loop_escapes {pre post : List String} (hesc : Escapes keyPrefix tmpDir key)
    {tr : List (Event storeSig Exc)} {r : Except Exc (List Unit)}
    (h : (Prog.forEach (downloadObject store keyPrefix tmpDir) (pre ++ key :: post)).Runs tr r) :
    ∃ exc, r = .error exc ∧ ((∀ e ∈ tr, e.Ok) → (∀ k ∈ pre, ¬ Unresolved keyPrefix k) →
      ∃ message, exc = .docGen ⟨.templateNotFoundError, message⟩) := by
  -- the turn of a key that escapes does not return
  have hstop : ∀ {l : List String} {ys : List Unit} {t : List (Event storeSig Exc)},
      AllRun (downloadObject store keyPrefix tmpDir) l t ys → key ∉ l := by
    intro l ys t hall hkey
    obtain ⟨t, y, hturn⟩ := hall.turn key hkey
    rcases downloadObject_cases store keyPrefix key tmpDir with ⟨-, message, hraise⟩ | ⟨hun, -⟩ | ⟨hno, -⟩
    · rw [hraise] at hturn
      cases hturn.2
    · exact hesc.2.1 hun.2
    · exact hno hesc
  rcases runs_forEach h with ⟨ys, -, hall⟩ | ⟨l, x, l', ys, t₁, t₂, exc, hsplit, rfl, hall, hx, rfl⟩
  · exact absurd (by simp) (hstop hall)
  refine ⟨exc, rfl, fun hok hpre => ?_⟩
  have hbefore : ¬ Unresolved keyPrefix x := by
    rcases before_or_at hsplit.symm with hin | rfl | hin
    · exact hpre x hin
    · exact fun hun => hesc.2.1 hun.2
    · exact absurd hin (hstop hall)
  rcases downloadObject_cases store keyPrefix x tmpDir with ⟨-, message, hraise⟩ | ⟨hun, -⟩ | ⟨-, -, hret⟩
  · rw [hraise] at hx
    obtain ⟨-, hexc⟩ := hx
    cases hexc
    exact ⟨message, rfl⟩
  · exact absurd hun hbefore
  · obtain ⟨_, hr⟩ := hret _ _ hx fun e he => hok e (List.mem_append_right _ he)
    cases hr

/-! ### `_download_prefix` -/

/-- A run that ends before there is a temporary directory. -/
def Early (tr : List (Event storeSig Exc)) : Prop :=
  ∀ e ∈ tr, (∀ p content, e.op ≠ .inr (.writeBytes p content)) ∧
    ∀ dir tmp, e ≠ ⟨.inr (.mkdtemp dir), .ok tmp⟩

theorem early_of_list {tr : List (Event storeSig Exc)} (h : ∀ e ∈ tr, listCall e.op) : Early tr := by
  refine fun e he => ⟨fun p content hop => ?_, fun dir tmp heq => ?_⟩
  · have hcall := h e he
    rw [hop] at hcall
    exact hcall
  · subst heq
    exact h _ he

/-- The listing, on its own. -/
theorem listing_runs {tr : List (Event storeSig Exc)} {r : Except Exc (List String)}
    (h : ((listPrefix store.bucket keyPrefix).inl.tryCatch fun exc =>
      .raise (listError keyPrefix exc) : Coroutine storeSig (List String)).Runs tr r) :
    (∃ pages, r = .ok pages.flatten ∧ tr = [⟨.inl (.listObjectsV2 store.bucket keyPrefix), .ok pages⟩]) ∨
      ∃ exc, r = .error exc := by
  rcases runs_tryCatch.mp h with ⟨keys, rfl, hrun⟩ | ⟨exc, t₁, t₂, -, -, hraise⟩
  swap
  · exact Or.inr ⟨_, hraise.2⟩
  obtain ⟨t, rfl, hpages⟩ := runs_inl.mp hrun
  rcases runs_bind.mp hpages with ⟨_, hr, -⟩ | ⟨pages, t₁, t₂, rfl, hlist, rfl, hkeys⟩
  · cases hr
  cases hkeys
  rcases runs_s3Request.mp hlist with ⟨a, hr, rfl⟩ | ⟨_, hr, -⟩ <;> cases hr
  exact Or.inl ⟨pages, rfl, rfl⟩

theorem fsCall_eq (op : FsOp) : fsCall op = Prog.perform (S := storeSig) (.inr op) := by
  refine congrArg (Prog.call (S := storeSig) (Sum.inr op)) (funext fun x => ?_)
  cases x <;> rfl

/-- The temporary directory of the run. -/
def TempDir (tr : List (Event storeSig Exc)) (tmp : FilePath) : Prop :=
  ∀ t, (∃ dir, ⟨.inr (.mkdtemp dir), .ok t⟩ ∈ tr) ↔ t = tmp

/-- The calls after the temporary directory is made. -/
def laterCall (tmpDir : FilePath) (op : storeSig.Op) : Prop :=
  loopCall tmpDir op ∨ publishCall op ∨ op = .inr (.rmtree tmpDir)

theorem laterCall_not_mkdtemp {dir : FilePath} : ¬ laterCall tmpDir (.inr (.mkdtemp dir)) := by
  rintro (h | h | h)
  · exact h
  · exact h
  · cases h

theorem laterCall_not_list {bucket x : String} : ¬ laterCall tmpDir (.inl (.listObjectsV2 bucket x)) := by
  rintro (h | h | h)
  · exact h
  · exact h
  · cases h

theorem laterCall_write {p : FilePath} {content : Bytes}
    (h : laterCall tmpDir (.inr (.writeBytes p content))) : Below tmpDir p := by
  rcases h with h | h | h
  · exact h
  · exact h.elim
  · cases h

theorem body_calls {keys : List String} :
    ((Prog.forEach (downloadObject store keyPrefix tmpDir) keys).bind fun _ =>
      publish tmpDir localDir).Calls (laterCall tmpDir) :=
  calls_bind (fun _ => publish_calls.mono fun _ h => Or.inr (Or.inl h))
    (calls_forEach fun _ _ => downloadObject_calls.mono fun _ h => Or.inl h)

theorem rmtree_calls {P : storeSig.Op → Prop} {s : Except Exc Unit} (h : P (.inr (.rmtree tmpDir))) :
    ((fsCall (.rmtree tmpDir)).bind fun _ => ofExcept s : Coroutine storeSig Unit).Calls P :=
  calls_bind (fun _ => calls_ofExcept s) (calls_fsCall h)

/-- The events of a download that makes the temporary directory `tmp`. -/
def made (store : TemplateStore) (keyPrefix : String) (pages : List (List String)) (tmp : FilePath)
    (later : List (Event storeSig Exc)) : List (Event storeSig Exc) :=
  ⟨.inl (.listObjectsV2 store.bucket keyPrefix), .ok pages⟩ ::
    ⟨.inr (.mkdir store.cacheDir), .ok ()⟩ :: ⟨.inr (.mkdtemp store.cacheDir), .ok tmp⟩ :: later

theorem mem_made {pages : List (List String)} {later : List (Event storeSig Exc)} {e : Event storeSig Exc}
    (h : e ∈ made store keyPrefix pages tmpDir later) :
    e = ⟨.inl (.listObjectsV2 store.bucket keyPrefix), .ok pages⟩ ∨
      e = ⟨.inr (.mkdir store.cacheDir), .ok ()⟩ ∨
      e = ⟨.inr (.mkdtemp store.cacheDir), .ok tmpDir⟩ ∨ e ∈ later := by
  simpa only [made, List.mem_cons] using h

theorem made_tempDir {pages : List (List String)} {later : List (Event storeSig Exc)}
    (h : ∀ e ∈ later, laterCall tmpDir e.op) : TempDir (made store keyPrefix pages tmpDir later) tmpDir := by
  refine fun t => ⟨?_, ?_⟩
  · rintro ⟨dir, hmem⟩
    rcases mem_made hmem with heq | heq | heq | hmem
    · cases heq
    · cases heq
    · cases heq
      rfl
    · exact absurd (h _ hmem) laterCall_not_mkdtemp
  · rintro rfl
    exact ⟨store.cacheDir, .tail _ (.tail _ (.head _))⟩

/-- A download ends early, or makes its temporary directory, runs the loop and
the move, and removes what is left of the directory. -/
theorem downloadPrefix_runs {tr : List (Event storeSig Exc)} {r : Except Exc Unit}
    (h : (downloadPrefix store keyPrefix localDir).Runs tr r) :
    Early tr ∨ ∃ pages tmp later, tr = made store keyPrefix pages tmp later ∧
      (∀ e ∈ later, laterCall tmp e.op) ∧ ∃ t₁ t₂ s, later = t₁ ++ t₂ ∧
        ((Prog.forEach (downloadObject store keyPrefix tmp) pages.flatten).bind fun _ =>
          publish tmp localDir).Runs t₁ s ∧
        ((fsCall (.rmtree tmp)).bind fun _ => ofExcept s).Runs t₂ r := by
  unfold downloadPrefix at h
  rcases runs_bind.mp h with ⟨exc, -, hlist⟩ | ⟨keys, t, tl, rfl, hlist, h⟩
  · refine Or.inl (early_of_list (Calls.runs ?_ hlist))
    exact calls_tryCatch (fun _ => calls_raise) (calls_inl
      (calls_bind (fun _ => calls_ret) (calls_s3Request keyPrefix trivial)))
  rcases listing_runs hlist with ⟨pages, hkeys, rfl⟩ | ⟨_, hr⟩
  swap
  · cases hr
  cases hkeys
  have hfirst : Early [⟨.inl (.listObjectsV2 store.bucket keyPrefix), .ok pages⟩] :=
    early_of_list (List.forall_mem_singleton.mpr trivial)
  split at h
  · obtain ⟨rfl, -⟩ := h
    exact Or.inl hfirst
  have hsecond : ∀ x, Early [⟨.inr (.mkdir store.cacheDir), x⟩] := fun x =>
    List.forall_mem_singleton.mpr ⟨fun _ _ hop => (by cases hop), fun _ _ heq => (by cases heq)⟩
  have hthird : ∀ exc, Early [⟨.inr (.mkdtemp store.cacheDir), .error exc⟩] := fun exc =>
    List.forall_mem_singleton.mpr ⟨fun _ _ hop => (by cases hop), fun _ _ heq => (by cases heq)⟩
  simp only [fsCall_eq] at h
  rcases runs_perform_bind.mp h with ⟨exc, -, rfl⟩ | ⟨⟨⟩, tl, rfl, hmade⟩
  · exact Or.inl (List.forall_mem_append.mpr ⟨hfirst, hsecond _⟩)
  rcases runs_perform_bind.mp hmade with ⟨exc, -, rfl⟩ | ⟨tmp, tl, rfl, htemp⟩
  · exact Or.inl (List.forall_mem_append.mpr ⟨hfirst,
      List.forall_mem_append.mpr ⟨hsecond (.ok ()), hthird exc⟩⟩)
  obtain ⟨s, t₁, t₂, rfl, hbody, hfin⟩ := runs_tryFinally.mp htemp
  rw [← fsCall_eq] at hfin
  refine Or.inr ⟨pages, tmp, t₁ ++ t₂, rfl, List.forall_mem_append.mpr ⟨body_calls.runs hbody, ?_⟩,
    t₁, t₂, s, rfl, hbody, hfin⟩
  exact (rmtree_calls (Or.inr (Or.inr rfl))).runs hfin

/-- What a download writes is strictly below its temporary directory. -/
theorem downloadPrefix_writes {tr : List (Event storeSig Exc)} {r : Except Exc Unit}
    (h : (downloadPrefix store keyPrefix localDir).Runs tr r) {p : FilePath} {content : Bytes}
    {ans : Except Exc Unit} (hw : ⟨.inr (.writeBytes p content), ans⟩ ∈ tr) :
    ∃ tmp, TempDir tr tmp ∧ Below tmp p := by
  rcases downloadPrefix_runs h with hearly | ⟨pages, tmp, later, rfl, hlater, -⟩
  · exact absurd rfl ((hearly _ hw).1 p content)
  refine ⟨tmp, made_tempDir hlater, ?_⟩
  rcases mem_made hw with heq | heq | heq | hw
  · cases heq
  · cases heq
  · cases heq
  · exact laterCall_write (hlater _ hw)

/-- The call of the move. -/
def isReplace : storeSig.Op → Bool
  | .inr (.replace _ _) => true
  | _ => false

theorem not_replace_of_loop {op : storeSig.Op} (h : loopCall tmpDir op) : isReplace op = false := by
  unfold loopCall at h
  split at h <;> first | rfl | exact h.elim

/-- The move is not reached after a loop that raises. -/
theorem body_escapes {pre post : List String} (hesc : Escapes keyPrefix tmpDir key)
    {tr : List (Event storeSig Exc)} {r : Except Exc Unit}
    (h : ((Prog.forEach (downloadObject store keyPrefix tmpDir) (pre ++ key :: post)).bind fun _ =>
      publish tmpDir localDir).Runs tr r) :
    ∃ exc, r = .error exc ∧ (∀ e ∈ tr, loopCall tmpDir e.op) ∧
      ((∀ e ∈ tr, e.Ok) → (∀ k ∈ pre, ¬ Unresolved keyPrefix k) →
        ∃ message, exc = .docGen ⟨.templateNotFoundError, message⟩) := by
  have hcalls : (Prog.forEach (downloadObject store keyPrefix tmpDir) (pre ++ key :: post)).Calls
      (loopCall tmpDir) :=
    calls_forEach fun _ _ => downloadObject_calls
  rcases runs_bind.mp h with ⟨exc, rfl, hloop⟩ | ⟨ys, t₁, t₂, rfl, hloop, -⟩
  · obtain ⟨exc', hexc, hmessage⟩ := loop_escapes hesc hloop
    cases hexc
    exact ⟨exc, rfl, hcalls.runs hloop, hmessage⟩
  · obtain ⟨_, hr, -⟩ := loop_escapes hesc hloop
    cases hr

/-- A download that is answered a key that escapes publishes nothing, and
without a failure before it raises the refusal. -/
theorem downloadPrefix_escapes {tr : List (Event storeSig Exc)} {r : Except Exc Unit}
    (h : (downloadPrefix store keyPrefix localDir).Runs tr r) {pages : List (List String)}
    (hlist : ⟨.inl (.listObjectsV2 store.bucket keyPrefix), .ok pages⟩ ∈ tr) (htmp : TempDir tr tmpDir)
    {pre post : List String} (hkeys : pages.flatten = pre ++ key :: post) (hesc : Escapes keyPrefix tmpDir key) :
    (∀ e ∈ tr, isReplace e.op = false) ∧
      ((∀ e ∈ tr, e.Ok) → (∀ k ∈ pre, ¬ Unresolved keyPrefix k) →
        ∃ message, r = .error (.docGen ⟨.templateNotFoundError, message⟩)) := by
  obtain ⟨dir, hmade⟩ := (htmp tmpDir).mpr rfl
  rcases downloadPrefix_runs h with
    hearly | ⟨pages', tmp, later, rfl, hlater, t₁, t₂, s, rfl, hbody, hfin⟩
  · exact absurd rfl ((hearly _ hmade).2 dir tmpDir)
  obtain rfl := (made_tempDir hlater tmpDir).mp ⟨dir, hmade⟩
  obtain rfl : pages = pages' := by
    rcases mem_made hlist with heq | heq | heq | hlist
    · cases heq
      rfl
    · cases heq
    · cases heq
    · exact absurd (hlater _ hlist) laterCall_not_list
  rw [hkeys] at hbody
  obtain ⟨exc, rfl, hloop, hrefused⟩ := body_escapes hesc hbody
  have hrm : ∀ e ∈ t₂, e.op = .inr (.rmtree tmpDir) :=
    Calls.runs (P := fun op : storeSig.Op => op = .inr (.rmtree tmpDir)) (rmtree_calls rfl) hfin
  constructor
  · intro e he
    rcases mem_made he with rfl | rfl | rfl | he
    · rfl
    · rfl
    · rfl
    rcases List.mem_append.mp he with he | he
    · exact not_replace_of_loop (hloop e he)
    · rw [hrm e he]
      rfl
  · intro hok hpre
    have hlaterOk : ∀ e ∈ t₁ ++ t₂, e.Ok := fun e he => hok e (.tail _ (.tail _ (.tail _ he)))
    obtain ⟨message, rfl⟩ := hrefused (fun e he => hlaterOk e (List.mem_append_left _ he)) hpre
    rw [fsCall_eq] at hfin
    rcases runs_perform_bind.mp hfin with ⟨exc, -, rfl⟩ | ⟨⟨⟩, t, rfl, -, rfl⟩
    · exact absurd (hlaterOk _ (List.mem_append_right _ (List.mem_singleton.mpr rfl))) Event.not_ok_mk
    · exact ⟨message, rfl⟩

end

/-- **Confinement.** A prefix leads to the cache root or below it, or is
refused. Whatever the bucket lists and whatever is answered, a download writes
strictly below its temporary directory; a listed key whose path resolves to it
or out of it keeps the download from being published, and is refused if nothing
before it failed. An entrypoint is refused as a template error, or is a file
strictly below the root, exactly if the system takes its name. -/
theorem template_files_confined_iff (store : TemplateStore) :
    (∀ keyPrefix, (∃ exc, localDirFor store keyPrefix = .error exc) ∨
      ∃ dir, localDirFor store keyPrefix = .ok dir ∧ (dir = store.cacheDir ∨ Below store.cacheDir dir)) ∧
    (∀ keyPrefix localDir tr r, (downloadPrefix store keyPrefix localDir).Runs tr r →
      (∀ p content ans, ⟨.inr (.writeBytes p content), ans⟩ ∈ tr →
        ∃ tmp, TempDir tr tmp ∧ Below tmp p) ∧
      ∀ pages tmp, ⟨.inl (.listObjectsV2 store.bucket keyPrefix), .ok pages⟩ ∈ tr → TempDir tr tmp →
        ∀ pre key post, pages.flatten = pre ++ key :: post → Escapes keyPrefix tmp key →
          (∀ e ∈ tr, isReplace e.op = false) ∧
            ((∀ e ∈ tr, e.Ok) → (∀ k ∈ pre, ¬ Unresolved keyPrefix k) →
              ∃ message, r = .error (.docGen ⟨.templateNotFoundError, message⟩))) ∧
    ∀ (files : Files) root, files.isFile root = false → ∀ name,
      (((∃ message, resolveTemplateFile files root name = .error (.docGen ⟨.templateNotFoundError, message⟩)) ∨
        ∃ target, resolveTemplateFile files root name = .ok target ∧ Below root target ∧
          files.isFile target = true) ↔ Readable files root name) := by
  refine ⟨localDirFor_cases store, fun keyPrefix localDir tr r h => ⟨fun p content ans hw => ?_, ?_⟩,
    fun files root hroot name => resolve_confined_iff hroot⟩
  · exact downloadPrefix_writes h hw
  · intro pages tmp hlist htmp pre key post hkeys hesc
    exact downloadPrefix_escapes h hlist htmp hkeys hesc

/-- A download whose second key climbs out of the temporary directory. -/
def climbingRun : List (Event storeSig Exc) :=
  [⟨.inl (.listObjectsV2 "bkt" "t/"), .ok [["t/manifest.json", "t/../../etc/passwd"]]⟩,
    ⟨.inr (.mkdir ["cache"]), .ok ()⟩,
    ⟨.inr (.mkdtemp ["cache"]), .ok ["cache", "tmp"]⟩,
    ⟨.inr (.mkdir ["cache", "tmp"]), .ok ()⟩,
    ⟨.inl (.getObject "bkt" "t/manifest.json"), .ok [123]⟩,
    ⟨.inr (.writeBytes ["cache", "tmp", "manifest.json"] [123]), .ok ()⟩,
    ⟨.inr (.rmtree ["cache", "tmp"]), .ok ()⟩]

def climbingRefusal : Except Exc Unit :=
  .error (.docGen ⟨.templateNotFoundError, "template object escapes its prefix: 't/../../etc/passwd'"⟩)

theorem climbing_runs :
    (downloadPrefix cacheStore "t/" ["cache", "t"]).Runs climbingRun climbingRefusal :=
  ⟨_, _, rfl, _, _, rfl, _, _, rfl, _, _, rfl, _, _, rfl, _, _, rfl, _, _, rfl, rfl, rfl⟩

/-- The files of a template with one file. -/
def htmlFiles : Files :=
  (FileTree.empty.addDirs ["cache", "t"]).setEntry ["cache", "t"] "template.html" (.file []) rfl rfl

theorem template_files_confined_iff_climbing :
    (∃ tmp, TempDir climbingRun tmp ∧ Below tmp ["cache", "tmp", "manifest.json"]) ∧
    (∀ e ∈ climbingRun, isReplace e.op = false) ∧
    (∃ message, climbingRefusal = .error (.docGen ⟨.templateNotFoundError, message⟩)) ∧
    (((∃ message, resolveTemplateFile htmlFiles ["cache", "t"] "a/../template.html" =
        .error (.docGen ⟨.templateNotFoundError, message⟩)) ∨
      ∃ target, resolveTemplateFile htmlFiles ["cache", "t"] "a/../template.html" = .ok target ∧
        Below ["cache", "t"] target ∧ htmlFiles.isFile target = true) ↔
      Readable htmlFiles ["cache", "t"] "a/../template.html") := by
  have htmp : TempDir climbingRun ["cache", "tmp"] := by
    refine fun t => ⟨?_, ?_⟩
    · rintro ⟨dir, hmem⟩
      simp only [climbingRun, List.mem_cons, List.not_mem_nil, or_false] at hmem
      rcases hmem with heq | heq | heq | heq | heq | heq | heq <;> cases heq
      rfl
    · rintro rfl
      exact ⟨["cache"], .tail _ (.tail _ (.head _))⟩
  have hok : ∀ e ∈ climbingRun, e.Ok := by
    intro e he
    simp only [climbingRun, List.mem_cons, List.not_mem_nil, or_false] at he
    rcases he with rfl | rfl | rfl | rfl | rfl | rfl | rfl <;> exact Event.ok_mk
  obtain ⟨-, hdownload, hentry⟩ := template_files_confined_iff cacheStore
  obtain ⟨hwrites, hescapes⟩ := hdownload _ _ _ _ climbing_runs
  obtain ⟨hkeep, hrefused⟩ := hescapes _ _ (.head _) htmp ["t/manifest.json"] "t/../../etc/passwd" [] rfl
    ⟨by decide, by decide, by decide⟩
  refine ⟨hwrites _ _ _ (.tail _ (.tail _ (.tail _ (.tail _ (.tail _ (.head _)))))), hkeep, hrefused hok ?_,
    hentry _ _ rfl _⟩
  exact List.forall_mem_singleton.mpr fun hun => absurd hun.2 (by decide)

/-- A name with a NUL character in it. -/
def nulName : String := String.ofList ['a', nul, 'b']

/-- It is not refused as a template error, nor is it a file. -/
theorem entry_not_refused : ¬ ∀ (files : Files) (root : FilePath) (name : String), files.isDir root = true →
    (∃ message, resolveTemplateFile files root name = .error (.docGen ⟨.templateNotFoundError, message⟩)) ∨
      ∃ target, resolveTemplateFile files root name = .ok target ∧ Below root target ∧
        files.isFile target = true := by
  intro h
  have hnul : resolveTemplateFile htmlFiles ["cache", "t"] nulName =
      .error (.valueError "embedded null byte") := by decide
  rcases h htmlFiles ["cache", "t"] nulName rfl with ⟨message, he⟩ | ⟨target, he, -⟩
  · rw [hnul] at he
    cases he
  · rw [hnul] at he
    cases he

end DocGen
