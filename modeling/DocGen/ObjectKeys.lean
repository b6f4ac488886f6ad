/-
# The keys one request writes

A key is the caller's prefix without its trailing slashes, one slash, and the
file name of a format. What follows the last dot of a key is the format, and
what stands before it is the prefix with the part that all keys of the
template share, so that two keys are equal only if format and stripped prefix
are (`objectKey_eq_iff`). One request writes its formats' keys in the order
requested, each once (`BundleRun.put_keys`).
-/
import DocGen.Pipeline
import Mathlib.Data.Finset.Card

namespace DocGen

open Prog

theorem OutputFormat.value_injective {f g : OutputFormat} (h : f.value = g.value) : f = g := by
  revert h
  cases f <;> cases g <;> decide

theorem OutputFormat.dot_not_mem_value (f : OutputFormat) : '.' ∉ f.value.toList := by
  cases f <;> decide

/-- A key is what stands before the last dot, the dot and the format. -/
theorem objectKey_eq (keyPrefix : String) (m : Manifest) (fmt : OutputFormat) :
    buildObjectKey keyPrefix (m.filenameFor fmt) =
      (rstrip '/' keyPrefix ++ ("/" ++ lstrip '/' m.resolveOutputBasename)) ++
        String.singleton '.' ++ fmt.value := by
  apply String.toList_inj.mp
  rw [toList_objectKey]
  simp

/-- **No collision.** Two keys of a template are equal exactly if they have
the same format and prefixes that differ in trailing slashes only. -/
theorem objectKey_eq_iff (m : Manifest) {p q : String} {f g : OutputFormat} :
    buildObjectKey p (m.filenameFor f) = buildObjectKey q (m.filenameFor g) ↔
      f = g ∧ rstrip '/' p = rstrip '/' q := by
  constructor
  · intro h
    have hp := rpartition_append '.' (rstrip '/' p ++ ("/" ++ lstrip '/' m.resolveOutputBasename))
      f.dot_not_mem_value
    have hq := rpartition_append '.' (rstrip '/' q ++ ("/" ++ lstrip '/' m.resolveOutputBasename))
      g.dot_not_mem_value
    rw [← objectKey_eq] at hp hq
    rw [h, hq] at hp
    obtain ⟨hstem, hvalue⟩ := Prod.mk.inj hp
    refine ⟨(OutputFormat.value_injective hvalue).symm, ?_⟩
    have hlist := congrArg String.toList hstem
    simp only [String.toList_append, List.append_left_inj] at hlist
    exact (String.toList_inj.mp hlist).symm
  · rintro ⟨rfl, hpq⟩
    rw [buildObjectKey, buildObjectKey, hpq]

/-- A key starts with the stripped prefix and a slash. -/
theorem prefix_objectKey (keyPrefix filename : String) :
    (rstrip '/' keyPrefix ++ "/").toList <+: (buildObjectKey keyPrefix filename).toList := by
  have hkey : (buildObjectKey keyPrefix filename).toList =
      (rstrip '/' keyPrefix ++ "/").toList ++ (lstrip '/' filename).toList := String.toList_append
  exact ⟨_, hkey.symm⟩

/-! ### The keys of a request -/

/-- The keys of the requested formats, in their order. -/
def requestKeys (request : GenerationRequest) (m : Manifest) : List String :=
  request.requestedFormats.map fun fmt => buildObjectKey request.keyPrefix (m.filenameFor fmt)

theorem requestKeys_nodup (request : GenerationRequest) (m : Manifest) :
    (requestKeys request m).Nodup :=
  request.requestedFormats_nodup.map fun _ _ h => ((objectKey_eq_iff m).mp h).1

theorem mem_requestKeys {request : GenerationRequest} {m : Manifest} {key : String} :
    key ∈ requestKeys request m ↔ ∃ out ∈ request.outputs,
      buildObjectKey request.keyPrefix (m.filenameFor out.format) = key := by
  simp [requestKeys, request.mem_requestedFormats]

/-- There are as many keys as distinct formats. -/
theorem length_requestKeys (request : GenerationRequest) (m : Manifest) :
    (requestKeys request m).length = (request.outputs.map (·.format)).toFinset.card := by
  rw [requestKeys, List.length_map, ← List.toFinset_card_of_nodup request.requestedFormats_nodup]
  congr 1
  ext fmt
  simp [request.mem_requestedFormats]

section

variable {ρ : Type}

/-- The key that a call stores under. -/
def PortOp.putKey? : PortOp ρ → Option String
  | .put key _ _ _ => some key
  | _ => none

/-- The keys that the calls of a trace store under. -/
def putKeys (tr : PortTrace ρ) : List String := tr.filterMap fun e => e.op.putKey?

/-- The renderers name each artifact after its format. -/
def NamesArtifacts (tr : PortTrace ρ) : Prop :=
  ∀ renderer bundle data fmt locale art,
    (⟨.run renderer bundle data fmt locale, .ok art⟩ : Event (portSig ρ) Exc) ∈ tr →
      art.filename = bundle.manifest.filenameFor fmt

variable {request : GenerationRequest} {generatedAt : String} {bundle : TemplateBundle}
  {tr : PortTrace ρ}

theorem putKeys_append (l m : PortTrace ρ) : putKeys (l ++ m) = putKeys l ++ putKeys m :=
  List.filterMap_append

theorem putKeys_eq_nil (h : ∀ e ∈ tr, ¬ e.op.isPut) : putKeys tr = [] := by
  refine List.filterMap_eq_nil_iff.mpr fun e he => ?_
  have hno := h e he
  rcases e with ⟨op, ans⟩
  cases op with
  | put key content contentType presignTtl => exact absurd rfl hno
  | _ => rfl

theorem putKeys_stored (puts : List (RenderedArtifact × StoredArtifact)) :
    putKeys (puts.map (stored request) : PortTrace ρ) =
      (puts.map Prod.fst).map fun art => buildObjectKey request.keyPrefix art.filename := by
  rw [putKeys, List.filterMap_map, List.map_map]
  exact congrFun List.filterMap_eq_map puts

/-- The artifacts of the requested formats, named after them, have the keys of
the request. -/
theorem keys_of_rendered {arts : List ((OutputFormat × ρ) × RenderedArtifact)}
    (hc : Checked request bundle (arts.map Prod.fst))
    (hn : ∀ z ∈ arts, z.2.filename = bundle.manifest.filenameFor z.1.1) :
    ((arts.map Prod.snd).map fun art => buildObjectKey request.keyPrefix art.filename) =
      requestKeys request bundle.manifest := by
  rw [requestKeys, ← hc.formats, List.map_map, List.map_map, List.map_map]
  exact List.map_congr_left fun z hz => congrArg (buildObjectKey request.keyPrefix) (hn z hz)

/-- **The keys of a run.** A run stores under the keys of the request, in
their order, up to the put that raises. -/
theorem BundleRun.put_keys {r : Except Exc GenerationResult}
    (h : BundleRun request generatedAt bundle tr r) (hn : NamesArtifacts tr) :
    putKeys tr <+: requestKeys request bundle.manifest ∧
      ∀ result, r = .ok result → putKeys tr = requestKeys request bundle.manifest := by
  have hnamed : ∀ {arts : List ((OutputFormat × ρ) × RenderedArtifact)},
      (∀ z ∈ arts, rendered request bundle z ∈ tr) →
      ∀ z ∈ arts, z.2.filename = bundle.manifest.filenameFor z.1.1 :=
    fun hmem z hz => hn _ _ _ _ _ _ (hmem z hz)
  have hnone : (∀ e ∈ tr, ¬ e.op.isPut) → putKeys tr <+: requestKeys request bundle.manifest := by
    intro hno
    rw [putKeys_eq_nil hno]
    exact List.nil_prefix
  cases h with
  | putRaised arts hc puts art post exc hA =>
    refine ⟨?_, fun _ hr => by cases hr⟩
    have hkeys := keys_of_rendered hc (hnamed fun z hz => (mem_phases hz _).2.2)
    rw [hA] at hkeys
    rw [putKeys_append, putKeys_append, putKeys_append, putKeys_stored, putKeys_eq_nil gate_not_put,
      putKeys_eq_nil rendered_not_put, ← hkeys, List.map_append, List.map_cons]
    exact ⟨post.map fun art => buildObjectKey request.keyPrefix art.filename, by
      simp [putKeys, putOp, PortOp.putKey?]⟩
  | done arts hc puts hA =>
    have hkeys := keys_of_rendered hc (hnamed fun z hz => (mem_phases hz _).2.2)
    have heq : putKeys (gate request bundle (arts.map Prod.fst) ++
        (arts.map (rendered request bundle) ++ puts.map (stored request))) =
        requestKeys request bundle.manifest := by
      rw [putKeys_append, putKeys_append, putKeys_stored, putKeys_eq_nil gate_not_put,
        putKeys_eq_nil rendered_not_put, hA, hkeys]
      rfl
    exact ⟨heq ▸ List.prefix_rfl, fun _ _ => heq⟩
  | _ =>
    refine ⟨hnone ?_, fun _ hr => by cases hr⟩
    simp only [gate, List.cons_append, List.forall_mem_cons, List.forall_mem_append,
      List.forall_mem_map]
    simp [fetched, found, validated, rendered, runOp, PortOp.isPut]

end

/-- What holds of the keys of a request for a template. -/
structure RequestKeys (request : GenerationRequest) (m : Manifest) : Prop where
  nodup : (requestKeys request m).Nodup
  /-- One key for each distinct format. -/
  mem_iff : ∀ key, key ∈ requestKeys request m ↔ ∃ out ∈ request.outputs,
    buildObjectKey request.keyPrefix (m.filenameFor out.format) = key
  length : (requestKeys request m).length = (request.outputs.map (·.format)).toFinset.card
  under : ∀ key ∈ requestKeys request m, (rstrip '/' request.keyPrefix ++ "/").toList <+: key.toList
  /-- A run stores under these keys in their order, all of them on success. -/
  written : ∀ (ρ : Type) generatedAt (tr : PortTrace ρ) r,
    (processRequest (Ports.calls ρ) request generatedAt).Runs tr r →
    (∀ bundle, fetched request bundle ∈ tr → bundle.manifest = m) → NamesArtifacts tr →
      putKeys tr <+: requestKeys request m ∧ (Succeeds r → putKeys tr = requestKeys request m)

/-- **Object keys never collide within a template.** -/
theorem object_keys_apart (m : Manifest) :
    (∀ p q f g, buildObjectKey p (m.filenameFor f) = buildObjectKey q (m.filenameFor g) ↔
      f = g ∧ rstrip '/' p = rstrip '/' q) ∧
    ∀ request : GenerationRequest, RequestKeys request m := by
  refine ⟨fun p q f g => objectKey_eq_iff m, fun request => ⟨requestKeys_nodup request m,
    fun key => mem_requestKeys, length_requestKeys request m, ?_, ?_⟩⟩
  · intro key hkey
    obtain ⟨out, -, rfl⟩ := mem_requestKeys.mp hkey
    exact prefix_objectKey _ _
  · intro ρ generatedAt tr r hr hm hn
    rcases process_request_runs hr with ⟨exc, rfl, rfl⟩ | ⟨bundle, r', hb, rfl⟩
    · exact ⟨List.nil_prefix, fun hs => absurd hs not_succeeds_caught⟩
    · obtain rfl := hm bundle ((hb.fetched_iff bundle).mpr rfl)
      refine ⟨(hb.put_keys hn).1, fun hs => ?_⟩
      rcases r' with exc | result
      · exact absurd hs not_succeeds_error
      · exact (hb.put_keys hn).2 result rfl

end DocGen
