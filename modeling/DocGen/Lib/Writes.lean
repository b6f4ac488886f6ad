/-
# Loops that write into a map

A loop that may fail is a `List.foldlM` in `Except`: what its turns do one
after the other holds of the loop (`foldlM_induction`), and a loop that
completes on one list completes on a list that is as good
(`foldlM_simulates`).

Writes put values under the keys of a map, one after the other; a write stores
its value as `accept` makes it, and fails where that does. Afterwards a key
has the value of the last write to it (`Written.value`).
-/
import Mathlib.Data.List.Forall2
import Mathlib.Logic.Function.Basic

namespace DocGen

section Loops

variable {ε σ α β : Type}

theorem bind_ok {x : Except ε α} {f : α → Except ε β} {b : β} :
    (x >>= f) = .ok b ↔ ∃ a, x = .ok a ∧ f a = .ok b := by
  constructor
  · intro h
    cases x with
    | error e => cases h
    | ok a => exact ⟨a, rfl, h⟩
  · rintro ⟨a, rfl, h⟩
    exact h

theorem foldlM_cons_ok {f : σ → α → Except ε σ} {x : α} {xs : List α} {s t : σ} :
    (x :: xs).foldlM f s = .ok t ↔ ∃ u, f s x = .ok u ∧ xs.foldlM f u = .ok t := by
  rw [List.foldlM_cons, bind_ok]

/-- What holds of no turn, and of a turn and the turns after it, holds of a
loop that completes. -/
theorem foldlM_induction {f : σ → α → Except ε σ} {R : List α → σ → σ → Prop} (hnil : ∀ s, R [] s s)
    (hcons : ∀ x xs s u t, f s x = .ok u → R xs u t → R (x :: xs) s t) :
    ∀ {xs : List α} {s t : σ}, xs.foldlM f s = .ok t → R xs s t
  | [], s, t, h => by
    cases h
    exact hnil s
  | x :: xs, s, t, h => by
    obtain ⟨u, hu, ht⟩ := foldlM_cons_ok.mp h
    exact hcons x xs s u t hu (foldlM_induction hnil hcons ht)

/-- Every turn of a loop that completes has completed. -/
theorem foldlM_turn {f : σ → α → Except ε σ} : ∀ {xs : List α} {s t : σ},
    xs.foldlM f s = .ok t → ∀ x ∈ xs, ∃ u v, f u x = .ok v := by
  refine fun h => foldlM_induction (R := fun xs _ _ => ∀ x ∈ xs, ∃ u v, f u x = .ok v) ?_ ?_ h
  · intro _ x hx
    cases hx
  · intro x xs s u t hu ih y hy
    rcases List.mem_cons.mp hy with rfl | hy
    · exact ⟨s, u, hu⟩
    · exact ih y hy

/-- A loop completes if one completes that has a turn for each of its own, from
a state as good as its own. -/
theorem foldlM_simulates {τ : Type} {f : σ → α → Except ε σ} {g : τ → β → Except ε τ}
    {Q : α → β → Prop} {R : σ → τ → Prop} {xs : List α} {ys : List β} (hQ : List.Forall₂ Q xs ys)
    (hturn : ∀ x y s s' u, Q x y → R s s' → f s x = .ok u → ∃ u', g s' y = .ok u' ∧ R u u') :
    ∀ {s t : σ} {s' : τ}, R s s' → xs.foldlM f s = .ok t → ∃ t', ys.foldlM g s' = .ok t' ∧ R t t' := by
  induction hQ with
  | nil =>
    intro s t s' hR h
    cases h
    exact ⟨s', rfl, hR⟩
  | @cons x y xs ys hxy _ ih =>
    intro s t s' hR h
    obtain ⟨u, hu, ht⟩ := foldlM_cons_ok.mp h
    obtain ⟨u', hu', hR'⟩ := hturn x y s s' u hxy hR hu
    obtain ⟨t', ht', hRt⟩ := ih hR' ht
    exact ⟨t', foldlM_cons_ok.mpr ⟨u', hu', ht'⟩, hRt⟩

theorem forall₂_zipIdx {Q : α → β → Prop} {xs : List α} {ys : List β} (h : List.Forall₂ Q xs ys) :
    ∀ n, List.Forall₂ (fun a b => Q a.1 b.1 ∧ a.2 = b.2) (xs.zipIdx n) (ys.zipIdx n) := by
  induction h with
  | nil => exact fun _ => .nil
  | cons hxy _ ih => exact fun n => .cons ⟨hxy, rfl⟩ (ih (n + 1))

theorem zipIdx_pairwise {α : Type} (l : List α) : l.zipIdx.Pairwise fun a b => a.2 < b.2 := by
  refine List.pairwise_map.mp ?_
  rw [List.zipIdx_map_snd]
  exact List.pairwise_lt_range'

theorem exists_last_position {k : α} : ∀ {l : List α}, k ∈ l →
    ∃ i : ℕ, l[i]? = some k ∧ ∀ j : ℕ, i < j → l[j]? ≠ some k
  | x :: l, h => by
    by_cases hl : k ∈ l
    · obtain ⟨i, hi, hlast⟩ := exists_last_position hl
      refine ⟨i + 1, hi, fun j hj => ?_⟩
      obtain ⟨j, rfl⟩ := Nat.exists_eq_add_of_lt hj
      exact hlast _ (by omega)
    · refine ⟨0, ?_, fun j hj hk => hl ?_⟩
      · rw [List.getElem?_cons_zero, (List.mem_cons.mp h).resolve_right hl]
      · obtain ⟨j, rfl⟩ := Nat.exists_eq_add_of_lt hj
        exact List.mem_of_getElem? (by simpa using hk)

end Loops

section Writes

variable {κ ξ V ε : Type} [DecidableEq κ]

/-- The value of the last write to a key. -/
def lastAt : List (κ × ξ) → κ → Option ξ
  | [], _ => none
  | (key, x) :: ws, k => (lastAt ws k).or (if key = k then some x else none)

theorem lastAt_append : ∀ (l m : List (κ × ξ)) (k : κ),
    lastAt (l ++ m) k = (lastAt m k).or (lastAt l k)
  | [], m, k => (Option.or_none).symm
  | (key, x) :: l, m, k => by
    rw [List.cons_append, lastAt, lastAt, lastAt_append l m k, Option.or_assoc]

theorem lastAt_eq_none {k : κ} : ∀ {ws : List (κ × ξ)}, lastAt ws k = none ↔ ∀ w ∈ ws, w.1 ≠ k
  | [] => by simp [lastAt]
  | (key, x) :: ws => by
    rw [lastAt, Option.or_eq_none_iff, lastAt_eq_none, List.forall_mem_cons]
    by_cases h : key = k <;> simp [h]

theorem lastAt_eq_some {k : κ} {x : ξ} : ∀ {ws : List (κ × ξ)}, lastAt ws k = some x ↔
    ∃ l r, ws = l ++ (k, x) :: r ∧ ∀ w ∈ r, w.1 ≠ k
  | [] => by simp [lastAt]
  | (key, y) :: ws => by
    rw [lastAt, Option.or_eq_some_iff, lastAt_eq_some, lastAt_eq_none]
    constructor
    · rintro (⟨l, r, rfl, hr⟩ | ⟨hws, hy⟩)
      · exact ⟨(key, y) :: l, r, rfl, hr⟩
      · split at hy
        · rename_i hk
          cases hy
          exact ⟨[], ws, by rw [hk, List.nil_append], hws⟩
        · cases hy
    · rintro ⟨l, r, h, hr⟩
      rcases l with _ | ⟨w, l⟩
      · obtain ⟨h₁, rfl⟩ := List.cons.inj h
        obtain ⟨rfl, rfl⟩ := Prod.mk.inj h₁
        exact Or.inr ⟨hr, if_pos rfl⟩
      · obtain ⟨-, rfl⟩ := List.cons.inj h
        exact Or.inl ⟨l, r, rfl, hr⟩

/-- The last write to a key is a write to it. -/
theorem mem_of_lastAt {ws : List (κ × ξ)} {k : κ} {x : ξ} (h : lastAt ws k = some x) : (k, x) ∈ ws := by
  obtain ⟨l, r, rfl, -⟩ := lastAt_eq_some.mp h
  simp

/-- Writes of one value: it is at every key that has one. -/
theorem lastAt_const {x : ξ} {ws : List (κ × ξ)} (hws : ∀ w ∈ ws, w.2 = x) {k : κ} :
    lastAt ws k = some x ↔ ∃ w ∈ ws, w.1 = k := by
  constructor
  · exact fun h => ⟨_, mem_of_lastAt h, rfl⟩
  · rintro ⟨w, hw, hk⟩
    rcases hl : lastAt ws k with _ | y
    · exact absurd hk (lastAt_eq_none.mp hl w hw)
    · exact congrArg some (hws _ (mem_of_lastAt hl))

theorem lastAt_flatMap_none {α : Type} {f : α → List (κ × ξ)} {k : κ} {xs : List α} :
    lastAt (xs.flatMap f) k = none ↔ ∀ a ∈ xs, lastAt (f a) k = none := by
  simp only [lastAt_eq_none, List.mem_flatMap]
  exact ⟨fun h a ha w hw => h w ⟨a, ha, hw⟩, fun h w ⟨a, ha, hw⟩ => h a ha w hw⟩

/-- Writes made for one thing after the other: the last thing with a write to a
key says what is there. -/
theorem lastAt_flatMap {α : Type} {f : α → List (κ × ξ)} {k : κ} {x : ξ} : ∀ {xs : List α},
    lastAt (xs.flatMap f) k = some x ↔
      ∃ pre a post, xs = pre ++ a :: post ∧ lastAt (f a) k = some x ∧ ∀ b ∈ post, lastAt (f b) k = none
  | [] => by simp [lastAt]
  | a :: xs => by
    rw [List.flatMap_cons, lastAt_append, Option.or_eq_some_iff, lastAt_flatMap, lastAt_flatMap_none]
    constructor
    · rintro (⟨pre, b, post, rfl, hb, hpost⟩ | ⟨hxs, ha⟩)
      · exact ⟨a :: pre, b, post, rfl, hb, hpost⟩
      · exact ⟨[], a, xs, rfl, ha, hxs⟩
    · rintro ⟨pre, b, post, h, hb, hpost⟩
      rcases pre with _ | ⟨c, pre⟩
      · obtain ⟨rfl, rfl⟩ := List.cons.inj h
        exact Or.inr ⟨hpost, hb⟩
      · obtain ⟨-, rfl⟩ := List.cons.inj h
        exact Or.inl ⟨pre, b, post, rfl, hb, hpost⟩

/-- When each key is written what a function says of it. -/
theorem lastAt_map_key (f : κ → ξ) (k : κ) : ∀ keys : List κ,
    lastAt (keys.map fun key => (key, f key)) k = if k ∈ keys then some (f k) else none
  | [] => rfl
  | key :: keys => by
    rw [List.map_cons, lastAt, lastAt_map_key f k keys]
    by_cases hk : key = k
    · subst hk
      by_cases hmem : key ∈ keys <;> simp [hmem]
    · simp [hk, Ne.symm hk]

/-- The last writes to a key of two lists, write by write as good. -/
theorem lastAt_forall₂ {Q : ξ → ξ → Prop} {ws ws' : List (κ × ξ)}
    (h : List.Forall₂ (fun w w' => w'.1 = w.1 ∧ Q w.2 w'.2) ws ws') (k : κ) :
    (lastAt ws k = none ∧ lastAt ws' k = none) ∨
      ∃ x x', lastAt ws k = some x ∧ lastAt ws' k = some x' ∧ Q x x' := by
  induction h with
  | nil => exact Or.inl ⟨rfl, rfl⟩
  | @cons w w' ws ws' hw _ ih =>
    obtain ⟨hkey, hQ⟩ := hw
    rw [lastAt, lastAt, hkey]
    rcases ih with ⟨h, h'⟩ | ⟨x, x', h, h', hx⟩
    · rw [h, h', Option.none_or, Option.none_or]
      by_cases hk : w.1 = k
      · rw [if_pos hk, if_pos hk]
        exact Or.inr ⟨_, _, rfl, rfl, hQ⟩
      · rw [if_neg hk, if_neg hk]
        exact Or.inl ⟨rfl, rfl⟩
    · rw [h, h', Option.some_or, Option.some_or]
      exact Or.inr ⟨x, x', rfl, rfl, hx⟩

/-- When the writes are made in the order `r` of what they are made for, the
last write to a key is the greatest for it. -/
theorem lastAt_map {α : Type} {r : α → α → Prop} (hasymm : ∀ a b, r a b → ¬ r b a) {l : List α}
    (hl : l.Pairwise r) {f : α → κ × ξ} {k : κ} {x : ξ} : lastAt (l.map f) k = some x ↔
      ∃ a ∈ l, f a = (k, x) ∧ ∀ b ∈ l, (f b).1 = k → b = a ∨ r b a := by
  rw [lastAt_eq_some]
  constructor
  · rintro ⟨ws, ws', hws, hlast⟩
    obtain ⟨l₁, l', rfl, -, hl'⟩ := List.map_eq_append_iff.mp hws
    obtain ⟨a, l₂, rfl, ha, rfl⟩ := List.map_eq_cons_iff.mp hl'
    refine ⟨a, by simp, ha, fun b hb hkey => ?_⟩
    rcases List.mem_append.mp hb with hb | hb
    · exact Or.inr ((List.pairwise_append.mp hl).2.2 b hb a List.mem_cons_self)
    · rcases List.mem_cons.mp hb with rfl | hb
      · exact Or.inl rfl
      · exact absurd hkey (hlast _ (List.mem_map_of_mem hb))
  · rintro ⟨a, ha, hfa, hgreatest⟩
    obtain ⟨l₁, l₂, rfl⟩ := List.append_of_mem ha
    refine ⟨l₁.map f, l₂.map f, by simp [hfa], fun w hw hkey => ?_⟩
    obtain ⟨b, hb, rfl⟩ := List.mem_map.mp hw
    have hab := (List.pairwise_cons.mp (List.pairwise_append.mp hl).2.1).1 b hb
    rcases hgreatest b (by simp [hb]) hkey with rfl | hba
    · exact hasymm _ _ hab hab
    · exact hasymm _ _ hab hba

/-- The positions of a list, written one after the other: an element has what
is written at the last of its positions. -/
theorem lastAt_zipIdx {l : List κ} {k : κ} {i : ℕ} (hi : l[i]? = some k)
    (hlast : ∀ j, i < j → l[j]? ≠ some k) (g : ℕ → ξ) :
    lastAt (l.zipIdx.map fun item => (item.1, g item.2)) k = some (g i) := by
  refine (lastAt_map (fun a b hab => Nat.lt_asymm hab) (zipIdx_pairwise l)).mpr
    ⟨(k, i), List.mem_zipIdx_iff_getElem?.mpr hi, rfl, ?_⟩
  rintro ⟨x, j⟩ hx hk
  obtain rfl : x = k := hk
  have hj : l[j]? = some x := List.mem_zipIdx_iff_getElem?.mp hx
  rcases Nat.lt_trichotomy j i with hlt | rfl | hlt
  · exact Or.inr hlt
  · exact Or.inl rfl
  · exact absurd hj (hlast j hlt)

/-- From the map `m`, the writes `ws` make the map `m'`. -/
inductive Written (accept : ξ → Except ε V) : (κ → V) → List (κ × ξ) → (κ → V) → Prop
  | nil (m) : Written accept m [] m
  | cons {m key x v ws m'} (hv : accept x = .ok v)
      (h : Written accept (Function.update m key v) ws m') : Written accept m ((key, x) :: ws) m'

namespace Written

variable {accept : ξ → Except ε V} {m m' m'' : κ → V} {ws ws' : List (κ × ξ)}

theorem single {key : κ} {x : ξ} {v : V} (hv : accept x = .ok v) :
    Written accept m [(key, x)] (Function.update m key v) := .cons hv (.nil _)

theorem append (h : Written accept m ws m') (h' : Written accept m' ws' m'') :
    Written accept m (ws ++ ws') m'' := by
  induction h with
  | nil => exact h'
  | cons hv _ ih => exact .cons hv (ih h')

/-- A key has the value of the last write to it, or the one it had. -/
theorem value (h : Written accept m ws m') (k : κ) :
    (∀ x, lastAt ws k = some x → accept x = .ok (m' k)) ∧ (lastAt ws k = none → m' k = m k) := by
  induction h with
  | nil => exact ⟨fun _ h => (Option.some_ne_none _ h.symm).elim, fun _ => rfl⟩
  | @cons m key x v ws m' hv h ih =>
    obtain ⟨ih₁, ih₂⟩ := ih
    rw [lastAt]
    rcases hl : lastAt ws k with _ | y
    · rw [Option.none_or]
      have hm := ih₂ hl
      by_cases hk : key = k
      · rw [hk, Function.update_self] at hm
        rw [if_pos hk, hm]
        refine ⟨fun y hy => ?_, fun h => by cases h⟩
        cases hy
        exact hv
      · rw [Function.update_of_ne (Ne.symm hk)] at hm
        rw [if_neg hk]
        exact ⟨fun _ h => (Option.some_ne_none _ h.symm).elim, fun _ => hm⟩
    · refine ⟨fun z hz => ?_, fun h => by cases h⟩
      cases hz
      exact ih₁ y hl

/-- A loop whose turns make writes makes the writes of its turns. -/
theorem foldlM {σ α : Type} (view : σ → κ → V) {f : σ → α → Except ε σ} {w : α → List (κ × ξ)}
    (hf : ∀ s x u, f s x = .ok u → Written accept (view s) (w x) (view u)) {xs : List α} {s t : σ}
    (h : xs.foldlM f s = .ok t) : Written accept (view s) (xs.flatMap w) (view t) :=
  foldlM_induction (R := fun xs s t => Written accept (view s) (xs.flatMap w) (view t))
    (fun _ => .nil _) (fun x _ s u _ hu ih => List.flatMap_cons ▸ (hf s x u hu).append ih) h

end Written

end Writes

end DocGen
