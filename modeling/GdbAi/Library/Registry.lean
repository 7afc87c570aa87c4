import Mathlib

/-!
# Registries

A registry is a finite map with string keys that is walked in key order.  It is equal to
another exactly when both hold the same entries.  Besides the lookups of the standard library,
stated with equality of keys, this module has the two walks that stop early: the first entry
that satisfies a predicate, and whether there is one.
-/

/-- A finite map with string keys, walked in key order. -/
abbrev Registry (α : Type) := Std.ExtTreeMap String α compare

namespace Registry

variable {α β : Type}

lemma getElem?_insert (t : Registry α) (k a : String) (v : α) :
    (t.insert k v)[a]? = if k = a then some v else t[a]? := by
  simp [Std.ExtTreeMap.getElem?_insert]

lemma getElem?_erase (t : Registry α) (k a : String) :
    (t.erase k)[a]? = if k = a then none else t[a]? := by
  simp [Std.ExtTreeMap.getElem?_erase]

lemma getElem?_modify (t : Registry α) (k a : String) (f : α → α) :
    (t.modify k f)[a]? = if k = a then t[k]?.map f else t[a]? := by
  simp [Std.ExtTreeMap.getElem?_modify]

lemma getElem?_map (t : Registry α) (f : String → α → β) (a : String) :
    (t.map f)[a]? = t[a]?.map (f a) :=
  Std.ExtTreeMap.getElem?_map

lemma getElem?_filter (t : Registry α) (p : String → α → Bool) (a : String) :
    (t.filter p)[a]? = t[a]?.filter (p a) := by
  rw [Std.ExtTreeMap.getElem?_filter]
  simp only [Std.ExtTreeMap.getKey_eq, Option.pfilter_eq_filter]

lemma ext {t₁ t₂ : Registry α} (h : ∀ k : String, t₁[k]? = t₂[k]?) : t₁ = t₂ :=
  Std.ExtTreeMap.ext_getElem? h

/-- The first entry in key order that satisfies a predicate. -/
def first (t : Registry α) (p : String → α → Bool) : Option (String × α) :=
  t.toList.find? fun entry => p entry.1 entry.2

/-- Whether some entry satisfies a predicate. -/
def anyEntry (t : Registry α) (p : String → α → Bool) : Bool :=
  t.toList.any fun entry => p entry.1 entry.2

/-- The first key. -/
def firstKey (t : Registry α) : Option String := t.keys.head?

variable {t : Registry α} {p : String → α → Bool} {k : String} {v : α}

lemma first_eq_some (h : t.first p = some (k, v)) : t[k]? = some v ∧ p k v = true := by
  have hp := List.find?_some (p := fun entry : String × α => p entry.1 entry.2) h
  exact ⟨Std.ExtTreeMap.mem_toList_iff_getElem?_eq_some.mp (List.mem_of_find?_eq_some h), hp⟩

lemma first_eq_none (h : t.first p = none) (hk : t[k]? = some v) : p k v = false := by
  have hnot := List.find?_eq_none.mp h (k, v)
    (Std.ExtTreeMap.mem_toList_iff_getElem?_eq_some.mpr hk)
  simpa using hnot

/-- The first value that a function accepts, in key order, stands before every other one. -/
lemma findSome?_values {f : α → Option β} {b : β} (h : (t.toList.map Prod.snd).findSome? f = some b) :
     ∃ (k : String) (v : α), t[k]? = some v ∧ f v = some b ∧
      ∀ (k' : String) (v' : α), t[k']? = some v' → (f v').isSome → (compare k k').isLE := by
  rw [List.findSome?_map, List.findSome?_eq_some_iff] at h
  obtain ⟨before, ⟨k, v⟩, after, hsplit, hv, hnone⟩ := h
  have hordered := Std.ExtTreeMap.ordered_keys_toList (t := t)
  rw [hsplit, List.pairwise_append, List.pairwise_cons] at hordered
  refine ⟨k, v, ?_, hv, fun k' v' hk' hv' => ?_⟩
  · exact Std.ExtTreeMap.mem_toList_iff_getElem?_eq_some.mp (hsplit ▸ by simp)
  have hmem := Std.ExtTreeMap.mem_toList_iff_getElem?_eq_some.mpr hk'
  rw [hsplit, List.mem_append, List.mem_cons] at hmem
  rcases hmem with hmem | heq | hmem
  · have hno := hnone _ hmem
    simp only [Function.comp_apply] at hno
    rw [hno] at hv'
    cases hv'
  · rw [(Prod.mk.inj heq).1]
    exact Std.ReflCmp.isLE_rfl
  · rw [hordered.2.1.1 _ hmem]
    rfl

lemma findSome?_values_none {f : α → Option β} (h : (t.toList.map Prod.snd).findSome? f = none)
    (hk : t[k]? = some v) : f v = none := by
  rw [List.findSome?_eq_none_iff] at h
  exact h v (List.mem_map.mpr ⟨(k, v), Std.ExtTreeMap.mem_toList_iff_getElem?_eq_some.mpr hk, rfl⟩)

lemma anyEntry_eq_true :
    t.anyEntry p = true ↔ ∃ (k : String) (v : α), t[k]? = some v ∧ p k v = true := by
  rw [anyEntry, List.any_eq_true]
  constructor
  · rintro ⟨⟨k, v⟩, hmem, hp⟩
    exact ⟨k, v, Std.ExtTreeMap.mem_toList_iff_getElem?_eq_some.mp hmem, hp⟩
  · rintro ⟨k, v, hk, hp⟩
    exact ⟨(k, v), Std.ExtTreeMap.mem_toList_iff_getElem?_eq_some.mpr hk, hp⟩

lemma anyEntry_eq_false :
    t.anyEntry p = false ↔ ∀ (k : String) (v : α), t[k]? = some v → p k v = false := by
  rw [← Bool.not_eq_true, anyEntry_eq_true]
  simp

/-- A map that changes no entry changes nothing. -/
lemma map_eq_self {f : String → α → α} (h : ∀ (k : String) (v : α), t[k]? = some v → f k v = v) :
    t.map f = t := by
  refine ext fun k => ?_
  rw [getElem?_map]
  cases hk : t[k]? with
  | none => rfl
  | some v => rw [Option.map_some, h k v hk]

lemma contains_eq_false : t.contains k = false ↔ t[k]? = none := by
  rw [Std.ExtTreeMap.contains_eq_isSome_getElem?, Option.isSome_eq_false_iff, Option.isNone_iff_eq_none]

/-- Erasing a key that is not there changes nothing. -/
lemma erase_eq_self (h : t[k]? = none) : t.erase k = t := by
  refine ext fun a => ?_
  rw [getElem?_erase]
  split
  · rename_i hk
    rw [← hk, h]
  · rfl

/-- Modifying a key changes nothing when its entry, if any, is a fixed point. -/
lemma modify_eq_self {f : α → α} (h : ∀ v, t[k]? = some v → f v = v) : t.modify k f = t := by
  refine ext fun a => ?_
  rw [getElem?_modify]
  split
  · rename_i hk
    subst hk
    cases hv : t[k]? with
    | none => rfl
    | some v => rw [Option.map_some, h v hv]
  · rfl

/-- Inserting the entry that is there changes nothing. -/
lemma insert_eq_self (h : t[k]? = some v) : t.insert k v = t := by
  refine ext fun a => ?_
  rw [getElem?_insert]
  split
  · rename_i hk
    rw [← hk, h]
  · rfl

/-! ### Conditions on every entry -/

/-- Every entry satisfies `P`. -/
def All (P : String → α → Prop) (t : Registry α) : Prop :=
  ∀ (k : String) (v : α), t[k]? = some v → P k v

variable {P : String → α → Prop} {t : Registry α}

lemma All.empty : All P (∅ : Registry α) := by
  intro k v h
  simp at h

lemma All.insert (h : All P t) (hv : P k v) : All P (t.insert k v) := by
  intro a w ha
  rw [getElem?_insert] at ha
  split at ha
  · rename_i hk
    obtain rfl := Option.some.inj ha
    exact hk ▸ hv
  · exact h a w ha

lemma All.erase (h : All P t) (k : String) : All P (t.erase k) := by
  intro a w ha
  rw [getElem?_erase] at ha
  split at ha
  · cases ha
  · exact h a w ha

end Registry
