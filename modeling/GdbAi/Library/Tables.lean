import Mathlib

/-!
# Tables with a primary key

A table is a list of rows of which no two have the same key; the statements that change it keep
that.  `total` is the sum of a column over the rows that satisfy a condition: inserting a row
adds what the row has, an update that keeps the column and the condition changes nothing, and
deleting can only lower it.
-/

/-- Rows that are told apart by their keys. -/
structure Table {α κ : Type} (key : α → κ) where
  rows : List α
  unique : (rows.map key).Nodup

namespace Table

variable {α κ : Type} {key : α → κ}

/-- The table without rows. -/
def empty : Table key := ⟨[], List.nodup_nil⟩

/-- `DELETE … WHERE p`. -/
def deleteWhere (t : Table key) (p : α → Bool) : Table key where
  rows := t.rows.filter fun row => !p row
  unique := t.unique.sublist (List.filter_sublist.map key)

variable {t : Table key}

/-- Two rows of one key are one row. -/
lemma eq_of_key_eq {row row' : α} (h : row ∈ t.rows) (h' : row' ∈ t.rows)
    (hkey : key row = key row') : row = row' :=
  List.inj_on_of_nodup_map t.unique h h' hkey

variable {row : α}

@[simp] lemma mem_deleteWhere {p : α → Bool} :
    row ∈ (t.deleteWhere p).rows ↔ row ∈ t.rows ∧ p row = false := by
  simp [deleteWhere]

variable {update : α → α}

/-- An update that keeps keys keeps the list of keys. -/
lemma comp_update_eq {β : Type} {f : α → β} (h : ∀ r, f (update r) = f r) (p : α → Prop)
    [DecidablePred p] : (f ∘ fun r => if p r then update r else r) = f := by
  funext r
  simp only [Function.comp_apply]
  split
  · exact h r
  · rfl

/-- `SELECT SUM(size) … WHERE p`. -/
def total (t : Table key) (size : α → ℕ) (p : α → Bool) : ℕ := ((t.rows.filter p).map size).sum

variable {size : α → ℕ}

/-- The rows counted by a stronger condition, of fewer rows, weigh less. -/
lemma total_le_of_sublist {t t' : Table key} {p p' : α → Bool} (hrows : t'.rows.Sublist t.rows)
    (hp : ∀ row ∈ t'.rows, p' row = true → p row = true) : t'.total size p' ≤ t.total size p := by
  have hfilter : t'.rows.filter p' = (t'.rows.filter p').filter p := by
    rw [List.filter_filter]
    refine (List.filter_congr fun row hrow => ?_).symm
    cases hcase : p' row with
    | false => simp
    | true => simp [hp row hrow hcase]
  have hsub : (t'.rows.filter p').Sublist (t.rows.filter p) := by
    rw [hfilter]
    exact (List.filter_sublist.trans hrows).filter p
  exact List.Sublist.sum_le_sum (hsub.map size) (by simp)

variable [DecidableEq κ]

/-- `SELECT … WHERE key = k`. -/
def lookup (t : Table key) (k : κ) : Option α := t.rows.find? fun row => key row = k

variable {k : κ}

lemma lookup_eq_some (h : t.lookup k = some row) : row ∈ t.rows ∧ key row = k := by
  have hkey := List.find?_some h
  exact ⟨List.mem_of_find?_eq_some h, by simpa using hkey⟩

lemma lookup_eq_none : t.lookup k = none ↔ k ∉ t.rows.map key := by
  simp [lookup, List.find?_eq_none]

lemma lookup_of_mem (h : row ∈ t.rows) : t.lookup (key row) = some row := by
  cases hfound : t.lookup (key row) with
  | none => exact absurd (List.mem_map_of_mem h) (lookup_eq_none.mp hfound)
  | some row' =>
    obtain ⟨hmem, hkey⟩ := lookup_eq_some hfound
    rw [eq_of_key_eq hmem h hkey]

/-- `INSERT … ON CONFLICT DO UPDATE`: the row that has the key already is changed by `update`,
which keeps keys. -/
def upsert (t : Table key) (row : α) (update : α → α) (hkey : ∀ r, key (update r) = key r) :
    Table key :=
  if h : key row ∈ t.rows.map key then
    { rows := t.rows.map fun r => if key r = key row then update r else r
      unique := by
        rw [List.map_map, comp_update_eq hkey]
        exact t.unique }
  else
    { rows := t.rows ++ [row]
      unique := by
        rw [List.map_append, List.nodup_append]
        refine ⟨t.unique, List.nodup_singleton _, ?_⟩
        intro k hk k' hk' heq
        rw [List.map_singleton, List.mem_singleton] at hk'
        exact h (hk' ▸ heq ▸ hk) }

/-- `INSERT OR IGNORE`. -/
def insertOrIgnore (t : Table key) (row : α) : Table key := t.upsert row id fun _ => rfl

lemma upsert_rows_of_mem {hkey : ∀ r, key (update r) = key r} (h : key row ∈ t.rows.map key) :
    (t.upsert row update hkey).rows = t.rows.map fun r => if key r = key row then update r else r := by
  rw [upsert, dif_pos h]

lemma upsert_rows_of_not_mem {hkey : ∀ r, key (update r) = key r} (h : key row ∉ t.rows.map key) :
    (t.upsert row update hkey).rows = t.rows ++ [row] := by
  rw [upsert, dif_neg h]

/-- The keys after an insertion. -/
lemma mem_keys_upsert {hkey : ∀ r, key (update r) = key r} :
    k ∈ (t.upsert row update hkey).rows.map key ↔ k ∈ t.rows.map key ∨ k = key row := by
  by_cases h : key row ∈ t.rows.map key
  · rw [upsert_rows_of_mem h, List.map_map, comp_update_eq hkey]
    constructor
    · exact Or.inl
    · rintro (hk | rfl)
      · exact hk
      · exact h
  · rw [upsert_rows_of_not_mem h, List.map_append, List.mem_append]
    simp

/-- A row after an insertion is the new row, an updated one or one of another key. -/
lemma mem_upsert {row r : α} {hkey : ∀ r, key (update r) = key r}
    (h : r ∈ (t.upsert row update hkey).rows) : (r = row ∧ key row ∉ t.rows.map key) ∨
      (∃ old ∈ t.rows, key old = key row ∧ r = update old) ∨ r ∈ t.rows ∧ key r ≠ key row := by
  by_cases hmem : key row ∈ t.rows.map key
  · rw [upsert_rows_of_mem hmem] at h
    obtain ⟨old, hold, rfl⟩ := List.mem_map.mp h
    split
    · rename_i hsame
      exact .inr (.inl ⟨old, hold, hsame, rfl⟩)
    · rename_i hother
      exact .inr (.inr ⟨hold, hother⟩)
  · rw [upsert_rows_of_not_mem hmem] at h
    rcases List.mem_append.mp h with hold | hnew
    · refine .inr (.inr ⟨hold, fun hsame => hmem ?_⟩)
      exact hsame ▸ List.mem_map_of_mem hold
    · exact .inl ⟨List.mem_singleton.mp hnew, hmem⟩

lemma mem_insertOrIgnore {t : Table (id : α → α)} [DecidableEq α] {row r : α} :
    r ∈ (t.insertOrIgnore row).rows ↔ r ∈ t.rows ∨ r = row := by
  have h : r ∈ (t.insertOrIgnore row).rows.map id ↔ r ∈ t.rows.map id ∨ r = id row := by
    rw [insertOrIgnore, mem_keys_upsert]
  simpa using h

/-! ### Sums under insertions -/

variable {q q' : κ → Bool}

/-- Letting one more key count adds the size of its row at most. -/
lemma total_le_of_new_key {n : ℕ} (hn : ∀ row ∈ t.rows, key row = k → size row = n)
    (hq : ∀ k', k' ≠ k → q' k' = true → q k' = true) :
    t.total size (fun row => q' (key row)) ≤ t.total size (fun row => q (key row)) + n := by
  -- along the rows: the key is met once at most, and only its row may be new to the condition
  have hmain : ∀ rows : List α, (rows.map key).Nodup → (∀ row ∈ rows, key row = k → size row = n) →
      ((rows.filter fun row => q' (key row)).map size).sum ≤
        ((rows.filter fun row => q (key row)).map size).sum + if k ∈ rows.map key then n else 0 := by
    intro rows
    induction rows with
    | nil => simp
    | cons row rows ih =>
      intro hnodup hsize
      rw [List.map_cons, List.nodup_cons] at hnodup
      have hrest := ih hnodup.2 fun r hr => hsize r (List.mem_cons_of_mem _ hr)
      by_cases hk : key row = k
      · have habsent : k ∉ rows.map key := hk ▸ hnodup.1
        have hbound := hsize row (List.mem_cons_self ..) hk
        rw [if_neg habsent] at hrest
        rw [if_pos (by simp [hk])]
        cases hp' : q' (key row) <;> cases hp : q (key row) <;>
          simp only [List.filter_cons, hp', hp, if_true, if_false, Bool.false_eq_true,
            List.map_cons, List.sum_cons] <;> omega
      · have hkeep : (k ∈ (row :: rows).map key) ↔ k ∈ rows.map key := by
          simp [Ne.symm hk]
        have himp := hq (key row) hk
        simp only [hkeep]
        cases hp' : q' (key row) <;> cases hp : q (key row) <;>
          simp only [List.filter_cons, hp', hp, if_true, if_false, Bool.false_eq_true,
            List.map_cons, List.sum_cons] <;> first
            | omega
            | exact absurd (himp hp') (by simp [hp])
  have hle := hmain t.rows t.unique hn
  simp only [total]
  split at hle <;> omega

/-- An update that keeps the sizes keeps every total over keys. -/
lemma total_upsert_of_mem {hkey : ∀ r, key (update r) = key r} {q : κ → Bool}
    (h : key row ∈ t.rows.map key) (hsize : ∀ r, size (update r) = size r) :
    (t.upsert row update hkey).total size (fun r => q (key r)) =
      t.total size (fun r => q (key r)) := by
  have hkeys : (fun r => q (key r)) ∘ (fun r => if key r = key row then update r else r) =
      fun r => q (key r) :=
    comp_update_eq (f := fun r => q (key r)) (fun r => by rw [hkey]) _
  simp only [total]
  rw [upsert_rows_of_mem h, List.filter_map, hkeys, List.map_map, comp_update_eq hsize]

/-- The total after the insertion of a new row. -/
lemma total_upsert_of_not_mem {hkey : ∀ r, key (update r) = key r} {q : κ → Bool}
    (h : key row ∉ t.rows.map key) : (t.upsert row update hkey).total size (fun r => q (key r)) =
      t.total size (fun r => q (key r)) + if q (key row) then size row else 0 := by
  simp only [total]
  rw [upsert_rows_of_not_mem h, List.filter_append, List.map_append, List.sum_append]
  cases hcase : q (key row) <;> simp [hcase]

/-- An insertion after which its own key may count too adds the size of the row at most. -/
lemma total_upsert_le_add {hkey : ∀ r, key (update r) = key r}
    (hsize : ∀ r, size (update r) = size r)
    (hsame : ∀ r ∈ t.rows, key r = key row → size r = size row)
    (hq : ∀ k, k ≠ key row → q' k = true → q k = true) :
    (t.upsert row update hkey).total size (fun r => q' (key r)) ≤
      t.total size (fun r => q (key r)) + size row := by
  by_cases h : key row ∈ t.rows.map key
  · rw [total_upsert_of_mem h hsize]
    exact total_le_of_new_key hsame hq
  · rw [total_upsert_of_not_mem h]
    have hold : t.total size (fun r => q' (key r)) ≤ t.total size (fun r => q (key r)) := by
      refine total_le_of_sublist (List.Sublist.refl _) fun r hr => hq (key r) ?_
      intro hr_key
      exact h (hr_key ▸ List.mem_map_of_mem hr)
    split <;> omega

/-- An insertion that lets nothing new count, its own key only if it has a row, adds nothing. -/
lemma total_upsert_le {hkey : ∀ r, key (update r) = key r} (hsize : ∀ r, size (update r) = size r)
    (hq : ∀ k, q' k = true → q k = true) (hrow : q' (key row) = true → key row ∈ t.rows.map key) :
    (t.upsert row update hkey).total size (fun r => q' (key r)) ≤
      t.total size (fun r => q (key r)) := by
  have hold : t.total size (fun r => q' (key r)) ≤ t.total size (fun r => q (key r)) :=
    total_le_of_sublist (List.Sublist.refl _) fun r _ => hq (key r)
  by_cases h : key row ∈ t.rows.map key
  · rw [total_upsert_of_mem h hsize]
    exact hold
  · rw [total_upsert_of_not_mem h, if_neg fun hcounts => h (hrow hcounts)]
    exact hold

end Table
