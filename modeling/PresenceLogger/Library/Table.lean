import Mathlib.Data.List.Sort
import Mathlib.Data.List.Nodup

/-!
# Keyed tables

A table with a primary key, as the single-statement SQL operations see it: the
rows in insertion order, with no two rows sharing a key.  Each operation below
is one atomic statement, and the lookup lemmas say what a later `SELECT` by key
observes.
-/

namespace PresenceLogger.Library

universe u v

/-- Rows in insertion order; the primary key is carried as an invariant. -/
structure Table (ρ : Type u) {κ : Type v} (key : ρ → κ) where
  rows : List ρ
  nodup : (rows.map key).Nodup

namespace Table

variable {ρ : Type u} {κ : Type v} {key : ρ → κ}

/-- The table with no rows. -/
def empty : Table ρ key where
  rows := []
  nodup := List.nodup_nil

/-- `SELECT * WHERE guard ORDER BY ...`; rows that compare equal keep their
insertion order. -/
def select (table : Table ρ key) (guard : ρ → Bool) (before : ρ → ρ → Prop)
    [DecidableRel before] : List ρ :=
  (table.rows.filter guard).insertionSort before

/-- A selection returns exactly the rows its guard accepts. -/
@[simp] theorem mem_select {table : Table ρ key} {guard : ρ → Bool}
    {before : ρ → ρ → Prop} [DecidableRel before] {row : ρ} :
    row ∈ table.select guard before ↔ row ∈ table.rows ∧ guard row = true := by
  simp [select]

theorem nodup_map_select (table : Table ρ key) (guard : ρ → Bool)
    (before : ρ → ρ → Prop) [DecidableRel before] :
    ((table.select guard before).map key).Nodup := by
  have reordered := (List.perm_insertionSort before (table.rows.filter guard)).map key
  exact reordered.nodup_iff.mpr (table.nodup.sublist (List.filter_sublist.map key))

variable [DecidableEq κ]

/-- `SELECT * WHERE key = ?` -/
def get (table : Table ρ key) (k : κ) : Option ρ :=
  table.rows.find? fun row => decide (key row = k)

/-- `INSERT ... ON CONFLICT(key) DO NOTHING` -/
def insertOrIgnore (table : Table ρ key) (row : ρ) : Table ρ key :=
  if fresh : key row ∈ table.rows.map key then
    table
  else
    { rows := table.rows ++ [row]
      nodup := by
        rw [List.map_append]
        exact List.nodup_append.mpr ⟨table.nodup, List.nodup_singleton _,
          fun k present other single equal =>
            fresh (by rw [List.map_singleton, List.mem_singleton] at single
                      exact single ▸ equal ▸ present)⟩ }

/-- `UPDATE ... SET ... WHERE guard`, for assignments that leave the key
columns alone. -/
def updateWhere (table : Table ρ key) (guard : ρ → Bool) (set : ρ → ρ)
    (keepsKey : ∀ row, key (set row) = key row) : Table ρ key where
  rows := table.rows.map fun row => if guard row then set row else row
  nodup := by
    have sameKeys : (table.rows.map fun row => if guard row then set row else row).map key =
        table.rows.map key := by
      rw [List.map_map]
      refine List.map_congr_left fun row _ => ?_
      simp only [Function.comp_apply]
      split <;> simp only [keepsKey]
    rw [sameKeys]
    exact table.nodup

/-- `UPDATE ... SET ... WHERE key = ?` -/
def update (table : Table ρ key) (k : κ) (set : ρ → ρ)
    (keepsKey : ∀ row, key (set row) = key row) : Table ρ key :=
  table.updateWhere (fun row => decide (key row = k)) set keepsKey

/-- `INSERT ... ON CONFLICT(key) DO UPDATE SET ...` -/
def upsert (table : Table ρ key) (row : ρ) (set : ρ → ρ)
    (keepsKey : ∀ row, key (set row) = key row) : Table ρ key :=
  if key row ∈ table.rows.map key then
    table.update (key row) set keepsKey
  else
    table.insertOrIgnore row

/-- `DELETE WHERE key = ?` -/
def delete (table : Table ρ key) (k : κ) : Table ρ key where
  rows := table.rows.filter fun row => !decide (key row = k)
  nodup := (table.nodup.sublist (List.filter_sublist.map key))

/-! ## What a lookup observes -/

theorem get_eq_some_iff {table : Table ρ key} {k : κ} {row : ρ} :
    table.get k = some row ↔ row ∈ table.rows ∧ key row = k := by
  constructor
  · intro found
    exact ⟨List.mem_of_find?_eq_some found, by simpa using List.find?_some found⟩
  · rintro ⟨member, rfl⟩
    obtain ⟨other, found⟩ : ∃ other, table.get (key row) = some other := by
      rw [← Option.isSome_iff_exists, get, List.find?_isSome]
      exact ⟨row, member, by simp⟩
    have sameKey : key other = key row := by simpa using List.find?_some found
    rw [found, List.inj_on_of_nodup_map table.nodup
      (List.mem_of_find?_eq_some found) member sameKey]

theorem key_of_get {table : Table ρ key} {k : κ} {row : ρ}
    (found : table.get k = some row) : key row = k :=
  (get_eq_some_iff.mp found).2

theorem mem_of_get {table : Table ρ key} {k : κ} {row : ρ}
    (found : table.get k = some row) : row ∈ table.rows :=
  (get_eq_some_iff.mp found).1

theorem get_of_mem {table : Table ρ key} {row : ρ} (member : row ∈ table.rows) :
    table.get (key row) = some row :=
  get_eq_some_iff.mpr ⟨member, rfl⟩

theorem get_eq_none_iff {table : Table ρ key} {k : κ} :
    table.get k = none ↔ k ∉ table.rows.map key := by
  simp only [get, List.find?_eq_none, List.mem_map, decide_eq_true_eq, not_exists, not_and]

@[simp] theorem get_empty (k : κ) : (empty : Table ρ key).get k = none := rfl

theorem prefix_insertOrIgnore (table : Table ρ key) (row : ρ) :
    table.rows <+: (table.insertOrIgnore row).rows := by
  unfold insertOrIgnore
  split
  · exact List.prefix_rfl
  · exact List.prefix_append _ _

theorem length_insertOrIgnore_le (table : Table ρ key) (row : ρ) :
    (table.insertOrIgnore row).rows.length ≤ table.rows.length + 1 := by
  unfold insertOrIgnore
  split
  · exact Nat.le_succ _
  · rw [List.length_append, List.length_singleton]

/-- An insert is ignored exactly when its key is taken. -/
theorem insertOrIgnore_eq_self_iff {table : Table ρ key} {row : ρ} :
    table.insertOrIgnore row = table ↔ ∃ known, table.get (key row) = some known := by
  have taken : (∃ known, table.get (key row) = some known) ↔ key row ∈ table.rows.map key := by
    rw [← Option.isSome_iff_exists, ← Option.ne_none_iff_isSome, Ne, get_eq_none_iff, not_not]
  rw [taken]
  unfold insertOrIgnore
  split
  next present => exact iff_of_true rfl present
  next fresh =>
    refine iff_of_false (fun same => ?_) fresh
    have sameLength := congrArg (fun table => table.rows.length) same
    simp only [List.length_append, List.length_singleton] at sameLength
    omega

/-- An ignored or successful insert changes the lookup of the new key only, and
only when that key was free. -/
theorem get_insertOrIgnore (table : Table ρ key) (row : ρ) (k : κ) :
    (table.insertOrIgnore row).get k =
      if key row = k ∧ table.get k = none then some row else table.get k := by
  unfold insertOrIgnore
  split
  next present =>
    have occupied : ¬(key row = k ∧ table.get k = none) := by
      rintro ⟨rfl, absent⟩
      exact get_eq_none_iff.mp absent present
    rw [if_neg occupied]
  next fresh =>
    simp only [get, List.find?_append, List.find?_singleton]
    by_cases here : key row = k
    · have absent : table.get k = none := get_eq_none_iff.mpr (here ▸ fresh)
      simp only [get] at absent
      simp [absent, here]
    · simp [here]

theorem mem_insertOrIgnore {table : Table ρ key} {row other : ρ} :
    other ∈ (table.insertOrIgnore row).rows ↔
      other ∈ table.rows ∨ other = row ∧ key row ∉ table.rows.map key := by
  rw [insertOrIgnore]
  split
  next present => simp only [present, not_true_eq_false, and_false, or_false]
  next fresh => simp only [fresh, not_false_eq_true, and_true, List.mem_append, List.mem_singleton]

theorem get_updateWhere (table : Table ρ key) (guard : ρ → Bool) (set : ρ → ρ)
    (keepsKey : ∀ row, key (set row) = key row) (k : κ) :
    (table.updateWhere guard set keepsKey).get k =
      (table.get k).map fun row => if guard row then set row else row := by
  have sameKey : ∀ row, key (if guard row then set row else row) = key row := by
    intro row
    split <;> simp only [keepsKey]
  simp only [get, updateWhere, List.find?_map, Function.comp_def, sameKey]

theorem get_update (table : Table ρ key) (k : κ) (set : ρ → ρ)
    (keepsKey : ∀ row, key (set row) = key row) (query : κ) :
    (table.update k set keepsKey).get query =
      if query = k then (table.get query).map set else table.get query := by
  rw [update, get_updateWhere]
  cases found : table.get query with
  | none => simp
  | some row =>
      have rowKey := key_of_get found
      by_cases here : query = k
      · simp [here, rowKey]
      · simp [here, rowKey]

@[simp] theorem get_update_self (table : Table ρ key) (k : κ) (set : ρ → ρ)
    (keepsKey : ∀ row, key (set row) = key row) :
    (table.update k set keepsKey).get k = (table.get k).map set := by
  simp [get_update]

theorem get_upsert (table : Table ρ key) (row : ρ) (set : ρ → ρ)
    (keepsKey : ∀ row, key (set row) = key row) (k : κ) :
    (table.upsert row set keepsKey).get k =
      if key row = k then some ((table.get k).elim row set) else table.get k := by
  unfold upsert
  split
  next present =>
    rw [get_update]
    by_cases here : key row = k
    · subst here
      obtain ⟨old, found⟩ : ∃ old, table.get (key row) = some old :=
        Option.ne_none_iff_exists'.mp fun absent => get_eq_none_iff.mp absent present
      simp [found]
    · simp [here, Ne.symm here]
  next fresh =>
    rw [get_insertOrIgnore]
    by_cases here : key row = k
    · subst here
      simp [get_eq_none_iff.mpr fresh]
    · simp [here]

theorem get_delete (table : Table ρ key) (k query : κ) :
    (table.delete k).get query = if query = k then none else table.get query := by
  by_cases here : query = k
  · subst here
    simp only [if_pos]
    rw [get_eq_none_iff]
    simp [delete]
  · rw [if_neg here]
    cases found : table.get query with
    | none =>
        rw [get_eq_none_iff] at found ⊢
        simp only [delete, List.mem_map, List.mem_filter] at found ⊢
        rintro ⟨row, ⟨member, -⟩, rowKey⟩
        exact found ⟨row, member, rowKey⟩
    | some row =>
        have rowKey := key_of_get found
        refine get_eq_some_iff.mpr ⟨?_, rowKey⟩
        simp only [delete, List.mem_filter, mem_of_get found, true_and, rowKey]
        simpa using here

end Table

/-! ## Insert if absent -/

section InsertIfAbsent

variable {α : Type u} {κ : Type v} [DecidableEq κ] (key : α → κ)

/-- The items of a sequence of inserts that find their key absent, where
`present` holds the keys from before. -/
def inserted (present : List κ) : List α → List α
  | [] => []
  | item :: items =>
      if key item ∈ present then inserted present items
      else item :: inserted (key item :: present) items

theorem inserted_sublist (present : List κ) (items : List α) :
    (inserted key present items).Sublist items := by
  induction items generalizing present with
  | nil => exact List.Sublist.refl _
  | cons item items ih =>
      unfold inserted
      split
      · exact (ih present).cons item
      · exact (ih (key item :: present)).cons_cons item

theorem key_not_mem_of_mem_inserted {present : List κ} {items : List α} {item : α}
    (member : item ∈ inserted key present items) : key item ∉ present := by
  induction items generalizing present with
  | nil => exact absurd member List.not_mem_nil
  | cons first items ih =>
      unfold inserted at member
      split at member
      next => exact ih member
      next absent =>
        rcases List.mem_cons.mp member with rfl | later
        · exact absent
        · exact fun known => ih later (List.mem_cons_of_mem _ known)

/-- No key is inserted twice. -/
theorem nodup_map_inserted (present : List κ) (items : List α) :
    ((inserted key present items).map key).Nodup := by
  induction items generalizing present with
  | nil => exact List.nodup_nil
  | cons item items ih =>
      unfold inserted
      split
      next => exact ih present
      next absent =>
        refine List.nodup_cons.mpr ⟨?_, ih _⟩
        intro again
        obtain ⟨other, member, same⟩ := List.mem_map.mp again
        exact key_not_mem_of_mem_inserted key member (same ▸ List.mem_cons_self)

/-- Items that all have one key are inserted at most once. -/
theorem length_filter_inserted_le_one {present : List κ} {items : List α} {p : α → Bool}
    {k : κ} (steady : ∀ item ∈ items, p item = true → key item = k) :
    ((inserted key present items).filter p).length ≤ 1 := by
  have nodup : (((inserted key present items).filter p).map key).Nodup :=
    (nodup_map_inserted key present items).sublist (List.filter_sublist.map key)
  have constant : ((inserted key present items).filter p).map key =
      List.replicate ((inserted key present items).filter p).length k := by
    rw [List.eq_replicate_iff]
    refine ⟨List.length_map .., ?_⟩
    intro other member
    obtain ⟨item, kept, rfl⟩ := List.mem_map.mp member
    obtain ⟨wasInserted, accepted⟩ := List.mem_filter.mp kept
    exact steady item ((inserted_sublist key present items).mem wasInserted) accepted
  rw [constant] at nodup
  exact List.nodup_replicate.mp nodup

end InsertIfAbsent

end PresenceLogger.Library
