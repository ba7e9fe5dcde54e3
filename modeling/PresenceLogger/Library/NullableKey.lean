import PresenceLogger.Library.Table
import PresenceLogger.Library.Sql

/-!
# Tables whose key may be `NULL`

A primary key that is not declared `NOT NULL` keeps the keys apart, but it admits any number
of rows whose key is `NULL`, and a statement that looks for a key never finds them.
-/

namespace PresenceLogger.Library

universe u v

/-- Rows in the order in which a statement visits them; the keys that are there differ. -/
structure NullableTable (ρ : Type u) {κ : Type v} (key : ρ → Option κ) where
  rows : List ρ
  nodup : (rows.filterMap key).Nodup

/-- A row with its key, or one whose key is `NULL`. -/
inductive Filed (ρ : Type u) where
  | named (row : ρ)
  | unnamed (row : ρ)
  deriving DecidableEq, Repr

namespace Filed

variable {ρ : Type u} {κ : Type v}

def row : Filed ρ → ρ
  | .named row | .unnamed row => row

def key (key : ρ → κ) : Filed ρ → Option κ
  | .named row => some (key row)
  | .unnamed _ => none

/-- The same for another row. -/
def like {α : Type u} : Filed ρ → α → Filed α
  | .named _, item => .named item
  | .unnamed _, item => .unnamed item

@[simp] theorem row_named (row : ρ) : (named row).row = row := rfl

@[simp] theorem row_like {α : Type u} (filed : Filed ρ) (item : α) :
    (filed.like item).row = item := by
  cases filed <;> rfl

@[simp] theorem key_named (key : ρ → κ) (row : ρ) : (named row).key key = some (key row) := rfl

end Filed

namespace NullableTable

variable {ρ : Type u} {κ : Type v} {key : ρ → Option κ}

/-- `SELECT * WHERE guard ORDER BY ...` -/
def select (table : NullableTable ρ key) (guard : ρ → Bool) (before : ρ → ρ → Prop)
    [DecidableRel before] : List ρ :=
  (table.rows.filter guard).insertionSort before

@[simp] theorem mem_select {table : NullableTable ρ key} {guard : ρ → Bool}
    {before : ρ → ρ → Prop} [DecidableRel before] {row : ρ} :
    row ∈ table.select guard before ↔ row ∈ table.rows ∧ guard row = true := by
  simp [select]

theorem select_perm (table : NullableTable ρ key) (guard : ρ → Bool) (before : ρ → ρ → Prop)
    [DecidableRel before] : (table.select guard before).Perm (table.rows.filter guard) :=
  List.perm_insertionSort ..

/-- Only one row has a key. -/
theorem eq_of_key {table : NullableTable ρ key} {row other : ρ} {k : κ}
    (member : row ∈ table.rows) (otherMember : other ∈ table.rows) (isKey : key row = some k)
    (same : key other = some k) : row = other := by
  have nodup := table.nodup
  obtain ⟨before, after, split⟩ := List.append_of_mem member
  rw [split] at otherMember nodup
  simp only [List.filterMap_append, List.filterMap_cons_some isKey, List.nodup_append,
    List.nodup_cons, List.mem_cons] at nodup
  obtain ⟨-, ⟨later, -⟩, earlier⟩ := nodup
  rcases List.mem_append.mp otherMember with first | rest
  · exact absurd rfl (earlier k (List.mem_filterMap.mpr ⟨other, first, same⟩) k (.inl rfl))
  · rcases List.mem_cons.mp rest with rfl | last
    · rfl
    · exact absurd (List.mem_filterMap.mpr ⟨other, last, same⟩) later

variable [DecidableEq κ]

/-- `DELETE WHERE key = ?` -/
def delete (table : NullableTable ρ key) (k : Option κ) : NullableTable ρ key where
  rows := table.rows.filter fun row => !Sql.equal (key row) k
  nodup := table.nodup.sublist (List.filter_sublist.filterMap key)

/-- `executemany("DELETE WHERE key = ?", keys)` -/
def deleteAll (table : NullableTable ρ key) (keys : List (Option κ)) : NullableTable ρ key :=
  keys.foldl delete table

theorem rows_deleteAll (table : NullableTable ρ key) (keys : List (Option κ)) :
    (table.deleteAll keys).rows =
      table.rows.filter fun row => !((key row).isSome && decide (key row ∈ keys)) := by
  induction keys generalizing table with
  | nil => simp [deleteAll]
  | cons k keys ih =>
      change ((table.delete k).deleteAll keys).rows = _
      rw [ih, delete, List.filter_filter]
      congr 1
      funext row
      cases key row with
      | none => simp [Sql.equal]
      | some found => simp [Sql.equal, Bool.and_comm]

theorem deleteAll_sublist (table : NullableTable ρ key) (keys : List (Option κ)) :
    (table.deleteAll keys).rows.Sublist table.rows := by
  rw [rows_deleteAll]
  exact List.filter_sublist

/-- Deleting a part of the rows by their keys leaves the rest, and what of the part has
no key. -/
theorem deleteAll_perm {table : NullableTable ρ key} {part rest : List ρ}
    (perm : table.rows.Perm (part ++ rest)) :
    (table.deleteAll (part.map key)).rows.Perm
      ((part.filter fun row => (key row).isNone) ++ rest) := by
  have nodup := (perm.filterMap key).nodup_iff.mp table.nodup
  rw [List.filterMap_append] at nodup
  rw [rows_deleteAll]
  refine (perm.filter _).trans (List.Perm.of_eq ?_)
  rw [List.filter_append]
  congr 1
  · refine List.filter_congr fun row member => ?_
    have among : key row ∈ part.map key := List.mem_map_of_mem member
    simp [among, Option.not_isSome]
  · refine List.filter_eq_self.mpr fun row member => ?_
    cases isKey : key row with
    | none => simp
    | some k =>
        have apart : some k ∉ part.map key := by
          intro among
          obtain ⟨other, inPart, same⟩ := List.mem_map.mp among
          exact (List.nodup_append.mp nodup).2.2 k (List.mem_filterMap.mpr ⟨other, inPart, same⟩)
            k (List.mem_filterMap.mpr ⟨row, member, isKey⟩) rfl
        simpa using apart

/-- Rows whose keys are not among those that are deleted are selected as before. -/
theorem select_deleteAll {table : NullableTable ρ key} {keys : List (Option κ)}
    {guard : ρ → Bool} (spared : ∀ row ∈ table.rows, guard row = true → (key row).isSome →
      key row ∉ keys) (before : ρ → ρ → Prop) [DecidableRel before] :
    (table.deleteAll keys).select guard before = table.select guard before := by
  rw [select, select, rows_deleteAll, List.filter_filter]
  congr 1
  refine List.filter_congr fun row member => ?_
  cases guarded : guard row with
  | false => simp
  | true =>
      cases named : (key row).isSome with
      | false => simp
      | true => simpa using spared row member guarded named

/-! ## Tables without `NULL` keys -/

/-- A table in which every row has its key. -/
def ofTable {key : ρ → κ} (table : Table ρ key) : NullableTable (Filed ρ) (Filed.key key) where
  rows := table.rows.map .named
  nodup := by
    have keys : ((table.rows.map Filed.named).filterMap (Filed.key key)) =
        table.rows.map key := by
      rw [List.filterMap_map]
      exact congrFun List.filterMap_eq_map' table.rows
    rw [keys]
    exact table.nodup

omit [DecidableEq κ] in
theorem select_ofTable {key : ρ → κ} (table : Table ρ key) (guard : ρ → Bool)
    (before : ρ → ρ → Prop) [DecidableRel before] :
    (ofTable table).select (fun filed => guard filed.row)
        (fun left right => before left.row right.row) =
      (table.select guard before).map .named := by
  rw [select, ofTable, Table.select, List.filter_map]
  exact (List.map_insertionSort before (fun left right : Filed ρ => before left.row right.row)
    Filed.named _ fun _ _ _ _ => Iff.rfl).symm

end NullableTable

end PresenceLogger.Library
