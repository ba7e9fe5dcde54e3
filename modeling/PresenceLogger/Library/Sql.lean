import Mathlib.Data.List.Basic

/-!
# Cells, comparisons and MERGE

A cell is a value or `NULL`, and a comparison with `NULL` is not true.  A MERGE
that only inserts keeps out a row that matches one already there; a row that does
not even match itself is inserted again by every MERGE.
-/

namespace PresenceLogger.Library.Sql

universe u

/-- Oracle has no empty strings: `''` is `NULL`. -/
def varchar (text : String) : Option String := if text = "" then none else some text

/-- `left = right` is true. -/
def equal {α : Type u} [DecidableEq α] (left right : Option α) : Bool :=
  left.isSome && left = right

@[simp] theorem equal_self {α : Type u} [DecidableEq α] (cell : Option α) :
    equal cell cell = cell.isSome := by
  simp [equal]

@[simp] theorem isSome_varchar (text : String) : (varchar text).isSome = true ↔ text ≠ "" := by
  rw [varchar]
  split
  next empty => simp [empty]
  next nonempty => simp [nonempty]

theorem equal_varchar_iff {text : String} (present : text ≠ "") (cell : Option String) :
    equal cell (varchar text) = true ↔ cell = some text := by
  rw [equal, varchar, if_neg present, Bool.and_eq_true, decide_eq_true_eq]
  exact ⟨And.right, fun same => ⟨by rw [same]; rfl, same⟩⟩

section Merge

variable {ρ : Type u} (on : ρ → ρ → Bool)

/-- `MERGE ... ON (...) WHEN NOT MATCHED THEN INSERT`; `on` is the target's row and
the source's. -/
def mergeInto (table : List ρ) (row : ρ) : List ρ :=
  if table.any fun target => on target row then table else table ++ [row]

variable {on}

/-- MERGEs add no rows but their own. -/
theorem mem_foldl_mergeInto {table rows : List ρ} {row : ρ}
    (member : row ∈ rows.foldl (mergeInto on) table) : row ∈ table ∨ row ∈ rows := by
  induction rows generalizing table with
  | nil => exact .inl member
  | cons first rows ih =>
      rcases ih member with earlier | later
      · rw [mergeInto] at earlier
        split at earlier
        · exact .inl earlier
        · rcases List.mem_append.mp earlier with before | here
          · exact .inl before
          · rw [List.mem_singleton.mp here]
            exact .inr List.mem_cons_self
      · exact .inr (List.mem_cons_of_mem _ later)

/-- A row that matches itself is inserted once at most. -/
theorem length_filter_foldl_mergeInto_le_one {owned : ρ → Bool} {row : ρ}
    (reflexive : on row row = true) {table rows : List ρ}
    (ownRow : ∀ other ∈ table ++ rows, owned other = true → other = row)
    (start : (table.filter owned).length ≤ 1) :
    ((rows.foldl (mergeInto on) table).filter owned).length ≤ 1 := by
  induction rows generalizing table with
  | nil => exact start
  | cons first rows ih =>
      rw [List.foldl_cons]
      apply ih
      · intro other member
        rcases List.mem_append.mp member with merged | later
        · have known : other ∈ table ∨ other ∈ [first] :=
            @mem_foldl_mergeInto _ on table [first] other merged
          apply ownRow
          rcases known with before | here
          · exact List.mem_append_left _ before
          · rw [List.mem_singleton.mp here]
            exact List.mem_append_right _ List.mem_cons_self
        · exact ownRow other (List.mem_append_right _ (List.mem_cons_of_mem _ later))
      · rw [mergeInto]
        split
        · exact start
        next unmatched =>
          rw [List.filter_append, List.length_append]
          cases mine : owned first with
          | false => simpa [mine] using start
          | true =>
              have isRow := ownRow first
                (List.mem_append_right _ List.mem_cons_self) mine
              -- a row of the same owner would have matched
              have absent : table.filter owned = [] := by
                rw [List.filter_eq_nil_iff]
                intro other member ownedOther
                apply unmatched
                rw [List.any_eq_true]
                refine ⟨other, member, ?_⟩
                rw [ownRow other (List.mem_append_left _ member) ownedOther, isRow]
                exact reflexive
              simp [absent, mine]

/-- A row that does not match itself is inserted again. -/
theorem mergeInto_twice {row : ρ} (irreflexive : on row row = false) :
    [row, row].foldl (mergeInto on) [] = [row, row] := by
  simp [mergeInto, irreflexive]

end Merge

end PresenceLogger.Library.Sql
