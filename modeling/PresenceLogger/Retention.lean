import PresenceLogger.Bridge.Inbox
import PresenceLogger.Bridge.RecordInbox
import PresenceLogger.Detector.Buffer
import PresenceLogger.Library.NullableKey

/-!
# What retention removes

`ring_evict` takes rows from the most disposable status on and within a status from the
oldest one on; `delete_sent` leaves the most recent confirmed rows.  Both find the rows they
remove by their ids, and an id may be `NULL`.
-/

namespace PresenceLogger

open Library

universe u v

variable {ρ : Type u} {κ : Type v} {key : ρ → Option κ}

/-! ## The statements -/

section Statements

variable [DecidableEq κ] {τ : Type*} [DecidableEq τ] (status : ρ → τ) (age : ρ → String)

namespace NullableTable

/-- The ids that one turn of the loop in `ring_evict` fetches. -/
def oldestWithStatus (table : NullableTable ρ key) (wanted : τ) (limit : Nat) :
    List (Option κ) :=
  ((table.select (fun row => decide (status row = wanted))
    fun left right => age left ≤ age right).take limit).map key

/-- The ids that the loop of `ring_evict` deletes and counts. -/
def ringEvictIds : List τ → Nat → NullableTable ρ key → List (Option κ)
  | [], _, _ => []
  | wanted :: rest, toDelete, table =>
      if toDelete = 0 then []
      else
        let ids := oldestWithStatus status age table wanted toDelete
        ids ++ ringEvictIds rest (toDelete - ids.length) (table.deleteAll ids)

/-- `max(0, current - max_rows)` -/
def overflow (table : NullableTable ρ key) (maxRows : Int) : Nat :=
  ((table.rows.length : Int) - maxRows).toNat

/-- `ring_evict` -/
def ringEvict (statuses : List τ) (table : NullableTable ρ key) (maxRows : Nat) :
    NullableTable ρ key × Nat :=
  let ids := ringEvictIds status age statuses (overflow table maxRows) table
  (table.deleteAll ids, ids.length)

/-- `delete_sent` -/
def deleteSent (isSent : ρ → Bool) (recency : ρ → String) (table : NullableTable ρ key)
    (keepNewest : Int) : NullableTable ρ key × List (Option κ) :=
  let ids := ((table.select isSent fun left right => recency right ≤ recency left).drop
    keepNewest.toNat).map key
  (table.deleteAll ids, ids)

end NullableTable

end Statements

open Library.NullableTable (mem_select select_perm eq_of_key select_deleteAll deleteAll_perm
  deleteAll_sublist)

open NullableTable (ringEvict deleteSent overflow)

/-! ## The rows that are deleted -/

section Deleted

variable [DecidableEq κ] {table : NullableTable ρ key} {part rest : List ρ}

omit [DecidableEq κ] in
theorem length_isNone_eq_zero {rows : List ρ} :
    (rows.filter fun row => (key row).isNone).length = 0 ↔ ∀ row ∈ rows, (key row).isSome := by
  rw [List.length_eq_zero_iff, List.filter_eq_nil_iff]
  simp [Option.isSome_iff_ne_none]

/-- Rows with ids are deleted by them. -/
theorem deleteAll_perm_of_named (perm : table.rows.Perm (part ++ rest))
    (named : ∀ row ∈ part, (key row).isSome) :
    (table.deleteAll (part.map key)).rows.Perm rest := by
  have left := deleteAll_perm perm
  rwa [List.length_eq_zero_iff.mp (length_isNone_eq_zero.mpr named), List.nil_append] at left

/-- The rows that are missing afterwards are those. -/
theorem not_mem_deleteAll_iff (perm : table.rows.Perm (part ++ rest))
    (named : ∀ row ∈ part, (key row).isSome) {row : ρ} (member : row ∈ table.rows) :
    row ∉ (table.deleteAll (part.map key)).rows ↔ row ∈ part := by
  rw [(deleteAll_perm_of_named perm named).mem_iff]
  constructor
  · exact (List.mem_append.mp (perm.mem_iff.mp member)).resolve_right
  · intro inPart inRest
    have nodup : ((part ++ rest).filterMap key).Nodup :=
      (perm.filterMap key).nodup_iff.mp table.nodup
    rw [List.filterMap_append, List.nodup_append] at nodup
    obtain ⟨k, isKey⟩ := Option.isSome_iff_exists.mp (named row inPart)
    exact nodup.2.2 k (List.mem_filterMap.mpr ⟨row, inPart, isKey⟩) k
      (List.mem_filterMap.mpr ⟨row, inRest, isKey⟩) rfl

end Deleted

/-! ## Ring eviction -/

section RingEvict

variable {τ : Type*} [DecidableEq τ] {status : ρ → τ} {age : ρ → String}

variable (status age) in
/-- The rows from the most disposable one on: by status, then by age. -/
def evictionOrder (statuses : List τ) (table : NullableTable ρ key) : List ρ :=
  statuses.flatMap fun wanted => table.select (fun row => decide (status row = wanted))
    fun left right => age left ≤ age right

theorem status_of_mem_evictionOrder {statuses : List τ} {table : NullableTable ρ key} {row : ρ}
    (member : row ∈ evictionOrder status age statuses table) : status row ∈ statuses := by
  obtain ⟨wanted, listed, selected⟩ := List.mem_flatMap.mp member
  have isWanted : status row = wanted := by simpa using (mem_select.mp selected).2
  exact isWanted ▸ listed

/-- Each row of these statuses comes once. -/
theorem filter_perm_evictionOrder {statuses : List τ} (distinct : statuses.Nodup)
    (table : NullableTable ρ key) :
    (table.rows.filter fun row => status row ∈ statuses).Perm
      (evictionOrder status age statuses table) := by
  induction statuses with
  | nil => simp [evictionOrder]
  | cons wanted rest ih =>
      obtain ⟨fresh, distinct⟩ := List.nodup_cons.mp distinct
      have parts := List.filter_append_perm (fun row => decide (status row = wanted))
        (table.rows.filter fun row => status row ∈ wanted :: rest)
      have first : (table.rows.filter fun row => status row ∈ wanted :: rest).filter
          (fun row => decide (status row = wanted)) =
            table.rows.filter fun row => decide (status row = wanted) := by
        rw [List.filter_filter]
        refine List.filter_congr fun row _ => ?_
        by_cases isWanted : status row = wanted <;> simp [isWanted]
      have later : (table.rows.filter fun row => status row ∈ wanted :: rest).filter
          (fun row => !decide (status row = wanted)) =
            table.rows.filter fun row => status row ∈ rest := by
        rw [List.filter_filter]
        refine List.filter_congr fun row _ => ?_
        by_cases isWanted : status row = wanted
        · simp [isWanted, fresh]
        · simp [isWanted]
      rw [first, later] at parts
      exact parts.symm.trans ((select_perm ..).symm.append (ih distinct))

theorem perm_evictionOrder {statuses : List τ} (distinct : statuses.Nodup)
    (complete : ∀ value, value ∈ statuses) (table : NullableTable ρ key) :
    table.rows.Perm (evictionOrder status age statuses table) := by
  have all : (table.rows.filter fun row => status row ∈ statuses) = table.rows := by
    simp [complete]
  rw [← all]
  exact filter_perm_evictionOrder distinct table

/-- A row that comes earlier is not less disposable, and not younger than one of its status. -/
theorem pairwise_evictionOrder {statuses : List τ} (distinct : statuses.Nodup)
    (table : NullableTable ρ key) :
    (evictionOrder status age statuses table).Pairwise fun earlier later =>
      statuses.idxOf (status earlier) ≤ statuses.idxOf (status later) ∧
        (status earlier = status later → age earlier ≤ age later) := by
  have total : Std.Total fun left right : ρ => age left ≤ age right :=
    ⟨fun _ _ => String.le_total _ _⟩
  have trans : IsTrans ρ fun left right : ρ => age left ≤ age right :=
    ⟨fun _ _ _ => String.le_trans⟩
  induction statuses with
  | nil => exact .nil
  | cons wanted rest ih =>
      obtain ⟨fresh, distinct⟩ := List.nodup_cons.mp distinct
      have sorted : (table.select (fun row => decide (status row = wanted))
          fun left right => age left ≤ age right).Pairwise fun left right =>
            age left ≤ age right := List.pairwise_insertionSort ..
      have ofWanted {row : ρ} (member : row ∈ table.select
          (fun row => decide (status row = wanted)) fun left right => age left ≤ age right) :
          status row = wanted := by simpa using (mem_select.mp member).2
      have later {row : ρ} (member : row ∈ evictionOrder status age rest table) :
          (wanted :: rest).idxOf (status row) = rest.idxOf (status row) + 1 := by
        have apart : wanted ≠ status row := by
          rintro rfl
          exact fresh (status_of_mem_evictionOrder member)
        exact List.idxOf_cons_ne _ apart
      refine List.pairwise_append.mpr ⟨?_, ?_, ?_⟩
      · refine sorted.imp_of_mem fun leftIn rightIn older => ?_
        rw [ofWanted leftIn, ofWanted rightIn]
        exact ⟨le_rfl, fun _ => older⟩
      · refine (ih distinct).imp_of_mem fun leftIn rightIn ordered => ?_
        rw [later leftIn, later rightIn]
        exact ⟨Nat.succ_le_succ ordered.1, ordered.2⟩
      · intro earlier first last inRest
        rw [ofWanted first, List.idxOf_cons_self]
        refine ⟨Nat.zero_le _, fun same => absurd ?_ fresh⟩
        exact same ▸ status_of_mem_evictionOrder inRest

variable [DecidableEq κ]

/-- The loop fetches the ids of the rows that come first, whatever it has deleted. -/
theorem ringEvictIds_eq {statuses : List τ} (distinct : statuses.Nodup) (limit : Nat)
    (table : NullableTable ρ key) :
    NullableTable.ringEvictIds status age statuses limit table =
      ((evictionOrder status age statuses table).take limit).map key := by
  induction statuses generalizing limit table with
  | nil => simp [NullableTable.ringEvictIds, evictionOrder]
  | cons wanted rest ih =>
      obtain ⟨fresh, distinct⟩ := List.nodup_cons.mp distinct
      rw [NullableTable.ringEvictIds]
      split
      next zero => simp [zero]
      next more =>
        set selected := table.select (fun row => decide (status row = wanted))
          (fun left right => age left ≤ age right) with isSelected
        have ids : NullableTable.oldestWithStatus status age table wanted limit =
            (selected.take limit).map key := rfl
        -- no row of a later status has one of these ids
        have spared : evictionOrder status age rest
            (table.deleteAll ((selected.take limit).map key)) =
              evictionOrder status age rest table := by
          refine List.flatMap_congr fun later isLater => ?_
          refine select_deleteAll (fun row member hasStatus named among => ?_) _
          obtain ⟨k, isKey⟩ := Option.isSome_iff_exists.mp named
          obtain ⟨other, taken, sameKey⟩ := List.mem_map.mp among
          obtain ⟨inTable, isWanted⟩ := mem_select.mp (List.mem_of_mem_take taken)
          have same := eq_of_key member inTable isKey (sameKey.trans isKey)
          rw [decide_eq_true_eq] at hasStatus isWanted
          exact fresh ((isWanted.symm.trans (same ▸ hasStatus)) ▸ isLater)
        have count : limit - (selected.take limit).length = limit - selected.length := by
          rw [List.length_take]
          omega
        have order : evictionOrder status age (wanted :: rest) table =
            selected ++ evictionOrder status age rest table := rfl
        rw [ids]
        dsimp only
        rw [ih distinct, spared, order, List.take_append, List.map_append, List.length_map, count]

/-- What `ring_evict` promises of the table it leaves and of the number it returns. -/
structure RingEvicted (status : ρ → τ) (age : ρ → String) (statuses : List τ) (maxRows : Nat)
    (table : NullableTable ρ key) (left : NullableTable ρ key × Nat) : Prop where
  size : left.1.rows.length = min table.rows.length maxRows
  deleted : left.1.rows.length + left.2 = table.rows.length
  unchanged : left.1.rows.Sublist table.rows
  disposable : ∀ removed ∈ table.rows, removed ∉ left.1.rows → ∀ kept ∈ left.1.rows,
    statuses.idxOf (status removed) ≤ statuses.idxOf (status kept)
  oldest : ∀ removed ∈ table.rows, removed ∉ left.1.rows → ∀ kept ∈ left.1.rows,
    status kept = status removed → age removed ≤ age kept

variable (status age) in
/-- The rows that come first have ids, as many as there are too many. -/
def EvictsNamed (statuses : List τ) (maxRows : Nat) (table : NullableTable ρ key) : Prop :=
  ∀ row ∈ (evictionOrder status age statuses table).take (overflow table maxRows),
    (key row).isSome

/-- The promise is kept exactly if the rows that come first, as many as there are too many,
have ids. -/
theorem ringEvicted_iff {statuses : List τ} (distinct : statuses.Nodup)
    (complete : ∀ value : τ, value ∈ statuses) (table : NullableTable ρ key) (maxRows : Nat) :
    RingEvicted status age statuses maxRows table
        (ringEvict status age statuses table maxRows) ↔
      EvictsNamed status age statuses maxRows table := by
  rw [EvictsNamed]
  set order := evictionOrder status age statuses table with isOrder
  set part := order.take (overflow table maxRows) with isPart
  set rest := order.drop (overflow table maxRows) with isRest
  have perm : table.rows.Perm (part ++ rest) := by
    rw [isPart, isRest, List.take_append_drop]
    exact perm_evictionOrder distinct complete table
  have ids : NullableTable.ringEvictIds status age statuses (overflow table maxRows) table =
      part.map key :=
    ringEvictIds_eq distinct _ _
  have left := deleteAll_perm perm
  have total := perm.length_eq
  have stays := left.length_eq
  rw [List.length_append] at total stays
  have taken : part.length = overflow table maxRows := by
    rw [isPart, List.length_take, Nat.min_eq_left]
    rw [isOrder, ← (perm_evictionOrder distinct complete table).length_eq, overflow]
    omega
  rw [ringEvict, ids]
  constructor
  · intro evicted
    have deleted := evicted.deleted
    simp only [List.length_map] at deleted
    exact length_isNone_eq_zero.mp (by omega)
  · intro named
    have kept := deleteAll_perm_of_named perm named
    have size := kept.length_eq
    have sorted : order.Pairwise fun earlier later =>
        statuses.idxOf (status earlier) ≤ statuses.idxOf (status later) ∧
          (status earlier = status later → age earlier ≤ age later) :=
      pairwise_evictionOrder distinct table
    rw [← List.take_append_drop (overflow table maxRows) order,
      List.pairwise_append] at sorted
    have first {removed : ρ} (member : removed ∈ table.rows)
        (gone : removed ∉ (table.deleteAll (part.map key)).rows) : removed ∈ part :=
      (not_mem_deleteAll_iff perm named member).mp gone
    rw [overflow] at taken
    constructor
    · simp only
      omega
    · simp only [List.length_map]
      omega
    · exact deleteAll_sublist ..
    · intro removed member gone other keeps
      exact (sorted.2.2 _ (first member gone) _ (kept.mem_iff.mp keeps)).1
    · intro removed member gone other keeps same
      exact (sorted.2.2 _ (first member gone) _ (kept.mem_iff.mp keeps)).2 same.symm

end RingEvict

/-! ## Reclaiming confirmed rows -/

section DeleteSent

variable [DecidableEq κ]

/-- What `delete_sent` promises of the table it leaves and of the ids it returns. -/
structure SentDeleted (isSent : ρ → Bool) (recency : ρ → String) (keepNewest : Int)
    (table : NullableTable ρ key) (left : NullableTable ρ key × List (Option κ)) : Prop where
  nodup : left.2.Nodup
  ids : ∀ id, id ∈ left.2 ↔ ∃ row ∈ table.rows, key row = id ∧ row ∉ left.1.rows
  unchanged : left.1.rows.Sublist table.rows
  onlySent : ∀ removed ∈ table.rows, removed ∉ left.1.rows → isSent removed = true
  kept : (left.1.rows.filter isSent).length =
    min keepNewest.toNat (table.rows.filter isSent).length
  newest : ∀ removed ∈ table.rows, removed ∉ left.1.rows → ∀ kept ∈ left.1.rows,
    isSent kept = true → recency removed ≤ recency kept

/-- The confirmed rows after the most recent ones have ids. -/
def DropsNamed (isSent : ρ → Bool) (recency : ρ → String) (keepNewest : Int)
    (table : NullableTable ρ key) : Prop :=
  ∀ row ∈ (table.select isSent fun left right => recency right ≤ recency left).drop
    keepNewest.toNat, (key row).isSome

omit [DecidableEq κ] in
theorem map_key_of_named {rows : List ρ} (named : ∀ row ∈ rows, (key row).isSome) :
    rows.map key = (rows.filterMap key).map some := by
  induction rows with
  | nil => rfl
  | cons row rows ih =>
      obtain ⟨here, later⟩ := List.forall_mem_cons.mp named
      obtain ⟨k, isKey⟩ := Option.isSome_iff_exists.mp here
      rw [List.map_cons, ih later, List.filterMap_cons_some isKey, List.map_cons, isKey]

section Newest

variable (isSent : ρ → Bool) (recency : ρ → String)

/-- The rows that `delete_sent` leaves: the newest confirmed ones and all the others. -/
def spared (keepNewest : Int) (table : NullableTable ρ key) : List ρ :=
  (table.select isSent fun left right => recency right ≤ recency left).take keepNewest.toNat ++
    table.rows.filter fun row => !isSent row

omit [DecidableEq κ] in
theorem perm_append_spared (keepNewest : Int) (table : NullableTable ρ key) :
    table.rows.Perm ((table.select isSent fun left right => recency right ≤ recency left).drop
      keepNewest.toNat ++ spared isSent recency keepNewest table) := by
  set selected := table.select isSent fun left right => recency right ≤ recency left
    with isSelected
  have halves : (selected.drop keepNewest.toNat ++ selected.take keepNewest.toNat).Perm
      (table.rows.filter isSent) := by
    refine List.perm_append_comm.trans ?_
    rw [List.take_append_drop]
    exact select_perm ..
  rw [spared, ← List.append_assoc]
  exact (List.filter_append_perm isSent table.rows).symm.trans (halves.symm.append_right _)

omit [DecidableEq κ] in
theorem filter_spared (keepNewest : Int) (table : NullableTable ρ key) :
    (spared isSent recency keepNewest table).filter isSent =
      (table.select isSent fun left right => recency right ≤ recency left).take
        keepNewest.toNat := by
  have others : ∀ row ∈ table.rows.filter (fun row => !isSent row), ¬isSent row = true := by
    intro row member
    simpa using (List.mem_filter.mp member).2
  have ofSent : ∀ row ∈ (table.select isSent fun left right => recency right ≤ recency left).take
      keepNewest.toNat, isSent row = true :=
    fun row member => (mem_select.mp (List.mem_of_mem_take member)).2
  rw [spared, List.filter_append, List.filter_eq_nil_iff.mpr others, List.append_nil,
    List.filter_eq_self.mpr ofSent]

end Newest

/-- The promise is kept exactly if the confirmed rows after the most recent ones have ids. -/
theorem sentDeleted_iff (isSent : ρ → Bool) (recency : ρ → String) (keepNewest : Int)
    (table : NullableTable ρ key) :
    SentDeleted isSent recency keepNewest table (deleteSent isSent recency table keepNewest) ↔
      DropsNamed isSent recency keepNewest table := by
  have total : Std.Total fun left right : ρ => recency right ≤ recency left :=
    ⟨fun _ _ => String.le_total _ _⟩
  have trans : IsTrans ρ fun left right : ρ => recency right ≤ recency left :=
    ⟨fun _ _ _ first second => String.le_trans second first⟩
  have perm := perm_append_spared isSent recency keepNewest table
  have newest := filter_spared isSent recency keepNewest table
  rw [DropsNamed]
  set selected := table.select isSent (fun left right => recency right ≤ recency left)
    with isSelected
  set part := selected.drop keepNewest.toNat with isPart
  have ofSent {row : ρ} (member : row ∈ part) : isSent row = true :=
    (mem_select.mp (List.mem_of_mem_drop member)).2
  have returned : deleteSent isSent recency table keepNewest =
      (table.deleteAll (part.map key), part.map key) := rfl
  have confirmed : ((spared isSent recency keepNewest table).filter isSent).length =
      min keepNewest.toNat (table.rows.filter isSent).length := by
    rw [newest, List.length_take, isSelected, (select_perm ..).length_eq]
  rw [returned]
  constructor
  · intro deleted
    have unnamedSent : ((part.filter fun row => (key row).isNone).filter isSent) =
        part.filter fun row => (key row).isNone :=
      List.filter_eq_self.mpr fun row member => ofSent (List.mem_filter.mp member).1
    have stays := ((deleteAll_perm perm).filter isSent).length_eq
    rw [List.filter_append, List.length_append, unnamedSent, confirmed] at stays
    have kept := deleted.kept
    simp only at kept
    exact length_isNone_eq_zero.mp (by omega)
  · intro named
    have left := deleteAll_perm_of_named perm named
    have dropped {row : ρ} (member : row ∈ table.rows) :
        row ∉ (table.deleteAll (part.map key)).rows ↔ row ∈ part :=
      not_mem_deleteAll_iff perm named member
    have sorted : selected.Pairwise fun left right => recency right ≤ recency left :=
      List.pairwise_insertionSort ..
    rw [← List.take_append_drop keepNewest.toNat selected, List.pairwise_append] at sorted
    constructor
    · have nodup := (perm.filterMap key).nodup_iff.mp table.nodup
      rw [List.filterMap_append, List.nodup_append] at nodup
      simp only [map_key_of_named named]
      exact nodup.1.map (Option.some_injective κ)
    · intro id
      constructor
      · intro member
        obtain ⟨row, inPart, rfl⟩ := List.mem_map.mp member
        have inTable := perm.mem_iff.mpr (List.mem_append_left _ inPart)
        exact ⟨row, inTable, rfl, (dropped inTable).mpr inPart⟩
      · rintro ⟨row, member, rfl, absent⟩
        exact List.mem_map_of_mem ((dropped member).mp absent)
    · exact deleteAll_sublist ..
    · intro removed member absent
      exact ofSent ((dropped member).mp absent)
    · exact ((left.filter isSent).length_eq).trans confirmed
    · intro removed member absent kept keeps sent
      have inNewest : kept ∈ selected.take keepNewest.toNat := by
        rw [← newest]
        exact List.mem_filter.mpr ⟨left.mem_iff.mp keeps, sent⟩
      exact sorted.2.2 _ inNewest _ ((dropped member).mp absent)

end DeleteSent

/-! ## Rows with their ids -/

section OfTable

variable {σ : Type u} [DecidableEq κ] {ofRow : σ → κ}

theorem delete_ofTable (table : Table σ ofRow) (k : κ) :
    (NullableTable.ofTable table).delete (some k) = NullableTable.ofTable (table.delete k) := by
  simp only [Library.NullableTable.delete, NullableTable.ofTable, Table.delete,
    NullableTable.mk.injEq]
  rw [List.filter_map]
  congr 1
  refine List.filter_congr fun row _ => ?_
  simp [Sql.equal]

theorem deleteAll_ofTable (table : Table σ ofRow) (ids : List κ) :
    (NullableTable.ofTable table).deleteAll (ids.map some) =
      NullableTable.ofTable (deleteAll table ids) := by
  induction ids generalizing table with
  | nil => rfl
  | cons id ids ih =>
      change ((NullableTable.ofTable table).delete (some id)).deleteAll (ids.map some) = _
      rw [delete_ofTable, ih]
      rfl

/-- Where every row has its id, the loop fetches the ids of the table with those rows. -/
theorem ringEvictIds_ofTable {τ : Type*} [DecidableEq τ] (status : σ → τ) (age : σ → String)
    (statuses : List τ) (limit : Nat) (table : Table σ ofRow) :
    NullableTable.ringEvictIds (fun filed : Filed σ => status filed.row)
        (fun filed => age filed.row) statuses limit (NullableTable.ofTable table) =
      (ringEvictIds status age statuses limit table).map some := by
  induction statuses generalizing limit table with
  | nil => rfl
  | cons wanted rest ih =>
      have ids : NullableTable.oldestWithStatus (fun filed : Filed σ => status filed.row)
          (fun filed => age filed.row) (NullableTable.ofTable table) wanted limit =
            (oldestWithStatus table status age wanted limit).map some := by
        have selected := NullableTable.select_ofTable table
          (fun row => decide (status row = wanted)) fun left right => age left ≤ age right
        rw [NullableTable.oldestWithStatus, selected, oldestWithStatus, ← List.map_take,
          List.map_map, List.map_map]
        rfl
      rw [NullableTable.ringEvictIds, ringEvictIds]
      split
      · rfl
      · rw [ids]
        dsimp only
        rw [deleteAll_ofTable, ih, List.length_map, List.map_append]

/-- `ring_evict` of a table without `NULL` ids is what the bridge's runs are made of. -/
theorem ringEvict_ofTable {τ : Type*} [DecidableEq τ] (status : σ → τ) (age : σ → String)
    (statuses : List τ) (table : Table σ ofRow) (maxRows : Nat) :
    ringEvict (fun filed : Filed σ => status filed.row) (fun filed => age filed.row) statuses
        (NullableTable.ofTable table) maxRows =
      (NullableTable.ofTable (deleteAll table
          (ringEvictIds status age statuses (overflowRows table maxRows) table)),
        (ringEvictIds status age statuses (overflowRows table maxRows) table).length) := by
  have rows : overflow (NullableTable.ofTable table) maxRows = overflowRows table maxRows := by
    simp only [overflow, overflowRows, NullableTable.ofTable, List.length_map]
  rw [ringEvict, rows, ringEvictIds_ofTable, deleteAll_ofTable, List.length_map]

/-- So is `delete_sent`. -/
theorem deleteSent_ofTable (isSent : σ → Bool) (recency : σ → String) (keepNewest : Int)
    (table : Table σ ofRow) :
    deleteSent (fun filed : Filed σ => isSent filed.row) (fun filed => recency filed.row)
        (NullableTable.ofTable table) keepNewest =
      (NullableTable.ofTable (deleteAll table (sentToDrop table isSent recency keepNewest)),
        (sentToDrop table isSent recency keepNewest).map some) := by
  have selected := NullableTable.select_ofTable table isSent
    fun left right => recency right ≤ recency left
  have ids : (((table.select isSent fun left right => recency right ≤ recency left).map
      Filed.named).drop keepNewest.toNat).map (Filed.key ofRow) =
        (sentToDrop table isSent recency keepNewest).map some := by
    rw [sentToDrop, ← List.map_drop, List.map_map, List.map_map]
    rfl
  rw [deleteSent, selected, ids, deleteAll_ofTable]

end OfTable

/-! ## The repositories -/

namespace Bridge

/-- The `inbox` table with the rows whose id is `NULL`. -/
abbrev FiledInbox := NullableTable (Filed InboxEvent) (Filed.key InboxEvent.eventId)

/-- The `record_inbox` table with the rows whose id is `NULL`. -/
abbrev FiledRecordInbox :=
  NullableTable (Filed RecordInboxEvent) (Filed.key RecordInboxEvent.eventId)

/-- `COALESCE(sent_at_iso, received_at_iso)` -/
def InboxEvent.recency (row : InboxEvent) : String := row.sentAtIso.getD row.receivedAtIso

/-- `COALESCE(sent_at_iso, received_at_iso)` -/
def RecordInboxEvent.recency (row : RecordInboxEvent) : String :=
  row.sentAtIso.getD row.receivedAtIso

/-- The ids that `ring_evict` deletes. -/
def FiledInbox.ringEvictIds (inbox : FiledInbox) (maxRows : Int) : List (Option String) :=
  NullableTable.ringEvictIds (fun filed => filed.row.status) (fun filed => filed.row.receivedAtIso)
    [.sent, .received] (overflow inbox maxRows) inbox

/-- `InboxRepository.ring_evict` -/
def FiledInbox.ringEvict (inbox : FiledInbox) (maxRows : Nat) : FiledInbox × Nat :=
  NullableTable.ringEvict (fun filed => filed.row.status) (fun filed => filed.row.receivedAtIso)
    [.sent, .received] inbox maxRows

/-- `InboxRepository.delete_sent` -/
def FiledInbox.deleteSent (inbox : FiledInbox) (keepNewest : Int) :
    FiledInbox × List (Option String) :=
  NullableTable.deleteSent (fun filed => filed.row.status = .sent)
    (fun filed => filed.row.recency) inbox keepNewest

/-- `RecordInboxRepository.ring_evict` -/
def FiledRecordInbox.ringEvict (inbox : FiledRecordInbox) (maxRows : Nat) :
    FiledRecordInbox × Nat :=
  NullableTable.ringEvict (fun filed => filed.row.status) (fun filed => filed.row.receivedAtIso)
    [.sent, .failed, .received] inbox maxRows

/-- `RecordInboxRepository.delete_sent` -/
def FiledRecordInbox.deleteSent (inbox : FiledRecordInbox) (keepNewest : Int) :
    FiledRecordInbox × List (Option String) :=
  NullableTable.deleteSent (fun filed => filed.row.status = .sent)
    (fun filed => filed.row.recency) inbox keepNewest

end Bridge

namespace Detector

/-- The `pending_events` table with the rows whose id is `NULL`. -/
abbrev FiledBuffer := NullableTable (Filed PendingEvent) (Filed.key PendingEvent.eventId)

/-- `BufferRepository.ring_evict` -/
def FiledBuffer.ringEvict (buffer : FiledBuffer) (maxRows : Nat) : FiledBuffer × Nat :=
  NullableTable.ringEvict (fun filed => filed.row.status) (fun filed => filed.row.createdAtIso)
    [.acked, .sent, .pending] buffer maxRows

end Detector

open Bridge Detector

section Repositories

variable (inbox : FiledInbox) (records : FiledRecordInbox) (buffer : FiledBuffer) (maxRows : Nat)
  (keepNewest : Int)

/-- What is promised of the three repositories. -/
structure Retains : Prop where
  evictedEvents : RingEvicted (fun filed => filed.row.status)
    (fun filed => filed.row.receivedAtIso) [.sent, .received] maxRows inbox
    (inbox.ringEvict maxRows)
  evictedRecords : RingEvicted (fun filed => filed.row.status)
    (fun filed => filed.row.receivedAtIso) [.sent, .failed, .received] maxRows records
    (records.ringEvict maxRows)
  evictedPending : RingEvicted (fun filed => filed.row.status)
    (fun filed => filed.row.createdAtIso) [.acked, .sent, .pending] maxRows buffer
    (buffer.ringEvict maxRows)
  deletedEvents : SentDeleted (fun filed => filed.row.status = .sent)
    (fun filed => filed.row.recency) keepNewest inbox (inbox.deleteSent keepNewest)
  deletedRecords : SentDeleted (fun filed => filed.row.status = .sent)
    (fun filed => filed.row.recency) keepNewest records (records.deleteSent keepNewest)

/-- No row without an id is among those to remove. -/
structure VictimsNamed : Prop where
  evictedEvents : EvictsNamed (fun filed => filed.row.status)
    (fun filed => filed.row.receivedAtIso) [.sent, .received] maxRows inbox
  evictedRecords : EvictsNamed (fun filed => filed.row.status)
    (fun filed => filed.row.receivedAtIso) [.sent, .failed, .received] maxRows records
  evictedPending : EvictsNamed (fun filed => filed.row.status)
    (fun filed => filed.row.createdAtIso) [.acked, .sent, .pending] maxRows buffer
  deletedEvents : DropsNamed (fun filed => filed.row.status = .sent)
    (fun filed => filed.row.recency) keepNewest inbox
  deletedRecords : DropsNamed (fun filed => filed.row.status = .sent)
    (fun filed => filed.row.recency) keepNewest records

theorem ringEvicted_inbox_iff :
    RingEvicted (fun filed => filed.row.status) (fun filed => filed.row.receivedAtIso)
        [.sent, .received] maxRows inbox (inbox.ringEvict maxRows) ↔
      EvictsNamed (fun filed => filed.row.status) (fun filed => filed.row.receivedAtIso)
        [.sent, .received] maxRows inbox :=
  ringEvicted_iff (by decide) (by rintro ⟨⟩ <;> simp) inbox maxRows

theorem ringEvicted_recordInbox_iff :
    RingEvicted (fun filed => filed.row.status) (fun filed => filed.row.receivedAtIso)
        [.sent, .failed, .received] maxRows records (records.ringEvict maxRows) ↔
      EvictsNamed (fun filed => filed.row.status) (fun filed => filed.row.receivedAtIso)
        [.sent, .failed, .received] maxRows records :=
  ringEvicted_iff (by decide) (by rintro ⟨⟩ <;> simp) records maxRows

theorem ringEvicted_buffer_iff :
    RingEvicted (fun filed => filed.row.status) (fun filed => filed.row.createdAtIso)
        [.acked, .sent, .pending] maxRows buffer (buffer.ringEvict maxRows) ↔
      EvictsNamed (fun filed => filed.row.status) (fun filed => filed.row.createdAtIso)
        [.acked, .sent, .pending] maxRows buffer :=
  ringEvicted_iff (by decide) (by rintro ⟨⟩ <;> simp) buffer maxRows

/-- The repositories keep their promises exactly if no row without an id is among those
to remove. -/
theorem retains_iff :
    Retains inbox records buffer maxRows keepNewest ↔
      VictimsNamed inbox records buffer maxRows keepNewest := by
  constructor
  · intro retains
    exact {
      evictedEvents := (ringEvicted_inbox_iff ..).mp retains.evictedEvents
      evictedRecords := (ringEvicted_recordInbox_iff ..).mp retains.evictedRecords
      evictedPending := (ringEvicted_buffer_iff ..).mp retains.evictedPending
      deletedEvents := (sentDeleted_iff ..).mp retains.deletedEvents
      deletedRecords := (sentDeleted_iff ..).mp retains.deletedRecords }
  · intro victims
    exact {
      evictedEvents := (ringEvicted_inbox_iff ..).mpr victims.evictedEvents
      evictedRecords := (ringEvicted_recordInbox_iff ..).mpr victims.evictedRecords
      evictedPending := (ringEvicted_buffer_iff ..).mpr victims.evictedPending
      deletedEvents := (sentDeleted_iff ..).mpr victims.deletedEvents
      deletedRecords := (sentDeleted_iff ..).mpr victims.deletedRecords }

end Repositories

/-- Where every row has its id, every promise is kept. -/
theorem retains_ofTable (inbox : Inbox) (records : RecordInbox) (buffer : Buffer) (maxRows : Nat)
    (keepNewest : Int) :
    Retains (NullableTable.ofTable inbox) (NullableTable.ofTable records)
      (NullableTable.ofTable buffer) maxRows keepNewest := by
  have named {σ : Type} {ofRow : σ → String} {table : Table σ ofRow} {filed : Filed σ}
      (member : filed ∈ (NullableTable.ofTable table).rows) :
      (Filed.key ofRow filed).isSome := by
    obtain ⟨row, -, rfl⟩ := List.mem_map.mp member
    rfl
  have ordered {σ τ : Type} [DecidableEq τ] {ofRow : σ → String} {table : Table σ ofRow}
      {status : Filed σ → τ} {age : Filed σ → String} {statuses : List τ} {filed : Filed σ}
      (member : filed ∈ evictionOrder status age statuses (NullableTable.ofTable table)) :
      filed ∈ (NullableTable.ofTable table).rows := by
    obtain ⟨wanted, -, selected⟩ := List.mem_flatMap.mp member
    exact (mem_select.mp selected).1
  exact (retains_iff ..).mpr {
    evictedEvents := fun filed member => named (ordered (List.mem_of_mem_take member))
    evictedRecords := fun filed member => named (ordered (List.mem_of_mem_take member))
    evictedPending := fun filed member => named (ordered (List.mem_of_mem_take member))
    deletedEvents := fun filed member => named (mem_select.mp (List.mem_of_mem_drop member)).1
    deletedRecords := fun filed member => named (mem_select.mp (List.mem_of_mem_drop member)).1 }

/-- An event that came with `"event_id": null`. -/
def unnamedInbox : FiledInbox where
  rows := [.unnamed {
    eventId := ""
    eventType := .enter
    mkDate := some "20260101000000"
    monotonicNs := 1
    wallSynced := true
    status := .received
    ssidAtReceive := none
    profileAtSend := none
    mkDateCommitted := none
    receivedAtIso := "2026-01-01T00:00:00+00:00"
    sentAtIso := none
    retryCount := 0
    nextRetryAtIso := none
    lastError := none }]
  nodup := List.nodup_nil

/-- Such a row is counted as deleted and stays. -/
theorem not_retains_unnamed :
    ¬∀ inbox records buffer maxRows keepNewest,
      Retains inbox records buffer maxRows keepNewest := by
  intro retains
  have size := (retains unnamedInbox (NullableTable.ofTable Table.empty)
    (NullableTable.ofTable Table.empty) 0 0).evictedEvents.size
  exact absurd size (by decide)

end PresenceLogger
