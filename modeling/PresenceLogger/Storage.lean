import PresenceLogger.Library.Table

/-!
# Retention of buffered rows

The statements the three SQLite repositories share: the oldest confirmed rows
are dropped, and a table over its limit is cut down status by status.
-/

namespace PresenceLogger

open Library

/-- The values the `event_type` columns admit. -/
inductive EventType where
  | enter
  | exit
  deriving DecidableEq, Repr

universe u v

variable {ρ : Type u} {κ : Type v} [DecidableEq κ] {key : ρ → κ}

/-- `executemany("DELETE ... WHERE event_id=?", ids)` -/
def deleteAll (table : Table ρ key) (ids : List κ) : Table ρ key :=
  ids.foldl Table.delete table

/-- The ids `delete_sent` drops: every row `isSent` accepts but the `keepNewest`
most recent ones. -/
def sentToDrop (table : Table ρ key) (isSent : ρ → Bool) (recency : ρ → String)
    (keepNewest : Int) : List κ :=
  ((table.select isSent fun left right => recency right ≤ recency left).drop
    keepNewest.toNat).map key

/-- The ids one turn of the loop in `ring_evict` deletes. -/
def oldestWithStatus {τ : Type*} [DecidableEq τ] (table : Table ρ key) (status : ρ → τ)
    (age : ρ → String) (wanted : τ) (limit : Nat) : List κ :=
  ((table.select (fun row => decide (status row = wanted))
    fun left right => age left ≤ age right).take limit).map key

/-- The ids the loop of `ring_evict` deletes, going through the statuses from
the most disposable one while `toDelete` rows are left to delete. -/
def ringEvictIds {τ : Type*} [DecidableEq τ] (status : ρ → τ) (age : ρ → String) :
    List τ → Nat → Table ρ key → List κ
  | [], _, _ => []
  | wanted :: rest, toDelete, table =>
      if toDelete = 0 then []
      else
        let ids := oldestWithStatus table status age wanted toDelete
        ids ++ ringEvictIds status age rest (toDelete - ids.length) (deleteAll table ids)

/-- `max(0, current - max_rows)` -/
def overflowRows (table : Table ρ key) (maxRows : Int) : Nat :=
  ((table.rows.length : Int) - maxRows).toNat

end PresenceLogger
