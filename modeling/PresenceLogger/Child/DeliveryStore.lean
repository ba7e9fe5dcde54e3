import Mathlib.Data.Rat.Defs
import PresenceLogger.Library.Json
import PresenceLogger.Library.Table

/-!
# The child's delivery ledger

`DeliveryStore`: for each destination and event id, how far the delivery of a
record has come.
-/

namespace PresenceLogger.Child

open Library

/-- The dictionary `parse_line` builds for a CSV row. -/
structure Record where
  eventId : String
  mkDate : String
  staNo1 : String
  staNo2 : String
  staNo3 : String
  t1Status : Int
  deviceId : String
  schemaVersion : Int := 1
  deriving DecidableEq, Repr

/-- The values the `status` column of `delivery` admits. -/
inductive DeliveryStatus where
  | pending
  | acked
  | legacyUnverified
  | nacked
  deriving DecidableEq, Repr

/-- A row; `payload` is the record that was stored as JSON, and times are exact
numbers of seconds. -/
structure DeliveryRow where
  destination : String
  eventId : String
  mkDate : String
  payload : Record
  status : DeliveryStatus
  lastAttemptAt : Option ℚ
  ackedAt : Option String
  nackReason : Option String
  nackedAt : Option String
  deriving DecidableEq, Repr

def DeliveryRow.key (row : DeliveryRow) : String × String := (row.destination, row.eventId)

/-- The assignment of `save_pending` on a conflict, and of `touch_pending`. -/
def DeliveryRow.attempted (row : DeliveryRow) (now : ℚ) : DeliveryRow :=
  { row with lastAttemptAt := some now }

/-- The assignments of `mark_acked`. -/
def DeliveryRow.asAcked (row : DeliveryRow) (committedAt : Option String) : DeliveryRow :=
  { row with status := .acked, ackedAt := committedAt }

/-- The assignments of `mark_nacked`. -/
def DeliveryRow.asNacked (row : DeliveryRow) (reason : String) (failedAt : Option String) :
    DeliveryRow :=
  { row with status := .nacked, nackReason := some reason, nackedAt := failedAt }

/-- The `delivery` table. -/
abbrev Ledger := Table DeliveryRow DeliveryRow.key

/-- The row `save_pending` inserts. -/
def Record.toRow (rec : Record) (destination : String) (now : ℚ) : DeliveryRow where
  destination := destination
  eventId := rec.eventId
  mkDate := rec.mkDate
  payload := rec
  status := .pending
  lastAttemptAt := some now
  ackedAt := none
  nackReason := none
  nackedAt := none

namespace Ledger

def savePending (ledger : Ledger) (destination : String) (rec : Record) (now : ℚ) : Ledger :=
  ledger.upsert (rec.toRow destination now) (fun row => row.attempted now) fun _ => rfl

def touchPending (ledger : Ledger) (destination eventId : String) (now : ℚ) : Ledger :=
  ledger.update (destination, eventId) (fun row => row.attempted now) fun _ => rfl

def markAcked (ledger : Ledger) (destination eventId : String) (committedAt : Option String) :
    Ledger :=
  ledger.update (destination, eventId) (fun row => row.asAcked committedAt) fun _ => rfl

def markNacked (ledger : Ledger) (destination eventId reason : String)
    (failedAt : Option String) : Ledger :=
  ledger.updateWhere (fun row => row.key = (destination, eventId) ∧ row.status = .pending)
    (fun row => row.asNacked reason failedAt) fun _ => rfl

theorem get_savePending (ledger : Ledger) (destination : String) (rec : Record) (now : ℚ)
    (key : String × String) :
    (ledger.savePending destination rec now).get key =
      if (destination, rec.eventId) = key then
        some ((ledger.get key).elim (rec.toRow destination now) fun row => row.attempted now)
      else ledger.get key :=
  Table.get_upsert ..

theorem get_touchPending (ledger : Ledger) (destination eventId : String) (now : ℚ)
    (key : String × String) :
    (ledger.touchPending destination eventId now).get key =
      if key = (destination, eventId) then
        (ledger.get key).map fun row => row.attempted now
      else ledger.get key :=
  Table.get_update ..

theorem get_markAcked (ledger : Ledger) (destination eventId : String)
    (committedAt : Option String) (key : String × String) :
    (ledger.markAcked destination eventId committedAt).get key =
      if key = (destination, eventId) then
        (ledger.get key).map fun row => row.asAcked committedAt
      else ledger.get key :=
  Table.get_update ..

theorem get_markNacked (ledger : Ledger) (destination eventId reason : String)
    (failedAt : Option String) (key : String × String) :
    (ledger.markNacked destination eventId reason failedAt).get key =
      if key = (destination, eventId) then
        (ledger.get key).map fun row =>
          if row.status = .pending then row.asNacked reason failedAt else row
      else ledger.get key := by
  have updated : (ledger.markNacked destination eventId reason failedAt).get key =
      (ledger.get key).map fun row =>
        if decide (row.key = (destination, eventId) ∧ row.status = .pending) then
          row.asNacked reason failedAt
        else row :=
    Table.get_updateWhere ..
  rw [updated]
  cases found : ledger.get key with
  | none => simp
  | some row =>
      have rowKey := Table.key_of_get found
      by_cases here : key = (destination, eventId)
      · simp [here, rowKey]
      · simp [here, rowKey]

end Ledger

end PresenceLogger.Child
