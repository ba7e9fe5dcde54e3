import Mathlib.Data.List.Induction
import PresenceLogger.Library.Dict
import PresenceLogger.Monitor.InboxReader
import PresenceLogger.Monitor.OracleReader

/-!
# The check mark of a sent record

The worker of the dashboard asks Oracle for each row that has been sent, one row a tick, and keeps
what it has found until the operator asks again.  The mark says whether there is a row with the
date and the stations, whatever its status is.
-/

namespace PresenceLogger.Monitor

open Library Library.Text Bridge

/-! ## The worker -/

/-- The rows that a tick tries to verify at most. -/
def verifyBatch : Nat := 1

/-- What a tick of `worker` meets; `verify` is `none` where `_verify_row` raises. -/
structure Tick where
  inboxView : Option InboxView
  ssid : String
  oracleNow : Bool
  verify : InboxRow → Option OracleResult

/-- The marks by event id. -/
abbrev Verified := Dict String Bool

/-- The marks as the tick begins; the operator may have had them erased. -/
def Tick.kept (tick : Tick) (verified : Verified) : Verified :=
  if tick.oracleNow then Table.empty else verified

/-- The sent rows without a mark. -/
def pending (verified : Verified) (rows : List InboxRow) : List InboxRow :=
  rows.filter fun row => row.status = "sent" && (Dict.find verified row.eventId).isNone

/-- The rows that the tick asks for. -/
def Tick.asked (tick : Tick) (expectedSsid : String) (verified : Verified) : List InboxRow :=
  match tick.inboxView with
  | none => []
  | some view =>
      if tick.ssid = expectedSsid then
        (pending (tick.kept verified) view.rows).take verifyBatch
      else []

/-- `bool(result.ok and result.rows)` -/
def OracleResult.found (result : OracleResult) : Bool := result.ok && result.rows ≠ []

/-- The mark of a row, unless its query has raised. -/
def Tick.mark (tick : Tick) (verified : Verified) (row : InboxRow) : Verified :=
  match tick.verify row with
  | none => verified
  | some result => Dict.set verified row.eventId result.found

/-- A turn of `worker`. -/
def workerTick (expectedSsid : String) (verified : Verified) (tick : Tick) : Verified :=
  (tick.asked expectedSsid verified).foldl tick.mark (tick.kept verified)

/-- `row.mk_date_committed or row.mk_date` -/
def InboxRow.writtenDate (row : InboxRow) : String :=
  match row.mkDateCommitted with
  | none => row.mkDate
  | some committed => if committed = "" then row.mkDate else committed

/-- The query of `_verify_row`. -/
def rowQuery (base : OracleQuery) (row : InboxRow) : OracleQuery :=
  { base with
    staNo1 := row.staNo1
    staNo2 := row.staNo2
    staNo3 := row.staNo3
    mkDateFrom := row.writtenDate
    mkDateTo := row.writtenDate
    limit := 1 }

/-! ## Marks over a run -/

section Run

variable {expectedSsid : String} {verified : Verified} {tick : Tick}

/-- A tick asks for one row at most. -/
theorem asked_cases (expectedSsid : String) (verified : Verified) (tick : Tick) :
    tick.asked expectedSsid verified = [] ∨
      ∃ row, tick.asked expectedSsid verified = [row] ∧ row.status = "sent" ∧
        Dict.find (tick.kept verified) row.eventId = none := by
  have most : (tick.asked expectedSsid verified).length ≤ 1 := by
    rw [Tick.asked]
    split
    · exact Nat.zero_le _
    · split_ifs
      · exact List.length_take_le _ _
      · exact Nat.zero_le _
  have isPending : ∀ row ∈ tick.asked expectedSsid verified, row.status = "sent" ∧
      Dict.find (tick.kept verified) row.eventId = none := by
    intro row among
    rw [Tick.asked] at among
    split at among
    · cases among
    · split_ifs at among
      · simpa using (List.mem_filter.mp (List.mem_of_mem_take among)).2
      · cases among
  cases isAsked : tick.asked expectedSsid verified with
  | nil => exact .inl rfl
  | cons row rest =>
      have alone : rest = [] := by
        rw [isAsked, List.length_cons] at most
        exact List.eq_nil_of_length_eq_zero (Nat.le_zero.mp (Nat.le_of_succ_le_succ most))
      rw [alone]
      exact .inr ⟨row, rfl, isPending row (by simp [isAsked])⟩

/-- A mark is kept, or the tick has asked for the row. -/
theorem find_workerTick {eventId : String} {mark : Bool}
    (found : Dict.find (workerTick expectedSsid verified tick) eventId = some mark) :
    Dict.find verified eventId = some mark ∨
      ∃ row ∈ tick.asked expectedSsid verified, row.eventId = eventId ∧
        (tick.verify row).map OracleResult.found = some mark := by
  have kept (found : Dict.find (tick.kept verified) eventId = some mark) :
      Dict.find verified eventId = some mark := by
    rw [Tick.kept] at found
    split_ifs at found
    · cases found
    · exact found
  rw [workerTick] at found
  rcases asked_cases expectedSsid verified tick with nothing | ⟨row, one, -, -⟩
  · rw [nothing] at found
    exact .inl (kept found)
  · rw [one, List.foldl_cons, List.foldl_nil, Tick.mark] at found
    cases outcome : tick.verify row with
    | none =>
        rw [outcome] at found
        exact .inl (kept found)
    | some result =>
        rw [outcome] at found
        dsimp only at found
        rw [Dict.find_set] at found
        split_ifs at found with same
        · exact .inr ⟨row, by simp [one], same, by rw [outcome]; exact found⟩
        · exact .inl (kept found)

/-- The marks after these ticks. -/
def workerRun (expectedSsid : String) (ticks : List Tick) : Verified :=
  ticks.foldl (workerTick expectedSsid) Table.empty

/-- Every mark is what one of the ticks has found for a row of this event. -/
theorem mark_of_workerRun {ticks : List Tick} {eventId : String} {mark : Bool}
    (found : Dict.find (workerRun expectedSsid ticks) eventId = some mark) :
    ∃ before tick after, ticks = before ++ tick :: after ∧
      ∃ row ∈ tick.asked expectedSsid (workerRun expectedSsid before), row.eventId = eventId ∧
        (tick.verify row).map OracleResult.found = some mark := by
  induction ticks using List.reverseRecOn with
  | nil => cases found
  | append_singleton ticks tick ih =>
      rw [workerRun, List.foldl_append] at found
      rcases find_workerTick found with earlier | asked
      · obtain ⟨before, other, after, split, asked⟩ := ih earlier
        exact ⟨before, other, after ++ [tick], by rw [split]; simp, asked⟩
      · exact ⟨ticks, tick, [], rfl, asked⟩

end Run

/-! ## What a mark says -/

section Mark

variable (isLetterOrDigit : Char → Bool) (malformed : List UInt8 → List Char)

/-- A row of the table with the date and the stations of the record; an empty text is `NULL`. -/
def sameColumns (rec : RecordInboxEvent) (stored : StoredRow) : Bool :=
  stored.mkDate = Sql.varchar rec.mkDate && stored.staNo1 = Sql.varchar rec.staNo1 &&
    stored.staNo2 = Sql.varchar rec.staNo2 && stored.staNo3 = Sql.varchar rec.staNo3

/-- A row of the table with the status of the record, too. -/
def sameRow (rec : RecordInboxEvent) (stored : StoredRow) : Bool :=
  sameColumns rec stored && stored.t1Status.map Int32.toInt = some rec.t1Status

/-- The row of a record as `mark_sent` leaves it. -/
def sentRow (rec : RecordInboxEvent) (sentAtIso : String) : InboxRow :=
  inboxRow (rec.asSent rec.mkDate sentAtIso)

/-- The form for the record is answered, and its texts can be read in the answer. -/
def Answerable (base : OracleQuery) (rec : RecordInboxEvent) : Prop :=
  isSafeTableName isLetterOrDigit base.table = true ∧ rec.mkDate ≠ "" ∧ rec.staNo1 ≠ "" ∧
    rec.staNo2 ≠ "" ∧ rec.staNo3 ≠ "" ∧ Legible rec.mkDate rec.staNo1 rec.staNo2 rec.staNo3

instance (base : OracleQuery) (rec : RecordInboxEvent) :
    Decidable (Answerable isLetterOrDigit base rec) :=
  inferInstanceAs (Decidable (_ ∧ _))

/-- `_verify_row`, where the query reaches the table. -/
def verifyRow (table : List StoredRow) (base : OracleQuery) (password : String)
    (row : InboxRow) : OracleResult :=
  verifyExact isLetterOrDigit malformed table (rowQuery base row) password

variable {isLetterOrDigit malformed}

/-- The query of a sent row asks for its own columns. -/
theorem rowQuery_sentRow (base : OracleQuery) (rec : RecordInboxEvent) (sentAtIso : String) :
    rowQuery base (sentRow rec sentAtIso) = { base with
      staNo1 := rec.staNo1
      staNo2 := rec.staNo2
      staNo3 := rec.staNo3
      mkDateFrom := rec.mkDate
      mkDateTo := rec.mkDate
      limit := 1 } := by
  have date : (sentRow rec sentAtIso).writtenDate = rec.mkDate := by
    change (if rec.mkDate = "" then rec.mkDate else rec.mkDate) = rec.mkDate
    exact ite_id _
  rw [rowQuery, date]
  rfl

theorem sameColumns_iff {rec : RecordInboxEvent} {stored : StoredRow} (mkDate : rec.mkDate ≠ "")
    (staNo1 : rec.staNo1 ≠ "") (staNo2 : rec.staNo2 ≠ "") (staNo3 : rec.staNo3 ≠ "") :
    sameColumns rec stored = true ↔
      stored.Has rec.mkDate rec.staNo1 rec.staNo2 rec.staNo3 := by
  simp only [sameColumns, Sql.varchar, if_neg mkDate, if_neg staNo1, if_neg staNo2, if_neg staNo3,
    Bool.and_eq_true, decide_eq_true_eq]
  constructor
  · rintro ⟨⟨⟨date, first⟩, second⟩, third⟩
    exact ⟨date, first, second, third⟩
  · intro has
    exact ⟨⟨⟨has.mkDate, has.staNo1⟩, has.staNo2⟩, has.staNo3⟩

/-- What is found is a row with the date and the stations. -/
theorem found_verifyRow {rec : RecordInboxEvent} (written : ¬"2099".toList <+: rec.mkDate.toList)
    (sentAtIso : String) (table : List StoredRow) (base : OracleQuery) (password : String) :
    (verifyRow isLetterOrDigit malformed table base password (sentRow rec sentAtIso)).found = true ↔
      Answerable isLetterOrDigit base rec ∧ table.any (sameColumns rec) = true := by
  rw [OracleResult.found, Bool.and_eq_true, decide_eq_true_eq, verifyRow, rowQuery_sentRow,
    List.any_eq_true]
  refine (verifyExact_found_iff rfl written table password).trans ?_
  dsimp only
  constructor
  · rintro ⟨answered, legible, stored, inTable, has⟩
    refine ⟨⟨answered.table, answered.mkDateTo, answered.staNo1, answered.staNo2, answered.staNo3,
      legible⟩, stored, inTable, ?_⟩
    exact
      (sameColumns_iff answered.mkDateTo answered.staNo1 answered.staNo2 answered.staNo3).mpr has
  · rintro ⟨⟨table, mkDate, staNo1, staNo2, staNo3, legible⟩, stored, inTable, same⟩
    exact ⟨⟨table, staNo1, staNo2, staNo3, mkDate, mkDate⟩, legible, stored, inTable,
      (sameColumns_iff mkDate staNo1 staNo2 staNo3).mp same⟩

theorem any_sameColumns_of_any_sameRow {rec : RecordInboxEvent} {table : List StoredRow}
    (found : table.any (sameRow rec) = true) : table.any (sameColumns rec) = true := by
  obtain ⟨stored, inTable, same⟩ := List.any_eq_true.mp found
  exact List.any_eq_true.mpr ⟨stored, inTable, (Bool.and_eq_true_iff.mp same).1⟩

/-- A row that is asked for gets its mark. -/
theorem find_workerTick_of_asked {expectedSsid : String} {verified : Verified} {tick : Tick}
    {row : InboxRow} (asked : row ∈ tick.asked expectedSsid verified) {result : OracleResult}
    (completes : tick.verify row = some result) :
    Dict.find (workerTick expectedSsid verified tick) row.eventId = some result.found := by
  rcases asked_cases expectedSsid verified tick with nothing | ⟨other, one, -, -⟩
  · rw [nothing] at asked
    cases asked
  · rw [one] at asked
    rw [workerTick, one, ← List.mem_singleton.mp asked, List.foldl_cons, List.foldl_nil, Tick.mark,
      completes]
    dsimp only
    rw [Dict.find_set, if_pos rfl]

/-- The mark of a sent row is right exactly if a row with its date and stations comes with one of
its status, or its query is not answerable and there is none. -/
theorem workerTick_truthful_iff {rec : RecordInboxEvent} {sentAtIso : String}
    {table : List StoredRow} {base : OracleQuery} {password expectedSsid : String}
    {verified : Verified} {tick : Tick} (written : ¬"2099".toList <+: rec.mkDate.toList)
    (asked : sentRow rec sentAtIso ∈ tick.asked expectedSsid verified)
    (completes : tick.verify (sentRow rec sentAtIso) =
      some (verifyRow isLetterOrDigit malformed table base password (sentRow rec sentAtIso))) :
    Dict.find (workerTick expectedSsid verified tick) rec.eventId =
        some (table.any (sameRow rec)) ↔
      Answerable isLetterOrDigit base rec ∧
          (table.any (sameColumns rec) = true → table.any (sameRow rec) = true) ∨
        ¬Answerable isLetterOrDigit base rec ∧ table.any (sameRow rec) = false := by
  have mark := find_workerTick_of_asked asked completes
  have found := @found_verifyRow isLetterOrDigit malformed rec written sentAtIso table base password
  have weaker := @any_sameColumns_of_any_sameRow rec table
  rw [show rec.eventId = (sentRow rec sentAtIso).eventId from rfl, mark, Option.some.injEq,
    Bool.eq_iff_iff, found]
  by_cases answerable : Answerable isLetterOrDigit base rec
  · simp only [answerable, true_and, not_true_eq_false, false_and, or_false]
    exact ⟨Iff.mp, fun sameStatus => ⟨sameStatus, weaker⟩⟩
  · simp only [answerable, false_and, not_false_eq_true, true_and, false_or, false_iff,
      Bool.not_eq_true]

end Mark

namespace Site

def oracleQuery : OracleQuery where
  host := "10.1.2.3"
  port := "1521"
  service := "HHC001"
  user := "ZHH001"
  table := "HF1RCM01"

/-- The row of the table that a record with the status 3 has. -/
def storedRow : StoredRow where
  mkDate := some "20260925120000"
  staNo1 := some "100"
  staNo2 := some "200"
  staNo3 := some "300"
  t1Status := some 3
  upcmpflg := some 1

/-- A record with this status, and the same columns otherwise. -/
def recordWith (t1Status : Int) : RecordInboxEvent :=
  { receivedRow "100" with t1Status := t1Status }

/-- A tick that asks for the record in a table with one row. -/
def tick (rec : RecordInboxEvent) : Tick where
  inboxView := some { rows := [sentRow rec "2026-09-25T03:00:05+00:00"] }
  ssid := "factory"
  oracleNow := false
  verify := fun row =>
    some (verifyRow Char.isAlphanum (fun _ => []) [storedRow] oracleQuery "secret" row)

end Site

theorem workerTick_truthful_iff_sent :
    Dict.find (workerTick "factory" Table.empty (Site.tick (Site.recordWith 3))) "9a160dca1e" =
      some true := by
  have written : ¬"2099".toList <+: (Site.recordWith 3).mkDate.toList := by decide +kernel
  have asked : sentRow (Site.recordWith 3) "2026-09-25T03:00:05+00:00" ∈
      (Site.tick (Site.recordWith 3)).asked "factory" Table.empty := by
    decide +kernel
  have answerable : Answerable Char.isAlphanum Site.oracleQuery (Site.recordWith 3) := by
    decide +kernel
  have same : [Site.storedRow].any (sameRow (Site.recordWith 3)) = true := by decide +kernel
  exact (workerTick_truthful_iff written asked rfl).mpr (.inl ⟨answerable, fun _ => same⟩)

/-- A row with another status is taken for the record. -/
theorem workerTick_untruthful_status :
    Dict.find (workerTick "factory" Table.empty (Site.tick (Site.recordWith 1))) "9a160dca1e" =
        some true ∧
      [Site.storedRow].any (sameRow (Site.recordWith 1)) = false := by
  decide +kernel

end PresenceLogger.Monitor
