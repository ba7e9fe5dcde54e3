import PresenceLogger.Bridge.Payload
import PresenceLogger.Child.CsvLine
import PresenceLogger.EndToEnd.RecordProtocol
import PresenceLogger.Library.Sql

/-!
# One row for each record

The MERGE of a record finds its own row by five columns.  An empty station is
`NULL` in that row, and then the MERGE does not find it.
-/

namespace PresenceLogger.EndToEnd

open Library Bridge Child

/-! ## From the line to the inbox -/

/-- What `send` publishes. -/
def recordJson (rec : Record) : Json :=
  .obj [("event_id", .str rec.eventId), ("mk_date", .str rec.mkDate),
    ("sta_no1", .str rec.staNo1), ("sta_no2", .str rec.staNo2), ("sta_no3", .str rec.staNo3),
    ("t1_status", .int rec.t1Status), ("device_id", .str rec.deviceId),
    ("schema_version", .int rec.schemaVersion)]

/-- The bridge's reading of a published record. -/
def readBack (rec : Record) : ParsedRecord where
  eventId := some rec.eventId
  mkDate := rec.mkDate
  staNo1 := some rec.staNo1
  staNo2 := some rec.staNo2
  staNo3 := some rec.staNo3
  t1Status := rec.t1Status
  deviceId := some (some rec.deviceId)
  schemaVersion := rec.schemaVersion

theorem storable_readBack (rec : Record) :
    (readBack rec).storable = some (parseRecordPayload rec) := rfl

/-- The bridge reads a published record as it was sent. -/
theorem parseRecordPayload_recordJson (render : Json → Option String) {rec : Record}
    (dated : Text.matchesDigits 14 rec.mkDate.toList = true) :
    Bridge.parseRecordPayload render (.value (recordJson rec)) = .ok (readBack rec) := by
  have complete : Bridge.parseRecordPayload render (.value (recordJson rec)) =
      readRecord render (recordJson rec) := rfl
  have date : readMkDate render (recordJson rec) = .ok rec.mkDate := by
    have found : (recordJson rec).subscript "mk_date" = .ok (.str rec.mkDate) := rfl
    have shown : (Json.str rec.mkDate).pyStr render = some rec.mkDate := rfl
    have kept : (some rec.mkDate).filter (fun text => Text.matchesDigits 14 text.toList) =
        some rec.mkDate := by
      rw [Option.filter_some, if_pos dated]
    simp only [readMkDate, found, bind, Except.bind, shown, kept]
  rw [complete, readRecord, date]
  rfl

/-- What `parse_line` accepts has a date the bridge accepts. -/
theorem matchesDigits_of_parseLine {reader : LineReader} {line : List Char} {rec : Record}
    (accepted : reader.parseLine line = some rec) :
    Text.matchesDigits 14 rec.mkDate.toList = true := by
  rw [LineReader.parseLine] at accepted
  split at accepted
  · split at accepted
    · cases accepted
    · split at accepted
      · cases accepted
      next dated =>
        rcases Option.map_eq_some_iff.mp accepted with ⟨t1Status, -, rfl⟩
        simpa [LineReader.record] using dated
  · cases accepted

/-! ## The MERGEs -/

/-- A row of the table, and the record it was inserted for. -/
structure OracleRow where
  mkDate : Option String
  staNo1 : Option String
  staNo2 : Option String
  staNo3 : Option String
  t1Status : Int
  insertedFor : Option RecordPayload
  deriving DecidableEq, Repr

/-- The `USING` row of a record's MERGE, which is the row it inserts. -/
def sourceRow (record : RecordPayload) : OracleRow where
  mkDate := Sql.varchar record.mkDate
  staNo1 := Sql.varchar record.staNo1
  staNo2 := Sql.varchar record.staNo2
  staNo3 := Sql.varchar record.staNo3
  t1Status := record.t1Status
  insertedFor := some record

/-- The `ON` clause of `build_merge_statement` and of the sidecar. -/
def onClause (t s : OracleRow) : Bool :=
  Sql.equal t.mkDate s.mkDate && Sql.equal t.staNo1 s.staNo1 && Sql.equal t.staNo2 s.staNo2 &&
    Sql.equal t.staNo3 s.staNo3 && t.t1Status = s.t1Status

/-- The table after the MERGEs of these records, one after another. -/
def mergeAll (table : List OracleRow) (records : List RecordPayload) : List OracleRow :=
  (records.map sourceRow).foldl (Sql.mergeInto onClause) table

def rowsFor (record : RecordPayload) (table : List OracleRow) : List OracleRow :=
  table.filter fun row => row.insertedFor = some record

/-- Whatever else is merged, and however often the record is, it gets one row. -/
def MergedOnce (record : RecordPayload) : Prop :=
  ∀ table records, rowsFor record table = [] →
    (rowsFor record (mergeAll table records)).length ≤ 1

theorem onClause_sourceRow (record : RecordPayload) :
    onClause (sourceRow record) (sourceRow record) = true ↔
      record.mkDate ≠ "" ∧ record.staNo1 ≠ "" ∧ record.staNo2 ≠ "" ∧ record.staNo3 ≠ "" := by
  simp only [onClause, sourceRow, Sql.equal_self, Bool.and_eq_true, Sql.isSome_varchar,
    decide_true, and_true, and_assoc]

theorem mkDate_storable {parsed : ParsedRecord} {record : RecordPayload}
    (stored : parsed.storable = some record) : record.mkDate = parsed.mkDate := by
  rcases Option.bind_eq_some_iff.mp stored with ⟨eventId, -, stored⟩
  rcases Option.bind_eq_some_iff.mp stored with ⟨staNo1, -, stored⟩
  rcases Option.bind_eq_some_iff.mp stored with ⟨staNo2, -, stored⟩
  rcases Option.bind_eq_some_iff.mp stored with ⟨staNo3, -, stored⟩
  rcases Option.bind_eq_some_iff.mp stored with ⟨deviceId, -, stored⟩
  cases stored
  rfl

/-- A record whose row does not match itself is inserted twice by two MERGEs. -/
theorem onClause_of_mergedOnce {record : RecordPayload} (once : MergedOnce record) :
    onClause (sourceRow record) (sourceRow record) = true := by
  by_contra unmatched
  rw [Bool.not_eq_true] at unmatched
  have twice := once [] [record, record] rfl
  rw [mergeAll, List.map_cons, List.map_cons, List.map_nil, Sql.mergeInto_twice unmatched] at twice
  simp [rowsFor, sourceRow] at twice

/-- A record the bridge accepts gets one row at most exactly if it names all its
stations. -/
theorem mergedOnce_iff {render : Json → Option String} {payload : Decoded}
    {parsed : ParsedRecord} {record : RecordPayload}
    (accepted : Bridge.parseRecordPayload render payload = .ok parsed)
    (stored : parsed.storable = some record) :
    MergedOnce record ↔ record.staNo1 ≠ "" ∧ record.staNo2 ≠ "" ∧ record.staNo3 ≠ "" := by
  have dated : record.mkDate ≠ "" := by
    rw [mkDate_storable stored]
    intro empty
    have matched := matchesDigits_of_parseRecordPayload accepted
    rw [empty] at matched
    exact absurd matched (by decide)
  constructor
  · intro once
    exact ((onClause_sourceRow record).mp (onClause_of_mergedOnce once)).2
  · intro named table records unowned
    have reflexive : onClause (sourceRow record) (sourceRow record) = true :=
      (onClause_sourceRow record).mpr ⟨dated, named⟩
    apply Sql.length_filter_foldl_mergeInto_le_one reflexive
    · intro row member owned
      rcases List.mem_append.mp member with before | merged
      · have counted : row ∈ rowsFor record table := List.mem_filter.mpr ⟨before, owned⟩
        rw [unowned] at counted
        exact absurd counted List.not_mem_nil
      · rcases List.mem_map.mp merged with ⟨other, -, rfl⟩
        rw [decide_eq_true_eq] at owned
        rw [Option.some.inj owned]
    · exact (congrArg List.length unowned).le.trans (Nat.zero_le 1)

/-- The readers of one child, with a digest that keeps the text. -/
def plainReader : LineReader where
  deviceId := "child1"
  sha1 identity := identity

/-- A line that names one station only. -/
theorem not_mergedOnce_oneStation :
    ¬∀ render payload parsed record, Bridge.parseRecordPayload render payload = .ok parsed →
      parsed.storable = some record → MergedOnce record := by
  intro always
  have read : ∃ rec, plainReader.parseLine "20260925120000,100,,,3".toList = some rec ∧
      rec.staNo2 = "" := by decide +kernel
  rcases read with ⟨rec, accepted, empty⟩
  have parsed := parseRecordPayload_recordJson (fun _ => none)
    (matchesDigits_of_parseLine accepted)
  have once := always _ _ _ _ parsed (storable_readBack rec)
  have named := (onClause_sourceRow _).mp (onClause_of_mergedOnce once)
  exact named.2.2.1 empty

/-- The record of a line that names all stations. -/
def namedRecord : Record := plainReader.record "20260925120000" "100" "200" "300" 3

theorem mergedOnce_iff_namedRecord :
    MergedOnce (parseRecordPayload namedRecord) ↔
      (parseRecordPayload namedRecord).staNo1 ≠ "" ∧
        (parseRecordPayload namedRecord).staNo2 ≠ "" ∧
        (parseRecordPayload namedRecord).staNo3 ≠ "" :=
  have parsed := parseRecordPayload_recordJson (fun _ => none)
    (show Text.matchesDigits 14 namedRecord.mkDate.toList = true by decide)
  mergedOnce_iff parsed (storable_readBack namedRecord)

end PresenceLogger.EndToEnd
