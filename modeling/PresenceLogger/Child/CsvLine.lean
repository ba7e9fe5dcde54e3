import PresenceLogger.Child.DeliveryStore
import PresenceLogger.Library.Text

/-!
# Lines of a send log

`parse_line` makes a record of a line, and `_csv_line_to_record` of the web
server does the same for a device id of its own.  The id of the record is a digest
of the device id and the five values.
-/

namespace PresenceLogger.Child

open Library

/-- Both readers of a line, by the device id they put into the record; `sha1` is the
hexadecimal digest of a text. -/
structure LineReader where
  deviceId : String
  sha1 : String → String

namespace LineReader

variable (reader : LineReader)

/-- The text whose digest is the event id. -/
def identity (mkDate staNo1 staNo2 staNo3 : String) (t1Status : Int) : String :=
  reader.deviceId ++ "|" ++ mkDate ++ "," ++ staNo1 ++ "," ++ staNo2 ++ "," ++ staNo3 ++ "," ++
    toString t1Status

def record (mkDate staNo1 staNo2 staNo3 : String) (t1Status : Int) : Record where
  eventId := reader.sha1 (reader.identity mkDate staNo1 staNo2 staNo3 t1Status)
  mkDate := mkDate
  staNo1 := staNo1
  staNo2 := staNo2
  staNo3 := staNo3
  t1Status := t1Status
  deviceId := reader.deviceId

/-- `[p.strip() for p in line.strip().split(",")]` -/
def parts (line : List Char) : List (List Char) :=
  ((Text.strip line).splitOn ',').map Text.strip

/-- `parse_line` -/
def parseLine (line : List Char) : Option Record :=
  match parts line with
  | [mkDate, staNo1, staNo2, staNo3, t1Status] =>
      if mkDate = [] then none
      else if Text.matchesDigits 14 mkDate = false then none
      else
        (Text.parseInt t1Status).map fun t1Status =>
          reader.record (.ofList mkDate) (.ofList staNo1) (.ofList staNo2) (.ofList staNo3)
            t1Status
  | _ => none

/-- A line may be stripped before it is read. -/
theorem parseLine_strip (line : List Char) :
    reader.parseLine (Text.strip line) = reader.parseLine line := by
  have same : Text.strip (Text.strip line) = Text.strip line := Text.stripBy_stripBy line
  rw [parseLine, parseLine, parts, parts, same]

end LineReader

/-- `_csv_line_to_record` -/
def csvLineToRecord (sha1 : String → String) (line : List Char) (deviceId : String) :
    Option Record :=
  match ((Text.strip line).splitOn ',').map Text.strip with
  | [mkDate, sta1, sta2, sta3, t1] =>
      if mkDate = [] then none
      else if Text.matchesDigits 14 mkDate = false then none
      else
        (Text.parseInt t1).map fun t1Status =>
          { eventId :=
              sha1 (deviceId ++ "|" ++ .ofList mkDate ++ "," ++ .ofList sta1 ++ "," ++
                .ofList sta2 ++ "," ++ .ofList sta3 ++ "," ++ toString t1Status)
            mkDate := .ofList mkDate
            staNo1 := .ofList sta1
            staNo2 := .ofList sta2
            staNo3 := .ofList sta3
            t1Status := t1Status
            deviceId := deviceId
            schemaVersion := 1 }
  | _ => none

/-- Both readers make the same of a line. -/
theorem csvLineToRecord_eq_parseLine (reader : LineReader) (line : List Char) :
    csvLineToRecord reader.sha1 line reader.deviceId = reader.parseLine line := rfl

/-- Whether a line is a record does not depend on the device that reads it. -/
theorem csvLineToRecord_isSome (sha1 digest : String → String) (line : List Char)
    (deviceId other : String) :
    (csvLineToRecord sha1 line deviceId).isSome = (csvLineToRecord digest line other).isSome := by
  rw [csvLineToRecord, csvLineToRecord]
  split
  · split
    · rfl
    · split
      · rfl
      · rw [Option.isSome_map, Option.isSome_map]
  · rfl

end PresenceLogger.Child
