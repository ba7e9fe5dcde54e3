import PresenceLogger.Library.Number

/-!
# Instants and their ISO text

An aware `datetime` is modelled by the instant it denotes, in microseconds since
0001-01-01T00:00:00 UTC; texts are produced from the proleptic Gregorian fields
of that instant in a fixed offset from UTC.
-/

namespace PresenceLogger.Library

/-- An instant, in microseconds since 0001-01-01T00:00:00 UTC. -/
structure Instant where
  micros : Int
  deriving DecidableEq, Repr

namespace Instant

def microsPerSecond : Int := 1000000
def microsPerDay : Int := 86400 * microsPerSecond

/-- `date.max.toordinal()` -/
def maxOrdinal : Int := 3652059

instance : LE Instant := ⟨fun left right => left.micros ≤ right.micros⟩
instance : LT Instant := ⟨fun left right => left.micros < right.micros⟩

instance (left right : Instant) : Decidable (left ≤ right) :=
  inferInstanceAs (Decidable (left.micros ≤ right.micros))

instance (left right : Instant) : Decidable (left < right) :=
  inferInstanceAs (Decidable (left.micros < right.micros))

/-- `instant - earlier`, a `timedelta` in microseconds. -/
def sub (instant earlier : Instant) : Int := instant.micros - earlier.micros

/-- `instant + delta` without the range check. -/
def shift (instant : Instant) (delta : Int) : Instant := ⟨instant.micros + delta⟩

/-- `instant + delta`, raising outside the years 1 to 9999. -/
def add (instant : Instant) (delta : Int) : Except PyError Instant :=
  let sum := instant.shift delta
  if 0 ≤ sum.micros ∧ sum.micros < maxOrdinal * microsPerDay then .ok sum
  else .error .overflowError

/-- The fields of a `datetime`. -/
structure Fields where
  year : Int
  month : Int
  day : Int
  hour : Int
  minute : Int
  second : Int
  microsecond : Int
  deriving DecidableEq, Repr

/-- Days in a common year before each month, January first. -/
def daysBeforeMonth : List Int := [0, 31, 59, 90, 120, 151, 181, 212, 243, 273, 304, 334]

/-- Days of each month of a common year, January first. -/
def daysInMonth : List Int := [31, 28, 31, 30, 31, 30, 31, 31, 30, 31, 30, 31]

/-- `datetime._ord2ymd` for the day that is `days` after 0001-01-01. -/
def yearMonthDay (days : Int) : Int × Int × Int :=
  let n400 := days / 146097
  let in400 := days % 146097
  let n100 := in400 / 36524
  let in100 := in400 % 36524
  let n4 := in100 / 1461
  let in4 := in100 % 1461
  let n1 := in4 / 365
  let dayOfYear := in4 % 365
  let year := n400 * 400 + 1 + n100 * 100 + n4 * 4 + n1
  if n1 = 4 ∨ n100 = 4 then (year - 1, 12, 31)
  else
    let leap : Bool := n1 = 3 ∧ (n4 ≠ 24 ∨ n100 = 3)
    -- An estimate that is at most one month too late.
    let guess := (dayOfYear + 50) / 32
    let before (month : Int) : Int :=
      daysBeforeMonth.getD (month - 1).toNat 0 + (if 2 < month ∧ leap then 1 else 0)
    if dayOfYear < before guess then
      let month := guess - 1
      let length := daysInMonth.getD (month - 1).toNat 0 + (if month = 2 ∧ leap then 1 else 0)
      (year, month, dayOfYear - (before guess - length) + 1)
    else (year, guess, dayOfYear - before guess + 1)

/-- The fields an instant has at `offset` microseconds east of UTC. -/
def fields (instant : Instant) (offset : Int) : Fields :=
  let local_ := instant.micros + offset
  let date := yearMonthDay (local_ / microsPerDay)
  let inDay := local_ % microsPerDay
  let seconds := inDay / microsPerSecond
  { year := date.1
    month := date.2.1
    day := date.2.2
    hour := seconds / 3600
    minute := seconds / 60 % 60
    second := seconds % 60
    microsecond := inDay % microsPerSecond }

/-- `f"{n:0{width}d}"` -/
def padded (width : Nat) (n : Int) : String :=
  let digits := toString n
  String.ofList (List.replicate (width - digits.length) '0') ++ digits

/-- The date and time of day up to the seconds, shared by both ISO forms. -/
def isoSeconds (value : Fields) : String :=
  padded 4 value.year ++ "-" ++ padded 2 value.month ++ "-" ++ padded 2 value.day ++ "T" ++
    padded 2 value.hour ++ ":" ++ padded 2 value.minute ++ ":" ++ padded 2 value.second

/-- `instant.isoformat()` of a `datetime` in UTC; a zero fraction is omitted. -/
def isoformat (instant : Instant) : String :=
  let value := instant.fields 0
  isoSeconds value ++
    (if value.microsecond = 0 then "" else "." ++ padded 6 value.microsecond) ++ "+00:00"

/-- `instant.isoformat(timespec="milliseconds")` of a `datetime` in UTC. -/
def isoformatMilliseconds (instant : Instant) : String :=
  let value := instant.fields 0
  isoSeconds value ++ "." ++ padded 3 (value.microsecond / 1000) ++ "+00:00"

/-- `strftime("%Y%m%d%H%M%S")` at `offset` microseconds east of UTC. -/
def compactText (instant : Instant) (offset : Int) : String :=
  let value := instant.fields offset
  padded 4 value.year ++ padded 2 value.month ++ padded 2 value.day ++
    padded 2 value.hour ++ padded 2 value.minute ++ padded 2 value.second

end Instant

/-- An aware `datetime` of the local zone: its own fields, as microseconds since
0001-01-01T00:00:00, and its offset from UTC. -/
structure LocalTime where
  wall : Instant
  offset : Int
  deriving DecidableEq, Repr

namespace LocalTime

/-- `%z` as `isoformat` writes it; seconds are written only where there are any. -/
def offsetText (offset : Int) : String :=
  let size := offset.natAbs
  let seconds := size / 1000000
  (if offset < 0 then "-" else "+") ++ Instant.padded 2 (seconds / 3600) ++ ":" ++
    Instant.padded 2 (seconds / 60 % 60) ++
    (if size % 60000000 = 0 then "" else ":" ++ Instant.padded 2 (seconds % 60)) ++
    (if size % 1000000 = 0 then "" else "." ++ Instant.padded 6 (size % 1000000))

/-- `isoformat(timespec="milliseconds")` -/
def isoformatMilliseconds (time : LocalTime) : String :=
  let value := time.wall.fields 0
  Instant.isoSeconds value ++ "." ++ Instant.padded 3 (value.microsecond / 1000) ++
    offsetText time.offset

/-- `strftime("%Y%m%d%H%M%S")` -/
def compactText (time : LocalTime) : String := time.wall.compactText 0

end LocalTime

/-- The microseconds of `timedelta(seconds=...)`, which raises past 999999999 days.  The
exact product is rounded; Python rounds the double that stands for it, so that the two can
differ by a microsecond close to a tie. -/
def timedeltaSeconds (seconds : Number) : Except PyError Int :=
  let micros := roundHalfEven (seconds.value * Instant.microsPerSecond)
  if |micros / Instant.microsPerDay| ≤ 999999999 then .ok micros else .error .overflowError

end PresenceLogger.Library
