import SqlAccess.Calendar.Instant
import SqlAccess.Cell
import SqlAccess.Guid

/-!
# SQL Server cells

A cell arrives with its kind. Exact numbers are an integer and a scale. Days are counted
from the first year of the calendar, in the older types from 1900; the time of a day is
counted in units of its scale, in the older types in three hundredths of a second or in
minutes. What lies beyond the calendar gives nothing.
-/

namespace SqlAccess.Cell

/-- A value as SQL Server sends it. -/
inductive Tagged where
  | integer (value : Int)
  | float (value : Binary64)
  | bit (value : Bool)
  /-- Text, XML too. -/
  | text (value : String)
  | bytes (value : List UInt8)
  | guid (value : Guid)
  | numeric (unscaled : Int) (scale : Nat)
  | date (days : Nat)
  | time (increments scale : Nat)
  | dateTime2 (days increments scale : Nat)
  /-- A time in UTC, and the distance of its zone in minutes. -/
  | dateTimeOffset (days increments scale : Nat) (offset : Int)
  /-- Days from 1900 and three hundredths of a second. -/
  | dateTime (days : Int) (fragments : Nat)
  /-- Days from 1900 and minutes. -/
  | smallDateTime (days minutes : Nat)
deriving DecidableEq, Repr

namespace Tagged

/-- Days from the first of January 1970 to the first day of the year 1. -/
def firstDay : Int := -719162

/-- Days from the first of January 1970 to the first day of 1900. -/
def firstDayOf1900 : Int := -25567

/-- Nanoseconds of a day. -/
def nanosOfDay : Nat := 86400 * 1000000000

/-- An exact number: its whole part, a point, and its remainder in as many places as the scale;
both parts have the sign of the number. -/
def numericText (unscaled : Int) (scale : Nat) : List Char :=
  let whole := unscaled.tdiv (Nat.pow 10 scale)
  let remainder := unscaled.tmod (Nat.pow 10 scale)
  let fraction := if remainder < 0 then '-' :: Decimal.padded (scale - 1) remainder.natAbs
    else Decimal.padded scale remainder.natAbs
  Decimal.ofInt whole ++ '.' :: fraction

/-- Nanoseconds of a count of units of ten to the minus `scale` seconds. -/
def nanosOf (increments scale : Nat) : Nat := increments * Nat.pow 10 (9 - scale)

/-- The time of day after some nanoseconds, carried over the end of the day. -/
def timeOfDay? (nanos : Nat) : Option Calendar.TimeOfDay :=
  Calendar.TimeOfDay.ofNanos? (nanos % nanosOfDay)

/-- The timestamp of a day, counted from 1970, and of a time of that day. -/
def timestamp? (day : Int) (nanos : Nat) : Option Calendar.Timestamp := do
  let date ← Calendar.Date.ofDays? day
  let time ← timeOfDay? nanos
  return ⟨date, time⟩

/-- The distance of a zone from UTC. -/
def offsetText (minutes : Int) : List Char :=
  (if minutes < 0 then '-' else '+') :: Decimal.padded 2 (minutes.natAbs / 60) ++
    ':' :: Decimal.padded 2 (minutes.natAbs % 60)

/-- The cell of a value. -/
def toJson? : Tagged → Option Json
  | .integer value => some (.int value)
  | .float value => some (ofFloat value)
  | .bit value => some (.bool value)
  | .text value => some (.string value)
  | .bytes value => some (ofBytes value)
  | .guid value => some (ofText value.text)
  | .numeric unscaled scale => some (ofText (numericText unscaled scale))
  | .date days => (Calendar.Date.ofDays? (firstDay + days)).map fun date => ofText date.text
  | .time increments scale =>
    (timeOfDay? (nanosOf increments scale)).map fun time => ofText time.text
  | .dateTime2 days increments scale =>
    spaced (timestamp? (firstDay + days) (nanosOf increments scale))
  | .dateTimeOffset days increments scale offset => do
    let utc ← timestamp? (firstDay + days) (nanosOf increments scale)
    let there ← utc.earlier? (-offset)
    return ofText (there.textWith 'T' ++ offsetText offset)
  | .dateTime days fragments =>
    spaced (timestamp? (firstDayOf1900 + days) (fragments * 1000000000 / 300))
  | .smallDateTime days minutes =>
    spaced (timestamp? (firstDayOf1900 + days) (minutes * 60 * 1000000000))
where
  /-- A timestamp with a blank between date and time. -/
  spaced (ts : Option Calendar.Timestamp) : Option Json :=
    ts.map fun ts => ofText (ts.textWith ' ')

/-- The cell of a value; NULL is null. -/
def ofValue? : Option Tagged → Option Json
  | none => some .null
  | some value => value.toJson?

end Tagged

end SqlAccess.Cell
