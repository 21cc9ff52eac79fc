import SqlAccess.Calendar.Date
import SqlAccess.Calendar.TimeOfDay
import SqlAccess.Text.Blank

/-!
# Timestamps

A day with a time of day, without a zone; where a zone is meant it is said. The
readers take numbers of bounded width with blanks in front of them, punctuation
exactly as it stands, and nothing behind.
-/

namespace SqlAccess.Calendar

/-- A day and a time of day. -/
structure Timestamp where
  date : Date
  time : TimeOfDay
deriving DecidableEq, Repr

namespace Timestamp

/-- Date and clock with a blank between them; the fraction is left out. -/
def clockText (ts : Timestamp) : List Char := ts.date.text ++ ' ' :: ts.time.clockText

/-- Date and time with a given separator, the time with its fraction. -/
def textWith (separator : Char) (ts : Timestamp) : List Char :=
  ts.date.text ++ separator :: ts.time.text

/-- The timestamp some nanoseconds after the first of January 1970. -/
def ofNanos? (n : Int) : Option Timestamp := do
  let day : Int := 86400 * 1000000000
  let date ← Date.ofDays? (Int.fdiv n day)
  let time ← TimeOfDay.ofNanos? (Int.fmod n day).toNat
  return ⟨date, time⟩

end Timestamp

namespace Read

/-- A number of one digit up to a width, blanks in front of it skipped, and the rest. -/
def number (width : Nat) (s : List Char) : Option (Nat × List Char) :=
  let body := Text.trimStart s
  let digits := (body.take width).takeWhile Decimal.isDigit
  (Decimal.natValue? digits).map fun n => (n, body.drop digits.length)

/-- A year: four digits at most, or a sign and any number of them. -/
def year (s : List Char) : Option (Int × List Char) :=
  match Text.trimStart s with
  | '-' :: rest => signed rest fun n => -(n : Int)
  | '+' :: rest => signed rest fun n => (n : Int)
  | body => (number 4 body).map fun result => ((result.1 : Int), result.2)
where
  /-- Digits that follow a sign at once. -/
  signed (rest : List Char) (value : Nat → Int) : Option (Int × List Char) :=
    let digits := rest.takeWhile Decimal.isDigit
    (Decimal.natValue? digits).map fun n => (value n, rest.drop digits.length)

/-- One given character. -/
def exactly (c : Char) : List Char → Option (List Char)
  | [] => none
  | d :: rest => if c = d then some rest else none

/-- Year, month and day, as numbers. -/
def dateNumbers (s : List Char) : Option ((Int × Nat × Nat) × List Char) := do
  let (y, s) ← year s
  let s ← exactly '-' s
  let (m, s) ← number 2 s
  let s ← exactly '-' s
  let (d, s) ← number 2 s
  return ((y, m, d), s)

/-- A point and digits, the first nine of which count; nothing is read where there is no point. -/
def fraction (s : List Char) : Option (Nat × List Char) :=
  match s with
  | '.' :: rest =>
    let digits := (rest.take 9).takeWhile Decimal.isDigit
    (Decimal.natValue? digits).map fun n =>
      (n * Nat.pow 10 (9 - digits.length), rest.dropWhile Decimal.isDigit)
  | _ => some (0, s)

/-- Hours and minutes. -/
def hourMinute (s : List Char) : Option ((Nat × Nat) × List Char) := do
  let (h, s) ← number 2 s
  let s ← exactly ':' s
  let (m, s) ← number 2 s
  return ((h, m), s)

/-- The time with these numbers, where second 60 is a leap second. -/
def timeOf (hour minute second nanos : Nat) : Option TimeOfDay :=
  if second = 60 then TimeOfDay.make? hour minute 59 (nanos + 1000000000)
  else TimeOfDay.make? hour minute second nanos

/-- Hours, minutes, seconds and a fraction. -/
def clock (s : List Char) : Option (TimeOfDay × List Char) := do
  let ((h, m), s) ← hourMinute s
  let s ← exactly ':' s
  let (sec, s) ← number 2 s
  let (nanos, s) ← fraction s
  let time ← timeOf h m sec nanos
  return (time, s)

/-- A whole text that is a date. -/
def date? (s : List Char) : Option Date := do
  let ((y, m, d), rest) ← dateNumbers s
  if rest.isEmpty then Date.make? y m d else none

/-- A whole text that is a time with seconds. -/
def time? (s : List Char) : Option TimeOfDay := do
  let (time, rest) ← clock s
  if rest.isEmpty then some time else none

/-- A whole text that is a time without seconds. -/
def shortTime? (s : List Char) : Option TimeOfDay := do
  let ((h, m), rest) ← hourMinute s
  if rest.isEmpty then TimeOfDay.make? h m 0 0 else none

/-- A whole text that is a date and a time, with what stands between them read by `between`. -/
def timestampWith (between : List Char → Option (List Char)) (s : List Char) :
    Option Timestamp := do
  let ((y, m, d), rest) ← dateNumbers s
  let rest ← between rest
  let (time, rest) ← clock rest
  if rest.isEmpty then (Date.make? y m d).map fun date => ⟨date, time⟩ else none

/-- Date and time with any blanks between them. -/
def spacedTimestamp? : List Char → Option Timestamp :=
  timestampWith fun s => some (Text.trimStart s)

/-- Date and time with a T between them. -/
def timestampT? : List Char → Option Timestamp := timestampWith (exactly 'T')

end Read

end SqlAccess.Calendar
