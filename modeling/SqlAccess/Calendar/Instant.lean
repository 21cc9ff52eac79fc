import SqlAccess.Calendar.Timestamp
import SqlAccess.Text.Lowercase

/-!
# Instants

A point in time is a timestamp of the zone UTC. Two readers accept the Internet date and time
format: a strict one, and a relaxed one that puts up with blanks and with other separators
in the offset. Both turn the written offset into the distance from UTC.
-/

namespace SqlAccess.Calendar

/-- A timestamp some minutes earlier. The second keeps its place, a leap second too. -/
def Timestamp.earlier? (ts : Timestamp) (minutes : Int) : Option Timestamp := do
  let count := ts.date.toDays * 1440 + (ts.time.hour * 60 + ts.time.minute : Nat) - minutes
  let date ← Date.ofDays? (Int.fdiv count 1440)
  let minuteOfDay := (Int.fmod count 1440).toNat
  let time ← TimeOfDay.make? (minuteOfDay / 60) (minuteOfDay % 60) ts.time.second ts.time.nanos
  return ⟨date, time⟩

/-- A point in time, by its timestamp in UTC. -/
structure Instant where
  utc : Timestamp
deriving DecidableEq, Repr

namespace Instant

/-- The written form with the letter that stands for UTC. -/
def text (instant : Instant) : List Char := instant.utc.textWith 'T' ++ ['Z']

/-- The written form with an offset of zero. -/
def offsetText (instant : Instant) : List Char := instant.utc.textWith 'T' ++ "+00:00".toList

end Instant

namespace Read

/-- A number of exactly two digits. -/
def twoDigits : List Char → Option (Nat × List Char)
  | a :: b :: rest => (Decimal.natValue? [a, b]).map fun n => (n, rest)
  | _ => none

/-- A year of exactly four digits. -/
def fourDigits : List Char → Option (Int × List Char)
  | a :: b :: c :: d :: rest => (Decimal.natValue? [a, b, c, d]).map fun n => ((n : Int), rest)
  | _ => none

/-- The letter between date and time, in either case, or a blank. -/
def dateTimeMark : List Char → Option (List Char)
  | 't' :: rest | 'T' :: rest | ' ' :: rest => some rest
  | _ => none

/-- Hours and minutes of an offset, as minutes, with what stands between them read by
`between`. -/
def offsetMinutes (between : List Char → Option (List Char)) (s : List Char) :
    Option (Int × List Char) := do
  let (hours, s) ← twoDigits s
  let s ← between s
  let (minutes, s) ← twoDigits s
  if minutes < 60 ∧ hours < 24 then some ((60 * hours + minutes : Nat), s) else none

/-- An offset from UTC in minutes: the letter Z, or a sign with hours and minutes. -/
def offset (between : List Char → Option (List Char)) (s : List Char) :
    Option (Int × List Char) :=
  match s with
  | 'z' :: rest | 'Z' :: rest => some (0, rest)
  | '+' :: rest => offsetMinutes between rest
  | '-' :: rest | '\u2212' :: rest =>
    (offsetMinutes between rest).map fun result => (-result.1, result.2)
  | _ => none

/-- The offset of the relaxed format: also the name UTC, and blanks or colons before the
minutes. -/
def relaxedOffset (s : List Char) : Option (Int × List Char) :=
  if Text.lowerAscii (s.take 3) == "utc".toList then some (0, s.drop 3)
  else offset (fun between => some (between.dropWhile fun c => c = ':' || Text.isBlank c)) s

/-- The instant of a local date and time with an offset. -/
def instantOf (y : Int) (month day : Nat) (time : TimeOfDay) (minutes : Int) : Option Instant := do
  let date ← Date.make? y month day
  let utc ← Timestamp.earlier? ⟨date, time⟩ minutes
  return ⟨utc⟩

/-- A whole text in the strict format. -/
def instant? (s : List Char) : Option Instant := do
  let (y, s) ← fourDigits s
  let s ← exactly '-' s
  let (month, s) ← twoDigits s
  let s ← exactly '-' s
  let (day, s) ← twoDigits s
  let s ← dateTimeMark s
  let (hour, s) ← twoDigits s
  let s ← exactly ':' s
  let (minute, s) ← twoDigits s
  let s ← exactly ':' s
  let (second, s) ← twoDigits s
  let (nanos, s) ← fraction s
  let (minutes, rest) ← offset (exactly ':') s
  let time ← timeOf hour minute second nanos
  if rest.isEmpty then instantOf y month day time minutes else none

/-- One character with blanks in front of it. -/
def afterBlanks (c : Char) (s : List Char) : Option (List Char) := exactly c (Text.trimStart s)

/-- A whole text in the relaxed format. -/
def relaxedInstant? (s : List Char) : Option Instant := do
  let (y, s) ← year s
  let s ← afterBlanks '-' s
  let (month, s) ← number 2 s
  let s ← afterBlanks '-' s
  let (day, s) ← number 2 s
  let s ← dateTimeMark s
  let (hour, s) ← number 2 s
  let s ← afterBlanks ':' s
  let (minute, s) ← number 2 s
  let s ← afterBlanks ':' s
  let (second, s) ← number 2 s
  let (nanos, s) ← fraction s
  let (minutes, rest) ← relaxedOffset (Text.trimStart s)
  let time ← timeOf hour minute second nanos
  if rest.all Text.isBlank then instantOf y month day time minutes else none

end Read

end SqlAccess.Calendar
