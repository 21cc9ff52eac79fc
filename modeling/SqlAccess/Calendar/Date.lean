import SqlAccess.Decimal.Digits

/-!
# Calendar days

The Gregorian calendar, carried on backwards and forwards. A date is valid by its
type, so what is written of one is always a day of the calendar. Days are counted
from the first of January 1970.
-/

namespace SqlAccess.Calendar

/-- Years that are divisible by four, centuries only where divisible by four hundred. -/
def isLeap (year : Int) : Bool := year % 4 == 0 && (year % 100 != 0 || year % 400 == 0)

/-- How many days a month has; none outside the twelve months. -/
def monthLength (year : Int) : Nat → Nat
  | 1 | 3 | 5 | 7 | 8 | 10 | 12 => 31
  | 4 | 6 | 9 | 11 => 30
  | 2 => if isLeap year then 29 else 28
  | _ => 0

/-- True for a day of the calendar within the years that are supported. -/
def isDay (year : Int) (month day : Nat) : Bool :=
  -262143 ≤ year && year ≤ 262142 && 1 ≤ day && day ≤ monthLength year month

/-- A day of the calendar. -/
structure Date where
  year : Int
  month : Nat
  day : Nat
  valid : isDay year month day = true
deriving DecidableEq, Repr

namespace Date

/-- The day with these numbers, if there is one. -/
def make? (year : Int) (month day : Nat) : Option Date :=
  if valid : isDay year month day = true then some ⟨year, month, day, valid⟩ else none

/-- Days before a year, counted from the year 0 of the calendar. -/
def daysBeforeYear (year : Int) : Int :=
  let last := year - 1
  365 * year + Int.fdiv last 4 - Int.fdiv last 100 + Int.fdiv last 400

/-- Days of a year before a month. -/
def daysBeforeMonth (year : Int) (month : Nat) : Nat :=
  (List.range (month - 1)).foldl (fun days earlier => days + monthLength year (earlier + 1)) 0

/-- Days from the first of January 1970. -/
def toDays (date : Date) : Int :=
  daysBeforeYear date.year - daysBeforeYear 1970 +
    (daysBeforeMonth date.year date.month : Nat) + (date.day : Int) - 1

/-- The month and the day of a day of the year, counted from zero; the list holds the months that
are still possible. -/
def monthOf (year : Int) : List Nat → Nat → Nat × Nat
  | [], rest => (12, rest + 1)
  | month :: later, rest =>
    if rest < monthLength year month then (month, rest + 1)
    else monthOf year later (rest - monthLength year month)

/-- The day with a given distance from the first of January 1970. The year is found from the mean
length of a year, which is off by one at most. -/
def ofDays? (days : Int) : Option Date :=
  let sinceZero := days + daysBeforeYear 1970
  let guess := Int.fdiv (sinceZero * 400) 146097
  let year :=
    if sinceZero < daysBeforeYear guess then guess - 1
    else if daysBeforeYear (guess + 1) ≤ sinceZero then guess + 1
    else guess
  let (month, day) := monthOf year (List.range' 1 12) (sinceZero - daysBeforeYear year).toNat
  make? year month day

/-- The digits of a year: four of them, with a sign outside the years 0 to 9999. -/
def yearText (year : Int) : List Char :=
  if 0 ≤ year ∧ year ≤ 9999 then Decimal.padded 4 year.toNat
  else (if year < 0 then '-' else '+') :: Decimal.padded 4 year.natAbs

/-- Year, month and day with hyphens between them. -/
def text (date : Date) : List Char :=
  yearText date.year ++ '-' :: Decimal.padded 2 date.month ++ '-' :: Decimal.padded 2 date.day

end Date

end SqlAccess.Calendar
