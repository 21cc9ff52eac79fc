import SqlAccess.Decimal.Digits

/-!
# Time of day

Hours, minutes, seconds and nanoseconds. The second 59 may be prolonged by a leap
second: its nanoseconds then run up to two thousand million, and it is written as
second 60.
-/

namespace SqlAccess.Calendar

/-- True for the numbers of a time of day. -/
def isTime (hour minute second nanos : Nat) : Bool :=
  hour < 24 && minute < 60 && second < 60 &&
    (nanos < 1000000000 || (second == 59 && nanos < 2000000000))

/-- A time of day. -/
structure TimeOfDay where
  hour : Nat
  minute : Nat
  second : Nat
  nanos : Nat
  valid : isTime hour minute second nanos = true
deriving DecidableEq, Repr

namespace TimeOfDay

/-- The time with these numbers, if there is one. -/
def make? (hour minute second nanos : Nat) : Option TimeOfDay :=
  if valid : isTime hour minute second nanos = true then
    some ⟨hour, minute, second, nanos, valid⟩
  else none

/-- The beginning of the day. -/
def midnight : TimeOfDay := ⟨0, 0, 0, 0, rfl⟩

/-- The time after a number of nanoseconds from midnight; past the end of the day there is none. -/
def ofNanos? (n : Nat) : Option TimeOfDay :=
  let seconds := n / 1000000000
  make? (seconds / 3600) (seconds / 60 % 60) (seconds % 60) (n % 1000000000)

/-- The second as it is written. -/
def shownSecond (time : TimeOfDay) : Nat :=
  if time.nanos < 1000000000 then time.second else time.second + 1

/-- The nanoseconds as they are written. -/
def shownNanos (time : TimeOfDay) : Nat := time.nanos % 1000000000

/-- Hours, minutes and seconds with colons between them; the fraction is left out. -/
def clockText (time : TimeOfDay) : List Char :=
  Decimal.padded 2 time.hour ++ ':' :: Decimal.padded 2 time.minute ++
    ':' :: Decimal.padded 2 time.shownSecond

/-- A fraction of a second in three, six or nine digits behind a point, whichever is enough;
nothing when it is zero. -/
def fractionText (nanos : Nat) : List Char :=
  if nanos == 0 then []
  else if nanos % 1000000 == 0 then '.' :: Decimal.padded 3 (nanos / 1000000)
  else if nanos % 1000 == 0 then '.' :: Decimal.padded 6 (nanos / 1000)
  else '.' :: Decimal.padded 9 nanos

/-- The time with its fraction. -/
def text (time : TimeOfDay) : List Char := time.clockText ++ fractionText time.shownNanos

end TimeOfDay

end SqlAccess.Calendar
