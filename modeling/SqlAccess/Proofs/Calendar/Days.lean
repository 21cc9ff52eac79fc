import Mathlib.Algebra.GroupWithZero.Nat
import SqlAccess.Calendar.Instant

/-!
# Days and dates

A day is counted from the first of January 1970, and the date of a count is found from a guess of
the year and a walk through its months. Main statements: the date of the count of a date is the date
again, and a timestamp that is moved by no minute is the same timestamp.

The guess divides by the mean length of a year. It is off by one year at most, because the days
before a year never depart from the mean by as much as a year.
-/

namespace SqlAccess.Calendar

/-- How many days a year has. -/
def yearLength (year : Int) : Nat := if isLeap year then 366 else 365

namespace Date

/-- The days before a year, with divisions that round down. -/
theorem days_before_year_eq (year : Int) :
    daysBeforeYear year = 365 * year + (year - 1) / 4 - (year - 1) / 100 + (year - 1) / 400 := by
  simp only [daysBeforeYear, Int.fdiv_eq_ediv_of_nonneg _ (by decide : (0 : Int) ≤ 4),
    Int.fdiv_eq_ediv_of_nonneg _ (by decide : (0 : Int) ≤ 100),
    Int.fdiv_eq_ediv_of_nonneg _ (by decide : (0 : Int) ≤ 400)]

/-- A year is as long as it has days. -/
theorem days_before_year_succ (year : Int) :
    daysBeforeYear (year + 1) = daysBeforeYear year + yearLength year := by
  rw [days_before_year_eq, days_before_year_eq, yearLength]
  by_cases leap : isLeap year = true
  · simp only [leap, if_true]
    simp only [isLeap, Bool.and_eq_true, Bool.or_eq_true, beq_iff_eq, bne_iff_ne] at leap
    omega
  · simp only [leap, Bool.false_eq_true, if_false]
    simp only [isLeap, Bool.and_eq_true, Bool.or_eq_true, beq_iff_eq, bne_iff_ne] at leap
    omega

/-- The days before a year are near to the mean. -/
theorem days_before_year_near (year : Int) :
    146097 * year - 1000 ≤ 400 * daysBeforeYear year ∧
      400 * daysBeforeYear year ≤ 146097 * year + 400 := by
  rw [days_before_year_eq]
  omega

/-- The year of a day is the guess or one of its neighbours, and the neighbour is told by the days
before the guess and after it. -/
theorem year_of_guess {year since : Int} (begun : daysBeforeYear year ≤ since)
    (runs : since < daysBeforeYear (year + 1)) :
    let guess := Int.fdiv (since * 400) 146097
    (if since < daysBeforeYear guess then guess - 1
      else if daysBeforeYear (guess + 1) ≤ since then guess + 1
      else guess) = year := by
  intro guess
  have mean : guess = since * 400 / 146097 := Int.fdiv_eq_ediv_of_nonneg _ (by decide)
  obtain ⟨least, _⟩ := days_before_year_near year
  obtain ⟨_, most⟩ := days_before_year_near (year + 1)
  have near : guess = year - 1 ∨ guess = year ∨ guess = year + 1 := by omega
  rcases near with early | right | late
  · have later := days_before_year_succ (year - 1)
    rw [Int.sub_add_cancel] at later
    rw [early, Int.sub_add_cancel, if_neg (by omega), if_pos begun]
  · rw [right, if_neg (by omega), if_neg (by omega)]
  · rw [late, if_pos runs, Int.add_sub_cancel]

/-- The months of a year fill it. -/
theorem sum_month_length (year : Int) :
    ((List.range' 1 12).map (monthLength year)).sum = yearLength year := by
  by_cases leap : isLeap year = true <;> simp [List.range', monthLength, yearLength, leap]

/-- The days before a month are those of the earlier months. -/
theorem days_before_month_eq (year : Int) (month : Nat) :
    daysBeforeMonth year month = ((List.range' 1 (month - 1)).map (monthLength year)).sum := by
  rw [daysBeforeMonth, List.range'_eq_map_range, List.map_map, List.sum_eq_foldl, List.foldl_map]
  simp only [Function.comp_def, Nat.add_comm 1]

/-- A walk through the months stops at the month in which the day lies. -/
theorem month_of_append {year : Int} {month rest : Nat} (within : rest < monthLength year month)
    (earlier later : List Nat) :
    monthOf year (earlier ++ month :: later) ((earlier.map (monthLength year)).sum + rest) =
      (month, rest + 1) := by
  induction earlier with
  | nil => simp [monthOf, within]
  | cons first others inductionHypothesis =>
    have beyond : ¬ monthLength year first + (others.map (monthLength year)).sum + rest <
        monthLength year first := by omega
    have left : monthLength year first + (others.map (monthLength year)).sum + rest -
        monthLength year first = (others.map (monthLength year)).sum + rest := by omega
    rw [List.cons_append, monthOf, List.map_cons, List.sum_cons, if_neg beyond, left,
      inductionHypothesis]

/-- The twelve months, with one of them in its place. -/
theorem months_split {month : Nat} (first : 1 ≤ month) (last : month ≤ 12) :
    List.range' 1 12 =
      List.range' 1 (month - 1) ++ month :: List.range' (month + 1) (12 - month) := by
  have place : 1 + 1 * (month - 1) = month := by omega
  have size : month - 1 + (12 - month + 1) = 12 := by omega
  calc
    List.range' 1 12 = List.range' 1 (month - 1 + (12 - month + 1)) := by rw [size]
    _ = List.range' 1 (month - 1) ++ List.range' (1 + 1 * (month - 1)) (12 - month + 1) :=
      List.range'_append.symm
    _ = _ := by rw [place, List.range'_succ]

/-- A date has one of the twelve months, and a day of that month. -/
theorem numbers (date : Date) :
    (1 ≤ date.month ∧ date.month ≤ 12) ∧ 1 ≤ date.day ∧
      date.day ≤ monthLength date.year date.month := by
  have valid := date.valid
  simp only [isDay, Bool.and_eq_true, decide_eq_true_eq] at valid
  obtain ⟨⟨_, first⟩, last⟩ := valid
  have twelve : 1 ≤ date.month ∧ date.month ≤ 12 := by
    unfold monthLength at last
    split at last <;> omega
  exact ⟨twelve, first, last⟩

/-- The date that is found for the days of a date is the date. -/
theorem of_days?_to_days (date : Date) : ofDays? date.toDays = some date := by
  obtain ⟨⟨firstMonth, lastMonth⟩, firstDay, lastDay⟩ := date.numbers
  have split := months_split firstMonth lastMonth
  have within : date.day - 1 < monthLength date.year date.month := by omega
  -- the days of the year before the date, and the room that is left for them
  have before := days_before_month_eq date.year date.month
  have room := sum_month_length date.year
  rw [split, List.map_append, List.sum_append, List.map_cons, List.sum_cons, ← before] at room
  have since : date.toDays + daysBeforeYear 1970 =
      daysBeforeYear date.year + (daysBeforeMonth date.year date.month + (date.day - 1) : Nat) := by
    unfold toDays
    omega
  have next := days_before_year_succ date.year
  have begun : daysBeforeYear date.year ≤ date.toDays + daysBeforeYear 1970 := by omega
  have runs : date.toDays + daysBeforeYear 1970 < daysBeforeYear (date.year + 1) := by omega
  have year := year_of_guess begun runs
  have rest : (date.toDays + daysBeforeYear 1970 - daysBeforeYear date.year).toNat =
      ((List.range' 1 (date.month - 1)).map (monthLength date.year)).sum + (date.day - 1) := by
    rw [since, ← before]
    omega
  simp only [ofDays?] at year ⊢
  rw [year, rest, split, month_of_append within]
  simp only [Nat.sub_add_cancel firstDay, make?, date.valid, dite_true]

end Date

/-- A timestamp that is moved by no minute is the same timestamp. -/
theorem Timestamp.earlier?_zero (ts : Timestamp) : ts.earlier? 0 = some ts := by
  have valid := ts.time.valid
  simp only [isTime, Bool.and_eq_true, decide_eq_true_eq] at valid
  obtain ⟨⟨⟨hour, minute⟩, _⟩, _⟩ := valid
  have day : Int.fdiv (ts.date.toDays * 1440 +
      (ts.time.hour * 60 + ts.time.minute : Nat) - 0) 1440 = ts.date.toDays := by
    rw [Int.fdiv_eq_ediv_of_nonneg _ (by decide)]
    omega
  have minutes : (Int.fmod (ts.date.toDays * 1440 +
      (ts.time.hour * 60 + ts.time.minute : Nat) - 0) 1440).toNat =
      ts.time.hour * 60 + ts.time.minute := by
    rw [Int.fmod_eq_emod_of_nonneg _ (by decide)]
    omega
  have hours : (ts.time.hour * 60 + ts.time.minute) / 60 = ts.time.hour := by omega
  have left : (ts.time.hour * 60 + ts.time.minute) % 60 = ts.time.minute := by omega
  simp only [earlier?, day, minutes, hours, left, Date.of_days?_to_days, TimeOfDay.make?,
    ts.time.valid, dite_true, Option.bind_eq_bind, Option.bind_some, Option.pure_def]

end SqlAccess.Calendar
