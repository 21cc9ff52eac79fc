import Mathlib.Data.List.TakeWhile
import SqlAccess.Proofs.Calendar.Days
import SqlAccess.Proofs.Decimal.Digits
import SqlAccess.Proofs.Text.Trim

/-!
# Dates and times read back

What is written of a date, of a time of day and of a timestamp is read back, in the years before 0
and after 9999 too. The fraction of a second is not written, so the time that comes back is the one
with the same clock text; a leap second comes back as one.
-/

namespace SqlAccess.Calendar

/-- The characters of dates and times, blanks apart. -/
def dateInk : List Char := "0123456789-+:".toList

/-- Digits stand in dates and times. -/
theorem date_ink_of_padded {width n : Nat} : ∀ c ∈ Decimal.padded width n, c ∈ dateInk := by
  intro c member
  exact List.mem_append_left ['-', '+', ':']
    (Decimal.mem_digits (List.all_eq_true.mp (Decimal.digits_padded width n) c member))

/-- A text of this ink has no blank. -/
theorem not_blank_of_date_ink {c : Char} (ink : c ∈ dateInk) : Text.isBlank c = false := by
  have each : dateInk.all (fun c => !Text.isBlank c) = true := by decide
  simpa using List.all_eq_true.mp each c ink

/-- A date is written in ink. -/
theorem Date.date_ink_text (date : Date) : ∀ c ∈ date.text, c ∈ dateInk := by
  have inkYear : ∀ c ∈ yearText date.year, c ∈ dateInk := by
    unfold yearText
    split
    · exact date_ink_of_padded
    · refine List.forall_mem_cons.mpr ⟨?_, date_ink_of_padded⟩
      split <;> decide
  simp only [text, List.forall_mem_append, List.forall_mem_cons]
  exact ⟨⟨inkYear, by decide, date_ink_of_padded⟩, by decide, date_ink_of_padded⟩

/-- A time of day is written in ink. -/
theorem TimeOfDay.date_ink_clock_text (time : TimeOfDay) :
    ∀ c ∈ time.clockText, c ∈ dateInk := by
  simp only [clockText, List.forall_mem_append, List.forall_mem_cons]
  exact ⟨⟨date_ink_of_padded, by decide, date_ink_of_padded⟩, by decide, date_ink_of_padded⟩

namespace Read

/-- Digits that fill a width are not cut at the start. -/
theorem trim_start_padded (width n : Nat) (rest : List Char) :
    Text.trimStart (Decimal.padded width n ++ rest) = Decimal.padded width n ++ rest :=
  Text.trim_start_append_eq_self (Decimal.padded_ne_nil width n)
    (fun c member => not_blank_of_date_ink (date_ink_of_padded c member)) rest

/-- Digits that fill a width are read as their number, and no more than they. -/
theorem number_padded (width n : Nat) (fits : n < Nat.pow 10 width) (positive : 0 < width)
    (rest : List Char) : number width (Decimal.padded width n ++ rest) = some (n, rest) := by
  have digits : ((Decimal.padded width n ++ rest).take width).takeWhile Decimal.isDigit =
      Decimal.padded width n := by
    rw [List.take_left' (Decimal.length_padded fits positive)]
    exact List.takeWhile_eq_self_iff.mpr (List.all_eq_true.mp (Decimal.digits_padded width n))
  simp only [number, trim_start_padded, digits, Decimal.nat_value?_padded, Option.map_some,
    List.drop_left]

/-- Digits behind a sign are read up to the first character that is none. -/
theorem signed_padded {width n : Nat} {rest : List Char}
    (stops : ∀ c ∈ rest.head?, Decimal.isDigit c = false) (value : Nat → Int) :
    year.signed (Decimal.padded width n ++ rest) value = some (value n, rest) := by
  simp only [year.signed, Decimal.take_while_digits (Decimal.digits_padded width n) stops,
    Decimal.nat_value?_padded, Option.map_some, List.drop_left]

/-- A written year is read as the year. -/
theorem year_year_text (y : Int) (rest : List Char)
    (stops : ∀ c ∈ rest.head?, Decimal.isDigit c = false) :
    year (Date.yearText y ++ rest) = some (y, rest) := by
  unfold Date.yearText
  split
  · rename_i common
    have same : (y.toNat : Int) = y := Int.toNat_of_nonneg common.1
    have unsigned (c : Char) (member : c ∈ Decimal.padded 4 y.toNat) :
        c ≠ '-' ∧ c ≠ '+' := by
      have digit := List.all_eq_true.mp (Decimal.digits_padded 4 y.toNat) c member
      constructor <;> rintro rfl <;> exact absurd digit (by decide)
    obtain ⟨c, others, begins⟩ := List.exists_cons_of_ne_nil (Decimal.padded_ne_nil 4 y.toNat)
    obtain ⟨noMinus, noPlus⟩ := unsigned c (begins ▸ List.mem_cons_self)
    have digits := number_padded 4 y.toNat (show _ < 10000 by omega) (by decide) rest
    have begun := trim_start_padded 4 y.toNat rest
    unfold year
    rw [begins] at digits begun ⊢
    rw [begun]
    split
    · rename_i minus
      exact absurd (List.cons.inj minus).1 noMinus
    · rename_i plus
      exact absurd (List.cons.inj plus).1 noPlus
    · rw [digits, Option.map_some, same]
  · rename_i distant
    by_cases negative : y < 0
    · have turned : -(y.natAbs : Int) = y := by omega
      have begun : Text.trimStart ('-' :: (Decimal.padded 4 y.natAbs ++ rest)) =
          '-' :: (Decimal.padded 4 y.natAbs ++ rest) :=
        Text.trim_start_append_eq_self (List.cons_ne_nil '-' [])
          (List.forall_mem_singleton.mpr (by decide)) _
      simp only [negative, if_true, List.cons_append, year, begun]
      rw [signed_padded stops, turned]
    · have same : (y.natAbs : Int) = y := by omega
      have begun : Text.trimStart ('+' :: (Decimal.padded 4 y.natAbs ++ rest)) =
          '+' :: (Decimal.padded 4 y.natAbs ++ rest) :=
        Text.trim_start_append_eq_self (List.cons_ne_nil '+' [])
          (List.forall_mem_singleton.mpr (by decide)) _
      simp only [negative, if_false, List.cons_append, year, begun]
      rw [signed_padded stops, same]

/-- The numbers of a day have two digits at most. -/
theorem day_small (date : Date) : date.month < 100 ∧ date.day < 100 := by
  obtain ⟨⟨_, twelve⟩, _, last⟩ := date.numbers
  have short : monthLength date.year date.month ≤ 31 := by
    unfold monthLength
    split <;> (try split) <;> omega
  omega

/-- A written date is read as its numbers. -/
theorem date_numbers_text (date : Date) (rest : List Char) :
    dateNumbers (date.text ++ rest) = some ((date.year, date.month, date.day), rest) := by
  obtain ⟨month, day⟩ := day_small date
  have years := year_year_text date.year ('-' :: (Decimal.padded 2 date.month ++
    '-' :: (Decimal.padded 2 date.day ++ rest))) (by rintro c ⟨⟩; decide)
  simp only [dateNumbers, Date.text, List.append_assoc, List.cons_append, years, exactly,
    number_padded 2 date.month month (by decide), number_padded 2 date.day day (by decide),
    Option.bind_eq_bind, Option.bind_some, if_true, Option.pure_def]

/-- A written date is read as the date. -/
theorem date?_text (date : Date) : date? date.text = some date := by
  have numbers := date_numbers_text date []
  rw [List.append_nil] at numbers
  simp [date?, numbers, Date.make?, date.valid]

/-- A written date is not a timestamp, for no time follows. -/
theorem timestamp_with_date (date : Date) {between : List Char → Option (List Char)}
    (nothing : between [] = some [] ∨ between [] = none) :
    timestampWith between date.text = none := by
  have numbers := date_numbers_text date []
  rw [List.append_nil] at numbers
  rcases nothing with empty | refused
  · have noTime : clock [] = none := by decide
    simp [timestampWith, numbers, empty, noTime]
  · simp [timestampWith, numbers, refused]

/-- The numbers that are shown of a time; a leap second is shown as second 60. -/
theorem time_small (time : TimeOfDay) :
    time.hour < 24 ∧ time.minute < 60 ∧ time.shownSecond ≤ 60 := by
  have valid := time.valid
  simp only [isTime, Bool.and_eq_true, decide_eq_true_eq] at valid
  obtain ⟨⟨⟨hour, minute⟩, second⟩, _⟩ := valid
  have shown : time.shownSecond ≤ 60 := by
    unfold TimeOfDay.shownSecond
    split <;> omega
  exact ⟨hour, minute, shown⟩

/-- The time that its clock text is read as has the same clock text. -/
theorem clock_clock_text (time : TimeOfDay) :
    ∃ again, clock time.clockText = some (again, []) ∧ again.clockText = time.clockText := by
  obtain ⟨hour, minute, shown⟩ := time_small time
  have read : clock time.clockText =
      (timeOf time.hour time.minute time.shownSecond 0).map fun again => (again, []) := by
    have last := number_padded 2 time.shownSecond (show _ < 100 by omega) (by decide) []
    rw [List.append_nil] at last
    simp only [clock, hourMinute, TimeOfDay.clockText, List.append_assoc, List.cons_append,
      number_padded 2 time.hour (show _ < 100 by omega) (by decide),
      number_padded 2 time.minute (show _ < 100 by omega) (by decide), last, exactly, fraction,
      if_true, Option.bind_eq_bind, Option.bind_some, Option.pure_def, Option.map_eq_bind,
      Function.comp_def]
  rw [read]
  by_cases leap : time.shownSecond = 60
  · -- only a leap second is shown as second 60
    have fits : isTime time.hour time.minute 59 1000000000 = true := by
      simp [isTime, hour, minute]
    refine ⟨⟨time.hour, time.minute, 59, 1000000000, fits⟩, ?_, ?_⟩
    · simp [timeOf, leap, TimeOfDay.make?, fits]
    · have again :
        (⟨time.hour, time.minute, 59, 1000000000, fits⟩ : TimeOfDay).shownSecond = 60 :=
        rfl
      simp only [TimeOfDay.clockText, again, leap]
  · have fits : isTime time.hour time.minute time.shownSecond 0 = true := by
      simp only [isTime, Bool.and_eq_true, decide_eq_true_eq, Bool.or_eq_true]
      omega
    refine ⟨⟨time.hour, time.minute, time.shownSecond, 0, fits⟩, ?_, ?_⟩
    · simp [timeOf, leap, TimeOfDay.make?, fits]
    · simp [TimeOfDay.clockText, TimeOfDay.shownSecond]

/-- A written time of day is read as one with the same clock text. -/
theorem time?_clock_text (time : TimeOfDay) :
    ∃ again, time? time.clockText = some again ∧ again.clockText = time.clockText := by
  obtain ⟨again, reads, same⟩ := clock_clock_text time
  exact ⟨again, by simp [time?, reads], same⟩

/-- A written timestamp is read as one with the same text. -/
theorem spaced_timestamp?_clock_text (ts : Timestamp) :
    ∃ again, spacedTimestamp? ts.clockText = some again ∧ again.clockText = ts.clockText := by
  obtain ⟨again, reads, same⟩ := clock_clock_text ts.time
  have numbers := date_numbers_text ts.date (' ' :: ts.time.clockText)
  have begun : Text.trimStart (' ' :: ts.time.clockText) = ts.time.clockText := by
    have ink : Text.Trimmed ts.time.clockText := Text.trimmed_of_forall fun c member =>
      not_blank_of_date_ink (ts.time.date_ink_clock_text c member)
    have cut := Text.trim_start_blank_append (by decide : [' '].all Text.isBlank = true)
      ts.time.clockText
    exact cut.trans (Text.trim_start_eq_self ink.starts)
  refine ⟨⟨ts.date, again⟩, ?_, ?_⟩
  · simp [spacedTimestamp?, timestampWith, Timestamp.clockText, numbers, begun, reads, Date.make?,
      ts.date.valid]
  · rw [Timestamp.clockText, Timestamp.clockText, same]

end Read

end SqlAccess.Calendar
