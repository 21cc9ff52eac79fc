import SqlAccess.Proofs.Calendar.Reread

/-!
# Instants read back

An instant is written in full: with the nanoseconds, in as many digits as they need, and with a leap
second as second 60. Main statement: the relaxed reader finds the instant again, in any year.
-/

namespace SqlAccess.Calendar

namespace Read

/-- Nanoseconds read back from the first digits of a second, where the digits behind them are zeros
and no digit follows. -/
theorem fraction_padded (width : Nat) (positive : 0 < width) (short : width ≤ 9) {nanos : Nat}
    (small : nanos < 1000000000) (zeros : nanos % Nat.pow 10 (9 - width) = 0) {rest : List Char}
    (stops : ∀ c ∈ rest.head?, Decimal.isDigit c = false) :
    fraction ('.' :: Decimal.padded width (nanos / Nat.pow 10 (9 - width)) ++ rest) =
      some (nanos, rest) := by
  have second : Nat.pow 10 (9 - width) * Nat.pow 10 width = 1000000000 :=
    calc
      Nat.pow 10 (9 - width) * Nat.pow 10 width = Nat.pow 10 (9 - width + width) :=
        (Nat.pow_add 10 (9 - width) width).symm
      _ = 1000000000 := by rw [Nat.sub_add_cancel short]
  have fits : nanos / Nat.pow 10 (9 - width) < Nat.pow 10 width :=
    Nat.div_lt_of_lt_mul (second ▸ small)
  have length := Decimal.length_padded fits positive
  have cut : (Decimal.padded width (nanos / Nat.pow 10 (9 - width)) ++ rest).take 9 =
      Decimal.padded width (nanos / Nat.pow 10 (9 - width)) ++ rest.take (9 - width) := by
    rw [List.take_append, length, List.take_of_length_le (by omega)]
  have stopsCut : ∀ c ∈ (rest.take (9 - width)).head?, Decimal.isDigit c = false := by
    intro c first
    rw [List.head?_take] at first
    split at first
    · cases first
    · exact stops c first
  have digits := Decimal.digits_padded width (nanos / Nat.pow 10 (9 - width))
  simp only [List.cons_append, fraction, cut, Decimal.take_while_digits digits stopsCut,
    Decimal.drop_while_digits digits stops, Decimal.nat_value?_padded, Option.map_some, length,
    Nat.div_mul_cancel (Nat.dvd_of_mod_eq_zero zeros)]

/-- Nanoseconds below a second read back from the digits they need. -/
theorem fraction_fraction_text {nanos : Nat} (small : nanos < 1000000000) {rest : List Char}
    (stops : ∀ c ∈ rest.head?, Decimal.isDigit c = false ∧ c ≠ '.') :
    fraction (TimeOfDay.fractionText nanos ++ rest) = some (nanos, rest) := by
  have noDigit : ∀ c ∈ rest.head?, Decimal.isDigit c = false := fun c first => (stops c first).1
  unfold TimeOfDay.fractionText
  split
  · rename_i zero
    have noPoint : ∀ others, rest ≠ '.' :: others := by
      rintro others rfl
      exact (stops '.' rfl).2 rfl
    rw [List.nil_append, fraction.eq_2 rest noPoint, beq_iff_eq.mp zero]
  · split
    · rename_i millis
      exact fraction_padded 3 (by decide) (by decide) small (beq_iff_eq.mp millis) noDigit
    · split
      · rename_i micros
        exact fraction_padded 6 (by decide) (by decide) small (beq_iff_eq.mp micros) noDigit
      · have all := fraction_padded 9 (by decide) (by decide) small (Nat.mod_one nanos) noDigit
        rwa [show nanos / Nat.pow 10 (9 - 9) = nanos from Nat.div_one nanos] at all

/-- The numbers that are shown of a time are those of the time; only a leap second is shown as
second 60. -/
theorem time_of_shown (time : TimeOfDay) :
    timeOf time.hour time.minute time.shownSecond time.shownNanos = some time := by
  have valid := time.valid
  simp only [isTime, Bool.and_eq_true, decide_eq_true_eq, Bool.or_eq_true, beq_iff_eq] at valid
  obtain ⟨⟨_, second⟩, nanos⟩ := valid
  by_cases leap : time.nanos < 1000000000
  · have shown : time.shownSecond = time.second := if_pos leap
    have same : time.shownNanos = time.nanos := Nat.mod_eq_of_lt leap
    have common : time.second ≠ 60 := by omega
    rw [timeOf, shown, same, if_neg common, TimeOfDay.make?, dif_pos time.valid]
  · have last : time.second = 59 := by omega
    have shown : time.shownSecond = 60 := by rw [TimeOfDay.shownSecond, if_neg leap, last]
    have same : time.shownNanos + 1000000000 = time.nanos := by
      unfold TimeOfDay.shownNanos
      omega
    rw [timeOf, if_pos shown, same, ← last, TimeOfDay.make?, dif_pos time.valid]

/-- A character that is no blank is found where it stands. -/
theorem after_blanks_cons {c : Char} (ink : Text.isBlank c = false) (rest : List Char) :
    afterBlanks c (c :: rest) = some rest := by
  have begun : Text.trimStart (c :: rest) = c :: rest :=
    Text.trim_start_append_eq_self (List.cons_ne_nil c []) (List.forall_mem_singleton.mpr ink) rest
  rw [afterBlanks, begun, exactly, if_pos rfl]

/-- A written instant is read as the instant. -/
theorem relaxed_instant?_text (instant : Instant) :
    relaxedInstant? instant.text = some instant := by
  obtain ⟨date, time⟩ := instant
  obtain ⟨month, day⟩ := day_small date
  obtain ⟨hour, minute, second⟩ := time_small time
  have hyphen : Text.isBlank '-' = false := by decide
  have colon : Text.isBlank ':' = false := by decide
  have nanos : time.shownNanos < 1000000000 := Nat.mod_lt _ (by decide)
  have yearEnds (rest : List Char) : ∀ c ∈ ('-' :: rest).head?, Decimal.isDigit c = false := by
    rintro c ⟨⟩
    decide
  have fractionEnds : ∀ c ∈ ['Z'].head?, Decimal.isDigit c = false ∧ c ≠ '.' := by
    rintro c ⟨⟩
    decide
  have zone : relaxedOffset (Text.trimStart ['Z']) = some (0, []) := by decide
  have utc : instantOf date.year date.month date.day time 0 = some ⟨date, time⟩ := by
    simp [instantOf, Date.make?, date.valid, Timestamp.earlier?_zero]
  simp only [relaxedInstant?, Instant.text, Timestamp.textWith, Date.text, TimeOfDay.text,
    TimeOfDay.clockText, List.append_assoc, List.cons_append, Option.bind_eq_bind]
  -- one step for each part of the text, in its order
  refine Option.bind_eq_some_iff.mpr ⟨_, year_year_text date.year _ (yearEnds _), ?_⟩
  refine Option.bind_eq_some_iff.mpr ⟨_, after_blanks_cons hyphen _, ?_⟩
  refine Option.bind_eq_some_iff.mpr ⟨_, number_padded 2 date.month month (by decide) _, ?_⟩
  refine Option.bind_eq_some_iff.mpr ⟨_, after_blanks_cons hyphen _, ?_⟩
  refine Option.bind_eq_some_iff.mpr ⟨_, number_padded 2 date.day day (by decide) _, ?_⟩
  refine Option.bind_eq_some_iff.mpr ⟨_, rfl, ?_⟩
  refine Option.bind_eq_some_iff.mpr
    ⟨_, number_padded 2 time.hour (show _ < 100 by omega) (by decide) _, ?_⟩
  refine Option.bind_eq_some_iff.mpr ⟨_, after_blanks_cons colon _, ?_⟩
  refine Option.bind_eq_some_iff.mpr
    ⟨_, number_padded 2 time.minute (show _ < 100 by omega) (by decide) _, ?_⟩
  refine Option.bind_eq_some_iff.mpr ⟨_, after_blanks_cons colon _, ?_⟩
  refine Option.bind_eq_some_iff.mpr
    ⟨_, number_padded 2 time.shownSecond (show _ < 100 by omega) (by decide) _, ?_⟩
  refine Option.bind_eq_some_iff.mpr ⟨_, fraction_fraction_text nanos fractionEnds, ?_⟩
  refine Option.bind_eq_some_iff.mpr ⟨_, zone, ?_⟩
  refine Option.bind_eq_some_iff.mpr ⟨_, time_of_shown time, ?_⟩
  rw [List.all_nil, if_pos rfl, utc]

end Read

end SqlAccess.Calendar
