import Mathlib.Algebra.Field.Rat
import Mathlib.Data.List.TakeWhile
import SqlAccess.Literal
import SqlAccess.Proofs.Decimal.Digits

/-!
# The number in a text

Figures are digits with at most one point among them, and a decimal text is figures behind an
optional sign. It stands for one rational number, and what is read of it as an integer is that
number too.
-/

namespace SqlAccess

/-- At least one digit, and at most one point. -/
structure Figures (body : List Char) : Prop where
  legible : ∀ c ∈ body, Decimal.isDigit c = true ∨ c = '.'
  digit : ∃ c ∈ body, Decimal.isDigit c = true
  onePoint : body.count '.' ≤ 1

/-- A decimal text is figures behind its sign. -/
theorem is_decimal_text_iff (s : List Char) : isDecimalText s = true ↔ Figures (unsigned s) := by
  simp only [isDecimalText, Bool.and_eq_true, List.all_eq_true, List.any_eq_true,
    Bool.or_eq_true, beq_iff_eq, decide_eq_true_eq]
  constructor
  · rintro ⟨⟨legible, digit⟩, onePoint⟩
    exact ⟨legible, digit, onePoint⟩
  · rintro ⟨legible, digit, onePoint⟩
    exact ⟨⟨legible, digit⟩, onePoint⟩

/-- The number in figures: that of all the digits, less a factor of ten for every digit behind the
point. -/
def figuresNumber (body : List Char) : ℚ :=
  let whole := body.takeWhile (· != '.')
  let fraction := (body.dropWhile (· != '.')).drop 1
  (Nat.ofDigitChars 10 (whole ++ fraction) 0 : ℚ) / 10 ^ fraction.length

/-- The number in a decimal text; none in any other. -/
def numberIn? (s : List Char) : Option ℚ :=
  if isDecimalText s then
    match s with
    | '-' :: body => some (-figuresNumber body)
    | '+' :: body | body => some (figuresNumber body)
  else none

/-- The number that a literal denotes. -/
def Literal.number? : Literal → Option ℚ
  | .int i => some i.toInt
  | .decimal digits => numberIn? digits.toList
  | _ => none

/-- A decimal text has a number in it. -/
theorem number_in?_is_some (s : List Char) : (numberIn? s).isSome = isDecimalText s := by
  unfold numberIn?
  split
  · split <;> simp_all
  · simp_all

/-- No digit is a sign or a point. -/
theorem is_digit_ne {c : Char} (digit : Decimal.isDigit c = true) :
    c ≠ '.' ∧ c ≠ '-' ∧ c ≠ '+' := by
  refine ⟨?_, ?_, ?_⟩ <;> rintro rfl <;> exact absurd digit (by decide)

/-- No point stands among digits. -/
theorem count_point {s : List Char} (digits : s.all Decimal.isDigit = true) : s.count '.' = 0 :=
  List.count_eq_zero_of_not_mem fun member =>
    (is_digit_ne (List.all_eq_true.mp digits '.' member)).1 rfl

/-- Digits are figures. -/
theorem Figures.of_digits {s : List Char} (nonempty : s ≠ [])
    (digits : s.all Decimal.isDigit = true) : Figures s where
  legible := fun c member => Or.inl (List.all_eq_true.mp digits c member)
  digit := by
    obtain ⟨c, member⟩ := List.exists_mem_of_ne_nil s nonempty
    exact ⟨c, member, List.all_eq_true.mp digits c member⟩
  onePoint := by
    rw [count_point digits]
    exact Nat.zero_le 1

/-- Digits on both sides of a point are figures. -/
theorem Figures.of_point {whole fraction : List Char} (nonempty : whole ++ fraction ≠ [])
    (wholeDigits : whole.all Decimal.isDigit = true)
    (fractionDigits : fraction.all Decimal.isDigit = true) :
    Figures (whole ++ '.' :: fraction) where
  legible := by
    intro c member
    rcases List.mem_append.mp member with before | after
    · exact Or.inl (List.all_eq_true.mp wholeDigits c before)
    · rcases List.mem_cons.mp after with rfl | behind
      · exact Or.inr rfl
      · exact Or.inl (List.all_eq_true.mp fractionDigits c behind)
  digit := by
    have digits : (whole ++ fraction).all Decimal.isDigit = true := by
      rw [List.all_append, wholeDigits, fractionDigits]
      rfl
    obtain ⟨c, member, digit⟩ := (Figures.of_digits nonempty digits).digit
    refine ⟨c, ?_, digit⟩
    simp only [List.mem_append, List.mem_cons] at member ⊢
    exact member.imp_right Or.inr
  onePoint := by
    rw [List.count_append, List.count_cons_self, count_point wholeDigits,
      count_point fractionDigits]

/-- Figures do not begin with a sign. -/
theorem Figures.unsigned_eq {s : List Char} (figures : Figures s) : unsigned s = s := by
  unfold unsigned
  split
  · exact absurd (figures.legible '-' List.mem_cons_self) (by decide)
  · exact absurd (figures.legible '+' List.mem_cons_self) (by decide)
  · rfl

/-- Figures are a decimal text. -/
theorem Figures.is_decimal_text {s : List Char} (figures : Figures s) :
    isDecimalText s = true := by
  rw [is_decimal_text_iff, figures.unsigned_eq]
  exact figures

/-- The number in figures without a sign. -/
theorem number_in?_of_figures {s : List Char} (figures : Figures s) :
    numberIn? s = some (figuresNumber s) := by
  unfold numberIn?
  rw [if_pos figures.is_decimal_text]
  split
  · exact absurd (figures.legible '-' List.mem_cons_self) (by decide)
  · exact absurd (figures.legible '+' List.mem_cons_self) (by decide)
  · rfl

/-- Figures behind a minus are a decimal text. -/
theorem Figures.is_decimal_text_minus {s : List Char} (figures : Figures s) :
    SqlAccess.isDecimalText ('-' :: s) = true := (is_decimal_text_iff _).mpr figures

/-- The characters of decimal texts. -/
def numeralInk : List Char := "0123456789.-+".toList

/-- A decimal text consists of digits, points and signs. -/
theorem numeral_ink_of_is_decimal_text {s : List Char} (decimal : isDecimalText s = true) :
    ∀ c ∈ s, c ∈ numeralInk := by
  have figures := (is_decimal_text_iff s).mp decimal
  have legible (c : Char) (member : c ∈ unsigned s) : c ∈ numeralInk := by
    rcases figures.legible c member with digit | rfl
    · exact List.mem_append_left ['.', '-', '+'] (Decimal.mem_digits digit)
    · decide
  intro c member
  unfold unsigned at legible
  split at legible
  · rcases List.mem_cons.mp member with rfl | later
    · decide
    · exact legible c later
  · rcases List.mem_cons.mp member with rfl | later
    · decide
    · exact legible c later
  · exact legible c member

/-- A decimal text is not empty. -/
theorem ne_nil_of_is_decimal_text {s : List Char} (decimal : isDecimalText s = true) :
    s ≠ [] := by
  rintro rfl
  exact absurd decimal (by decide)

/-- The number in digits is the natural that they are read as. -/
theorem figures_number_of_nat_value? {s : List Char} {n : Nat}
    (reads : Decimal.natValue? s = some n) : Figures s ∧ figuresNumber s = n := by
  obtain ⟨nonempty, digits, value⟩ := Decimal.nat_value?_eq_some_iff.mp reads
  refine ⟨Figures.of_digits nonempty digits, ?_⟩
  have noPoint : ∀ c ∈ s, (c != '.') = true := fun c member =>
    bne_iff_ne.mpr (is_digit_ne (List.all_eq_true.mp digits c member)).1
  have whole : s.takeWhile (· != '.') = s := List.takeWhile_eq_self_iff.mpr noPoint
  have fraction : s.dropWhile (· != '.') = [] := List.dropWhile_eq_nil_iff.mpr noPoint
  simp [figuresNumber, whole, fraction, value]

/-- The number in a text that is read as an integer is this integer. -/
theorem number_in?_of_int_value? {s : List Char} {i : Int} (reads : Decimal.intValue? s = some i) :
    numberIn? s = some (i : ℚ) := by
  rcases Decimal.int_value?_cases reads with
    ⟨body, n, rfl, natural, rfl⟩ | ⟨body, n, rfl, natural, rfl⟩ | ⟨n, natural, rfl⟩
  · obtain ⟨figures, value⟩ := figures_number_of_nat_value? natural
    simp [numberIn?, figures.is_decimal_text_minus, value]
  · obtain ⟨figures, value⟩ := figures_number_of_nat_value? natural
    have decimal : isDecimalText ('+' :: body) = true := (is_decimal_text_iff _).mpr figures
    simp [numberIn?, decimal, value]
  · obtain ⟨figures, value⟩ := figures_number_of_nat_value? natural
    rw [number_in?_of_figures figures, value, Int.cast_natCast]

/-- What is written of an integer is a decimal text. -/
theorem is_decimal_text_of_int (i : Int) : isDecimalText (Decimal.ofInt i) = true := by
  rw [← number_in?_is_some, number_in?_of_int_value? (Decimal.int_value?_of_int i),
    Option.isSome_some]

end SqlAccess
