import SqlAccess.Decimal.Digits

/-!
# Digits read back

A run of digits is read as the number that core gives it, and nothing else is read. So what is
written of a natural, of an integer and of a number filled up with zeros reads back as the number.
An integer is written in canonical form, and zeros behind a natural are powers of ten.
-/

namespace SqlAccess.Decimal

/-- Digits are the characters from zero to nine. -/
theorem is_digit_iff (c : Char) : isDigit c = true ↔ 48 ≤ c.toNat ∧ c.toNat ≤ 57 := by
  unfold isDigit digitValue?
  split <;> simp_all

/-- The digits are core's. -/
theorem is_digit_of_core {c : Char} (digit : c.isDigit = true) : isDigit c = true := by
  rw [Char.isDigit, Bool.and_eq_true, decide_eq_true_iff, decide_eq_true_iff] at digit
  exact (is_digit_iff c).mpr digit

/-- The ten digits. -/
theorem mem_digits {c : Char} (digit : isDigit c = true) : c ∈ "0123456789".toList := by
  obtain ⟨low, high⟩ := (is_digit_iff c).mp digit
  have each : ∀ n < 58, 48 ≤ n → Char.ofNat n ∈ "0123456789".toList := by decide
  rw [← c.ofNat_toNat]
  exact each c.toNat (by omega) low

/-- The number of a digit is its distance from zero. -/
theorem digit_value?_of_is_digit {c : Char} (digit : isDigit c = true) :
    digitValue? c = some (c.toNat - 48) := by
  simp [digitValue?, (is_digit_iff c).mp digit]

/-- A run of digits is read as core reads it. -/
theorem value_from_of_digits {s : List Char} (digits : s.all isDigit = true) (start : Nat) :
    valueFrom start s = some (Nat.ofDigitChars 10 s start) := by
  induction s generalizing start with
  | nil => simp [valueFrom]
  | cons c rest inductionHypothesis =>
    obtain ⟨first, others⟩ := Bool.and_eq_true_iff.mp (List.all_cons.symm.trans digits)
    rw [valueFrom, digit_value?_of_is_digit first, Option.bind_some, inductionHypothesis others,
      Nat.ofDigitChars_cons]
    rfl

/-- Only a run of digits is read. -/
theorem digits_of_value_from {s : List Char} {start n : Nat} (reads : valueFrom start s = some n) :
    s.all isDigit = true := by
  induction s generalizing start with
  | nil => rfl
  | cons c rest inductionHypothesis =>
    rw [valueFrom, Option.bind_eq_some_iff] at reads
    obtain ⟨d, digit, later⟩ := reads
    simp [isDigit, digit, inductionHypothesis later]

/-- The texts that are read as naturals are the runs of digits that are not empty. -/
theorem nat_value?_eq_some_iff {s : List Char} {n : Nat} :
    natValue? s = some n ↔ s ≠ [] ∧ s.all isDigit = true ∧ Nat.ofDigitChars 10 s 0 = n := by
  cases s with
  | nil => simp [natValue?]
  | cons c rest =>
    constructor
    · intro reads
      have digits := digits_of_value_from reads
      rw [natValue?, value_from_of_digits digits] at reads
      exact ⟨List.cons_ne_nil c rest, digits, Option.some.inj reads⟩
    · rintro ⟨_, digits, rfl⟩
      rw [natValue?, value_from_of_digits digits]

/-- A natural is written in digits. -/
theorem digits_of_nat (n : Nat) : (ofNat n).all isDigit = true := by
  rw [List.all_eq_true]
  intro c member
  exact is_digit_of_core (Nat.isDigit_of_mem_toDigits (by decide) (by decide) member)

/-- A natural is written in one digit at least. -/
theorem of_nat_ne_nil (n : Nat) : ofNat n ≠ [] := Nat.toDigits_ne_nil

/-- The number of digits is the magnitude of a natural. -/
theorem length_of_nat {n : Nat} (nonzero : n ≠ 0) :
    Nat.pow 10 ((ofNat n).length - 1) ≤ n ∧ n < Nat.pow 10 (ofNat n).length := by
  have some : 0 < (ofNat n).length := List.length_pos_iff.mpr (of_nat_ne_nil n)
  refine ⟨?_, (Nat.length_toDigits_le_iff (by decide) some).mp (Nat.le_refl _)⟩
  by_cases one : (ofNat n).length = 1
  · rw [one]
    exact Nat.one_le_iff_ne_zero.mpr nonzero
  · refine Nat.le_of_not_lt fun below => ?_
    have fewer := (Nat.length_toDigits_le_iff (n := n) (by decide)
      (by omega : 0 < (ofNat n).length - 1)).mpr below
    rw [ofNat] at some fewer
    omega

/-- A natural, zero apart, does not begin with a zero. -/
theorem of_nat_leading {n : Nat} (nonzero : n ≠ 0) :
    ∃ c rest, ofNat n = c :: rest ∧ c ≠ '0' := by
  induction n using Nat.strongRecOn with
  | ind n inductionHypothesis =>
    unfold ofNat at inductionHypothesis ⊢
    by_cases small : n < 10
    · have each : ∀ m < 10, m ≠ 0 → Nat.digitChar m ≠ '0' := by decide
      exact ⟨_, [], Nat.toDigits_of_lt_base small, each n small nonzero⟩
    · obtain ⟨c, rest, shape, leading⟩ := inductionHypothesis (n / 10) (by omega) (by omega)
      rw [Nat.toDigits_of_base_le (by decide) (Nat.le_of_not_lt small), shape]
      exact ⟨c, _, List.cons_append, leading⟩

/-- A natural, zero apart, times a power of ten is written with that many zeros behind it. -/
theorem of_nat_mul_pow {n : Nat} (nonzero : n ≠ 0) (count : Nat) :
    ofNat (n * Nat.pow 10 count) = ofNat n ++ List.replicate count '0' := by
  induction count with
  | zero => simp
  | succ count inductionHypothesis =>
    have positive : 0 < n * Nat.pow 10 count :=
      Nat.mul_pos (Nat.pos_of_ne_zero nonzero) (Nat.pow_pos (by decide))
    have shifted : n * Nat.pow 10 (count + 1) = 10 * (n * Nat.pow 10 count) + 0 := by
      rw [Nat.add_zero, Nat.mul_comm 10, Nat.mul_assoc]
      rfl
    calc ofNat (n * Nat.pow 10 (count + 1))
        = ofNat (n * Nat.pow 10 count) ++ ofNat 0 := by
          rw [shifted]
          exact (Nat.toDigits_append_toDigits (by decide) positive (by decide)).symm
      _ = ofNat n ++ List.replicate (count + 1) '0' := by
          rw [inductionHypothesis, List.append_assoc, List.replicate_succ']
          rfl

/-- What is written of a natural reads back as it. -/
theorem nat_value?_of_nat (n : Nat) : natValue? (ofNat n) = some n :=
  nat_value?_eq_some_iff.mpr ⟨of_nat_ne_nil n, digits_of_nat n, Nat.ofDigitChars_ten_toDigits⟩

/-- Zeros are digits. -/
theorem digits_zeros (count : Nat) : (List.replicate count '0').all isDigit = true := by
  rw [List.all_replicate]
  split
  · rfl
  · decide

/-- Zeros in front of digits are digits. -/
theorem digits_padded (width n : Nat) : (padded width n).all isDigit = true := by
  rw [padded, List.all_append, digits_zeros, digits_of_nat]
  rfl

/-- Something is written of every natural, with zeros in front too. -/
theorem padded_ne_nil (width n : Nat) : padded width n ≠ [] :=
  List.append_ne_nil_of_right_ne_nil _ (of_nat_ne_nil n)

/-- Zeros in front of digits do not change their number. -/
theorem nat_value?_padded (width n : Nat) : natValue? (padded width n) = some n := by
  refine nat_value?_eq_some_iff.mpr ⟨padded_ne_nil width n, digits_padded width n, ?_⟩
  rw [padded, Nat.ofDigitChars_append, Nat.ofDigitChars_replicate_zero, Nat.mul_zero]
  exact Nat.ofDigitChars_ten_toDigits

/-- A natural that fits a width fills it. -/
theorem length_padded {width n : Nat} (fits : n < Nat.pow 10 width) (positive : 0 < width) :
    (padded width n).length = width := by
  have short : (ofNat n).length ≤ width :=
    (Nat.length_toDigits_le_iff (by decide) positive).mpr fits
  simp only [padded, List.length_append, List.length_replicate]
  omega

/-- The longest run of digits at the start ends before what is none. -/
theorem take_while_digits {s rest : List Char} (digits : s.all isDigit = true)
    (stops : ∀ c ∈ rest.head?, isDigit c = false) : (s ++ rest).takeWhile isDigit = s := by
  rw [List.takeWhile_append_of_pos (List.all_eq_true.mp digits)]
  cases rest with
  | nil => simp
  | cons c others => simp [stops c rfl]

/-- What follows the digits at the start is left. -/
theorem drop_while_digits {s rest : List Char} (digits : s.all isDigit = true)
    (stops : ∀ c ∈ rest.head?, isDigit c = false) : (s ++ rest).dropWhile isDigit = rest := by
  rw [List.dropWhile_append_of_pos (List.all_eq_true.mp digits)]
  cases rest with
  | nil => rfl
  | cons c others => simp [stops c rfl]

/-- Different naturals are written differently. -/
theorem nat_text_injective {first second : Nat} (same : natText first = natText second) :
    first = second := by
  have digits : ofNat first = ofNat second := String.ofList_injective same
  have read := congrArg natValue? digits
  rw [nat_value?_of_nat, nat_value?_of_nat] at read
  exact Option.some.inj read

/-- A natural can be told from what follows it, where that begins with no digit. -/
theorem of_nat_append_inj {first second : Nat} {rest other : List Char}
    (stops : ∀ c ∈ rest.head?, isDigit c = false)
    (stopsOther : ∀ c ∈ other.head?, isDigit c = false)
    (same : ofNat first ++ rest = ofNat second ++ other) : first = second ∧ rest = other := by
  constructor
  · have digits := congrArg (List.takeWhile isDigit) same
    rw [take_while_digits (digits_of_nat first) stops,
      take_while_digits (digits_of_nat second) stopsOther] at digits
    exact nat_text_injective (congrArg String.ofList digits)
  · have left := congrArg (List.dropWhile isDigit) same
    rwa [drop_while_digits (digits_of_nat first) stops,
      drop_while_digits (digits_of_nat second) stopsOther] at left

/-- Digits without a sign are read as a natural. -/
theorem int_value?_of_digits {s : List Char} (digits : s.all isDigit = true) :
    intValue? s = (natValue? s).map Int.ofNat := by
  unfold intValue?
  split
  · exact absurd digits (by simp [isDigit, digitValue?])
  · exact absurd digits (by simp [isDigit, digitValue?])
  · rfl

/-- An integer is read as a natural, behind one of the signs or without. -/
theorem int_value?_cases {s : List Char} {i : Int} (reads : intValue? s = some i) :
    (∃ body n, s = '-' :: body ∧ natValue? body = some n ∧ i = -(n : Int)) ∨
      (∃ body n, s = '+' :: body ∧ natValue? body = some n ∧ i = (n : Int)) ∨
      ∃ n, natValue? s = some n ∧ i = (n : Int) := by
  unfold intValue? at reads
  split at reads
  · rename_i body
    cases natural : natValue? body with
    | none => simp [natural] at reads
    | some n => exact Or.inl ⟨body, n, rfl, natural, by simpa [natural, eq_comm] using reads⟩
  · rename_i body
    obtain ⟨n, natural, rfl⟩ := Option.map_eq_some_iff.mp reads
    exact Or.inr (Or.inl ⟨body, n, rfl, natural, rfl⟩)
  · obtain ⟨n, natural, rfl⟩ := Option.map_eq_some_iff.mp reads
    exact Or.inr (Or.inr ⟨n, natural, rfl⟩)

/-- A natural is an integer behind the sign that it is given, but zero has none. -/
theorem of_int_signed {n : Nat} {negative : Bool} (unsignedZero : n = 0 → negative = false) :
    ofInt (if negative then -n else n) = (if negative then ['-'] else []) ++ ofNat n := by
  cases negative with
  | false => simp [ofInt, Int.not_lt_of_ge (Int.natCast_nonneg n)]
  | true =>
    have some : n ≠ 0 := fun zero => absurd (unsignedZero zero) (by decide)
    simp [ofInt, Nat.pos_of_ne_zero some]

/-- A natural behind a sign is read as an integer, zero too. -/
theorem int_value?_signed (negative : Bool) (n : Nat) :
    intValue? ((if negative then ['-'] else []) ++ ofNat n) =
      some (if negative then -(n : Int) else n) := by
  cases negative with
  | false =>
    simp only [Bool.false_eq_true, if_false, List.nil_append,
      int_value?_of_digits (digits_of_nat n),
      nat_value?_of_nat]
    rfl
  | true => simp [intValue?, nat_value?_of_nat]

/-- What is written of an integer reads back as it. -/
theorem int_value?_of_int (i : Int) : intValue? (ofInt i) = some i := by
  by_cases negative : i < 0
  · have turned : -(i.natAbs : Int) = i := by omega
    simp only [ofInt, negative, if_true, intValue?, nat_value?_of_nat]
    exact congrArg some turned
  · have same : Int.ofNat i.natAbs = i := by
      rw [Int.ofNat_eq_natCast]
      omega
    rw [ofInt, if_neg negative, int_value?_of_digits (digits_of_nat _), nat_value?_of_nat,
      Option.map_some, same]

/-- Different integers are written differently. -/
theorem of_int_injective {i j : Int} (same : ofInt i = ofInt j) : i = j := by
  have read := congrArg intValue? same
  rw [int_value?_of_int, int_value?_of_int] at read
  exact Option.some.inj read

/-- An integer is written in digits, behind a minus sign if any. -/
theorem mem_of_int {i : Int} {c : Char} (member : c ∈ ofInt i) : c ∈ "-0123456789".toList := by
  have digits (n : Nat) (digit : c ∈ ofNat n) : c ∈ "-0123456789".toList :=
    List.mem_cons_of_mem _ (mem_digits (List.all_eq_true.mp (digits_of_nat n) c digit))
  unfold ofInt at member
  split at member
  · rcases List.mem_cons.mp member with sign | digit
    · rw [sign]
      exact List.mem_cons_self
    · exact digits _ digit
  · exact digits _ member

/-- The canonical form of an integer: zero, or digits that do not begin with zero, behind a minus
or without. -/
inductive Canonical : List Char → Prop
  | zero : Canonical ['0']
  | positive {c : Char} {rest : List Char} (leading : c ≠ '0')
      (digits : (c :: rest).all isDigit = true) : Canonical (c :: rest)
  | negative {c : Char} {rest : List Char} (leading : c ≠ '0')
      (digits : (c :: rest).all isDigit = true) : Canonical ('-' :: c :: rest)

/-- Zero has no sign. -/
theorem not_canonical_negative_zero : ¬Canonical ['-', '0'] := by
  intro canonical
  cases canonical with
  | positive _ digits => exact absurd digits (by decide)
  | negative leading _ => exact leading rfl

/-- An integer is written in canonical form. -/
theorem canonical_of_int (i : Int) : Canonical (ofInt i) := by
  by_cases zero : i = 0
  · subst zero
    exact Canonical.zero
  · obtain ⟨c, rest, shape, leading⟩ := of_nat_leading (Int.natAbs_ne_zero.mpr zero)
    have digits := digits_of_nat i.natAbs
    rw [ofInt, shape]
    rw [shape] at digits
    split
    · exact Canonical.negative leading digits
    · exact Canonical.positive leading digits

/-- An integer of 64 signed bits reads back as it. -/
theorem int64_value?_of_int {i : Int} (fits : fitsSigned 64 i = true) :
    int64Value? (ofInt i) = some i := by
  rw [int64Value?, int_value?_of_int, Option.filter_some, if_pos fits]

/-- What is read as an integer of 64 signed bits fits them. -/
theorem fits_of_int64_value? {s : List Char} {i : Int} (reads : int64Value? s = some i) :
    intValue? s = some i ∧ fitsSigned 64 i = true := Option.filter_eq_some_iff.mp reads

/-- An integer of 64 signed bits is its own number. -/
theorem to_int_of_int_of_fits {i : Int} (fits : fitsSigned 64 i = true) :
    (Int64.ofInt i).toInt = i := by
  have bounds : i < 9223372036854775808 ∧ -9223372036854775808 ≤ i := by
    simpa [fitsSigned] using fits
  exact Int64.toInt_ofInt_of_le (by omega) (by omega)

/-- A number of the machine fits 64 signed bits. -/
theorem fits_to_int (i : Int64) : fitsSigned 64 i.toInt = true := by
  have below := Int64.toInt_lt i
  have above := Int64.le_toInt i
  simp only [fitsSigned, Bool.and_eq_true, decide_eq_true_eq]
  exact ⟨below, above⟩

end SqlAccess.Decimal
