import SqlAccess.Proofs.Decimal.Whole
import SqlAccess.Proofs.Literal.Restoration

/-!
# Defaults of integer columns

Integers, truth values and texts are written under an integer type as an integer of 64 signed bits,
in canonical form, and as the one that was given. A binary fraction takes another way: it is
written from the fewest digits that identify it, without a look at its range. So the sign of zero
stays, numbers beyond 64 bits are written, and the last digits of large numbers are zeros in the
place of others. Integral numbers below two to the power of 53 are not concerned.

Main statement: `writes_integer_iff`.
-/

namespace SqlAccess

namespace Binary64

/-- The number that a finite one stands for. -/
def value (x : Binary64) : ℚ := if x.isNegative then -x.magnitude.value else x.magnitude.value

/-- A number that is an integer of 64 bits and has no digits but those that identify it, and no
sign where it is zero. -/
structure StandsExactly (x : Binary64) : Prop where
  unsignedZero : x.isZero = true → x.isNegative = false
  allDigits : x.isZero = false → (x.magnitude.shortest .upward).value = x.magnitude.value
  inRange : -2 ^ 63 ≤ x.value ∧ x.value ≤ 2 ^ 63 - 1

/-- The number of zero, of either sign. -/
theorem value_of_is_zero {x : Binary64} (zero : x.isZero = true) : x.value = 0 := by
  obtain ⟨exponent, fraction⟩ := Bool.and_eq_true_iff.mp zero
  have magnitude : x.magnitude.value = 0 := by
    rw [magnitude, if_pos exponent, Decimal.Binary.value, beq_iff_eq.mp fraction, Nat.cast_zero,
      zero_mul]
  simp [value, magnitude]

/-- The sign aside, a number is its magnitude. -/
theorem abs_value (x : Binary64) : |x.value| = x.magnitude.value := by
  have positive : 0 ≤ x.magnitude.value := by
    unfold Decimal.Binary.value
    positivity
  unfold value
  split
  · rw [abs_neg, abs_of_nonneg positive]
  · exact abs_of_nonneg positive

/-- The magnitude of an integral number is a natural. -/
theorem whole_of_is_integral {x : Binary64} (integral : x.isIntegral = true) :
    x.isFinite = true ∧ ∃ n : Nat, x.magnitude.value = n := by
  obtain ⟨finite, divides⟩ := Bool.and_eq_true_iff.mp integral
  have quotient := Nat.div_mul_cancel (Nat.dvd_of_mod_eq_zero (beq_iff_eq.mp divides))
  exact ⟨finite, _, Decimal.Binary.value_eq_iff.mpr quotient.symm⟩

/-- Statements write a number without digits behind the point as a natural. -/
theorem layout_eq_of_nat {d : Decimal.Scaled} (nonzero : d.digits ≠ 0) (whole : 0 ≤ d.scale)
    (low : statementStyle.plainFrom ≤ d.scale + (Decimal.ofNat d.digits).length - 1)
    (high : d.scale + (Decimal.ofNat d.digits).length - 1 < statementStyle.plainBelow) :
    statementStyle.layout d = Decimal.ofNat d.natural := by
  unfold Style.layout
  simp only [low, high, whole, and_self, if_true]
  rw [Decimal.Scaled.natural, Decimal.of_nat_mul_pow nonzero]
  exact List.append_nil _

/-- What is written of an integral number is its sign and a natural: zero of zero, else that of the
fewest digits. -/
theorem exists_written {x : Binary64} (integral : x.isIntegral = true) :
    ∃ n : Nat,
      x.statementText.toList = (if x.isNegative then ['-'] else []) ++ Decimal.ofNat n ∧
        (n = 0 ↔ x.isZero = true) ∧
        (x.isZero = false → (x.magnitude.shortest .upward).value = n) := by
  obtain ⟨finite, n, whole⟩ := whole_of_is_integral integral
  rw [statement_text_of_is_finite finite]
  cases zero : x.isZero with
  | true => exact ⟨0, rfl, by simp, by simp⟩
  | false =>
    obtain ⟨⟨positive, short⟩, _⟩ := magnitude_bounds finite zero
    obtain ⟨digits, low, high⟩ := statement_style_reaches finite zero .upward
    have behind := Decimal.Binary.scale_shortest_nonneg positive short whole .upward
    have some : (x.magnitude.shortest .upward).natural ≠ 0 :=
      Nat.mul_ne_zero digits (Nat.pow_pos (by decide)).ne'
    rw [layout_eq_of_nat digits behind low high]
    exact ⟨_, rfl, by simp [some], fun _ => Decimal.Scaled.value_eq_natural behind⟩

/-- The text of an integral number that stands exactly is that of an integer. -/
theorem StandsExactly.statement_text {x : Binary64} (exact : x.StandsExactly)
    (integral : x.isIntegral = true) :
    ∃ i : Int, x.value = i ∧ x.statementText = Decimal.intText i := by
  obtain ⟨n, text, zero, shortest⟩ := exists_written integral
  refine ⟨if x.isNegative then -n else n, ?_, ?_⟩
  · cases nothing : x.isZero with
    | true => simp [value_of_is_zero nothing, zero.mpr nothing]
    | false =>
      rw [value, ← exact.allDigits nothing, shortest nothing]
      split <;> simp
  · rw [Decimal.intText, Decimal.of_int_signed fun none => exact.unsignedZero (zero.mp none),
      ← text, String.ofList_toList]

/-- Every integral number below two to the power of 53 stands exactly, negative zero apart. -/
theorem stands_exactly_of_lt {x : Binary64} (integral : x.isIntegral = true)
    (small : |x.value| < 2 ^ 53) (unsignedZero : x.isZero = true → x.isNegative = false) :
    x.StandsExactly where
  unsignedZero := unsignedZero
  allDigits := by
    intro nonzero
    obtain ⟨finite, n, whole⟩ := whole_of_is_integral integral
    obtain ⟨⟨positive, short⟩, _⟩ := magnitude_bounds finite nonzero
    refine Decimal.Binary.value_shortest positive short whole ?_ .upward
    by_contra coarse
    -- The step is two or more, so the number is normal and has 53 bits before the step.
    have bits : (2 : ℚ) ^ 52 ≤ x.magnitude.m := by
      exact_mod_cast x.magnitude_normal.resolve_right (by omega)
    have step : (2 : ℚ) ^ (1 : Int) ≤ 2 ^ x.magnitude.q :=
      zpow_le_zpow_right₀ one_le_two (by omega)
    have large : (2 : ℚ) ^ 53 ≤ x.magnitude.value := by
      calc (2 : ℚ) ^ 53 = 2 ^ 52 * 2 ^ (1 : Int) := by norm_num
        _ ≤ x.magnitude.value := mul_le_mul bits step (by positivity) (by positivity)
    rw [abs_value] at small
    exact absurd small (not_lt.mpr large)
  inRange := by
    obtain ⟨low, high⟩ := abs_lt.mp small
    constructor <;> linarith

end Binary64

namespace Literal

/-- The number that a value denotes: that of an integer, of a truth value as zero or one, of a
finite binary fraction, or of a decimal text with blanks around it. -/
def quantity? : Literal → Option ℚ
  | .int i => some i.toInt
  | .bool b => some (if b then 1 else 0)
  | .float x => if x.isFinite then some x.value else none
  | value => value.numeral?.bind numberIn?

/-- The text is the canonical form of an integer of 64 signed bits, and this is the number that the
value denotes. -/
def WritesInteger (value : Literal) (t : String) : Prop :=
  ∃ i : Int, Decimal.Canonical t.toList ∧ Decimal.intValue? t.toList = some i ∧
    (-2 ^ 63 ≤ i ∧ i ≤ 2 ^ 63 - 1) ∧ value.quantity? = some (i : ℚ)

/-- The text of an integer in the range is its canonical form. -/
theorem writes_integer_int_text {value : Literal} {i : Int}
    (inRange : -2 ^ 63 ≤ i ∧ i ≤ 2 ^ 63 - 1) (denoted : value.quantity? = some (i : ℚ)) :
    WritesInteger value (Decimal.intText i) := by
  refine ⟨i, ?_, ?_, inRange, denoted⟩
  · rw [Decimal.intText, String.toList_ofList]
    exact Decimal.canonical_of_int i
  · rw [Decimal.intText, String.toList_ofList, Decimal.int_value?_of_int]

/-- A value that is no binary fraction is written as an integer of 64 signed bits, and denotes
it. -/
theorem format_integer_eq {value : Literal} {t : String} (inexact : ∀ x, value ≠ .float x)
    (written : formatInteger value = .ok t) :
    ∃ i : Int64, t = Decimal.intText i.toInt ∧ value.quantity? = some (i.toInt : ℚ) := by
  have found := eq_some_of_or_refuse written
  split at found
  · rename_i i
    cases found
    exact ⟨i, rfl, rfl⟩
  · rename_i truth
    cases found
    refine ⟨if truth then 1 else 0, ?_, ?_⟩
    · cases truth <;> decide
    · cases truth <;> rfl
  · rename_i x
    exact absurd rfl (inexact x)
  · obtain ⟨i, reads, rfl⟩ := Option.map_eq_some_iff.mp found
    obtain ⟨s, numeral, integer⟩ := Option.bind_eq_some_iff.mp reads
    obtain ⟨whole, fits⟩ := Decimal.fits_of_int64_value? integer
    refine ⟨Int64.ofInt i, ?_, ?_⟩
    · rw [Decimal.to_int_of_int_of_fits fits]
    · rw [Decimal.to_int_of_int_of_fits fits]
      cases value <;> simp_all [quantity?, numeral?, number_in?_of_int_value? whole]

/-- A value that is no binary fraction is written as the integer that it denotes. -/
theorem writes_integer_of_inexact {value : Literal} {t : String}
    (inexact : ∀ x, value ≠ .float x)
    (written : formatInteger value = .ok t) : WritesInteger value t := by
  obtain ⟨i, rfl, denoted⟩ := format_integer_eq inexact written
  exact writes_integer_int_text ⟨i.le_toInt, Int.le_sub_one_of_lt i.toInt_lt⟩ denoted

/-- An integral binary fraction that is written as the integer that it is stands exactly. -/
theorem stands_exactly_of_writes_integer {x : Binary64} (integral : x.isIntegral = true)
    (writes : WritesInteger (.float x) x.statementText) : x.StandsExactly := by
  obtain ⟨i, canonical, reads, inRange, denoted⟩ := writes
  obtain ⟨n, text, zero, shortest⟩ := Binary64.exists_written integral
  rw [text] at canonical reads
  rw [Decimal.int_value?_signed, Option.some_inj] at reads
  have value : x.value = i := by
    rw [quantity?, if_pos (Binary64.whole_of_is_integral integral).1] at denoted
    exact Option.some.inj denoted
  refine ⟨?_, ?_, ?_⟩
  · intro nothing
    by_contra negative
    rw [zero.mpr nothing, eq_true_of_ne_false negative] at canonical
    exact Decimal.not_canonical_negative_zero canonical
  · intro nonzero
    rw [shortest nonzero]
    rw [Binary64.value, ← reads] at value
    split at value
    · rw [Int.cast_neg, neg_inj] at value
      exact value.symm
    · exact value.symm
  · rw [value]
    exact_mod_cast inRange

/-- A binary fraction is written as the integer that it is exactly when it stands exactly. -/
theorem writes_integer_float_iff {x : Binary64} (integral : x.isIntegral = true) :
    WritesInteger (.float x) x.statementText ↔ x.StandsExactly := by
  refine ⟨stands_exactly_of_writes_integer integral, fun exact => ?_⟩
  obtain ⟨i, value, text⟩ := exact.statement_text integral
  have inRange := exact.inRange
  rw [value] at inRange
  rw [text]
  refine writes_integer_int_text (by exact_mod_cast inRange) ?_
  rw [quantity?, if_pos (Binary64.whole_of_is_integral integral).1, value]

/-- A default under an integer type is written as the integer of 64 signed bits that it denotes, in
canonical form, exactly when it is no binary fraction or one that stands exactly.

Proof: what is no binary fraction is written through the integer of 64 bits that it denotes. A
binary fraction is written from its shortest digits, of which it is known what number they are; that
this number is the fraction, in range and without a sign at zero is what standing exactly means. -/
theorem writes_integer_iff {dialect : Dialect} {logical : LogicalType} {value : Literal}
    {t : String} (integer : logical.isInteger = true) (given : value ≠ .null)
    (plain : ∀ sql, value ≠ .expression sql)
    (written : format dialect logical (some value) = .ok t) :
    WritesInteger value t ↔ ∀ x, value = .float x → x.StandsExactly := by
  have written : formatInteger value = .ok t := by
    have named : format dialect logical (some value) = formatValue dialect logical value := by
      unfold format
      split <;> simp_all
    rw [named] at written
    cases logical with
    | tinyInt | smallInt | int | bigInt => exact written
    | _ => cases integer
  by_cases float : ∃ x, value = .float x
  · obtain ⟨x, rfl⟩ := float
    have found := eq_some_of_or_refuse written
    simp only [Option.ite_none_right_eq_some, Option.some_inj] at found
    obtain ⟨integral, rfl⟩ := found
    rw [writes_integer_float_iff integral]
    simp
  · have inexact : ∀ x, value ≠ .float x := not_exists.mp float
    exact iff_of_true (writes_integer_of_inexact inexact written)
      fun x same => absurd same (inexact x)

/-- The largest integer whose neighbours are all binary fractions. -/
theorem writes_integer_largest :
    WritesInteger (.float ⟨0x433FFFFFFFFFFFFF⟩) "9007199254740991" := by
  have written : format .sqlite .bigInt (some (.float ⟨0x433FFFFFFFFFFFFF⟩)) =
      .ok "9007199254740991" := by decide +kernel
  refine (writes_integer_iff rfl (by simp) (by simp) written).mpr ?_
  rintro x ⟨⟩
  refine Binary64.stands_exactly_of_lt (by decide) ?_ (by decide)
  have magnitude :
      Binary64.magnitude ⟨0x433FFFFFFFFFFFFF⟩ = ⟨2 ^ 53 - 1, 0, false⟩ := by decide
  rw [Binary64.abs_value, magnitude, Decimal.Binary.value]
  norm_num

/-- Negative zero keeps its sign, a number beyond 64 bits is written, and the last digits of two to
the power of 60 are zeros. -/
theorem format_misstated :
    (format .sqlite .bigInt (some (.float ⟨0x8000000000000000⟩)) = .ok "-0" ∧
        ¬WritesInteger (.float ⟨0x8000000000000000⟩) "-0") ∧
      (format .sqlite .bigInt (some (.float ⟨0x4415AF1D78B58C40⟩)) =
          .ok "100000000000000000000" ∧
        ¬WritesInteger (.float ⟨0x4415AF1D78B58C40⟩) "100000000000000000000") ∧
      format .sqlite .bigInt (some (.float ⟨0x43B0000000000000⟩)) =
          .ok "1152921504606847000" ∧
        ¬WritesInteger (.float ⟨0x43B0000000000000⟩) "1152921504606847000" := by
  refine ⟨⟨by decide +kernel, ?_⟩, ⟨by decide +kernel, ?_⟩, by decide +kernel, ?_⟩
  · rintro ⟨_, canonical, _⟩
    exact Decimal.not_canonical_negative_zero canonical
  · rintro ⟨i, _, reads, ⟨_, high⟩, _⟩
    have number : Decimal.intValue? "100000000000000000000".toList = some (10 ^ 20) := by decide
    rw [← Option.some.inj (number.symm.trans reads)] at high
    exact absurd high (by decide)
  · rintro ⟨i, _, reads, _, denoted⟩
    have number : Decimal.intValue? "1152921504606847000".toList = some 1152921504606847000 := by
      decide
    have magnitude :
        Binary64.magnitude ⟨0x43B0000000000000⟩ = ⟨2 ^ 52, 8, true⟩ := by decide
    have power : Binary64.value ⟨0x43B0000000000000⟩ = 1152921504606846976 := by
      rw [Binary64.value, if_neg (by decide), magnitude, Decimal.Binary.value]
      norm_num
    have same : (1152921504606846976 : ℚ) = i := by
      rw [← power]
      exact Option.some.inj denoted
    rw [← Option.some.inj (number.symm.trans reads)] at same
    norm_num at same

end Literal

end SqlAccess
