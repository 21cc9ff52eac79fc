import SqlAccess.Binary64
import SqlAccess.Proofs.Decimal.Span
import SqlAccess.Proofs.Literal.Numeral

/-!
# Numbers in statements

The leading digit of a finite number stands far inside the places that the style of statements
writes positionally. So a finite number is written there as a decimal text, never with an exponent.
-/

namespace SqlAccess.Binary64

/-- The exponent bits are eleven. -/
theorem exponent_field_le (x : Binary64) : x.exponentField ≤ 2047 := by
  rw [exponentField, UInt64.toNat_and]
  exact Nat.and_le_right

/-- The fraction bits are fifty-two. -/
theorem fraction_field_le (x : Binary64) : x.fractionField ≤ 4503599627370495 := by
  rw [fractionField, UInt64.toNat_and]
  exact Nat.and_le_right

/-- The magnitude of a finite number, zero apart, has 53 bits at most and a bounded exponent. -/
theorem magnitude_bounds {x : Binary64} (finite : x.isFinite = true) (nonzero : x.isZero = false) :
    (0 < x.magnitude.m ∧ x.magnitude.m < 2 ^ 53) ∧
      -1074 ≤ x.magnitude.q ∧ x.magnitude.q ≤ 971 := by
  have exponent := x.exponent_field_le
  have fraction := x.fraction_field_le
  simp only [isFinite, bne_iff_ne, ne_eq] at finite
  unfold magnitude
  split
  · rename_i subnormal
    have some : x.fractionField ≠ 0 := by
      simp only [beq_iff_eq] at subnormal
      simpa [isZero, subnormal] using nonzero
    simp only
    omega
  · rename_i normal
    simp only [beq_iff_eq] at normal
    simp only [Nat.pow_eq]
    omega

/-- A significand has all its 53 bits, except at the bottom of the range. -/
theorem magnitude_normal (x : Binary64) : 2 ^ 52 ≤ x.magnitude.m ∨ x.magnitude.q = -1074 := by
  unfold magnitude
  split
  · exact Or.inr rfl
  · exact Or.inl (Nat.le_add_right _ _)

/-- Ten to the power of 400 is beyond two to the power of 1075. -/
theorem two_pow_lt_ten_pow : (2 : ℚ) ^ 1075 < 10 ^ 400 :=
  calc (2 : ℚ) ^ 1075 ≤ 2 ^ (3 * 400) := pow_le_pow_right₀ (by norm_num) (by norm_num)
    _ = (2 ^ 3) ^ 400 := pow_mul 2 3 400
    _ < 10 ^ 400 := pow_lt_pow_left₀ (by norm_num) (by norm_num) (by norm_num)

/-- The shortest decimal of a finite number, zero apart, lies well between ten to the powers of
-400 and 400. -/
theorem shortest_bounds {x : Binary64} (finite : x.isFinite = true) (nonzero : x.isZero = false)
    (tie : Decimal.Tie) :
    (10 : ℚ) ^ (-400 : Int) < (x.magnitude.shortest tie).value ∧
      (x.magnitude.shortest tie).value < 10 ^ (400 : Int) := by
  obtain ⟨⟨positive, short⟩, low, high⟩ := magnitude_bounds finite nonzero
  obtain ⟨above, below⟩ := Decimal.Binary.near_shortest positive tie
  constructor
  · have least : (2 : ℚ) ^ (-1074 : Int) ≤ x.magnitude.value := by
      have one : (1 : ℚ) ≤ x.magnitude.m := by exact_mod_cast positive
      calc (2 : ℚ) ^ (-1074 : Int)
          ≤ 2 ^ x.magnitude.q := zpow_le_zpow_right₀ (by norm_num) low
        _ ≤ x.magnitude.value := le_mul_of_one_le_left (by positivity) one
    calc (10 : ℚ) ^ (-400 : Int) = (10 ^ 400)⁻¹ := zpow_neg_coe_of_pos 10 (by norm_num)
      _ < (2 ^ 1075)⁻¹ := inv_strictAnti₀ (by positivity) two_pow_lt_ten_pow
      _ = 2 ^ (-1075 : Int) := (zpow_neg_coe_of_pos 2 (by norm_num)).symm
      _ = 2 ^ (-1074 : Int) / 2 := (zpow_sub_one₀ two_ne_zero (-1074))
      _ ≤ x.magnitude.value / 2 := by gcongr
      _ ≤ _ := above
  · have bits : (x.magnitude.m : ℚ) < 2 ^ 53 := by exact_mod_cast short
    calc _ ≤ 2 * x.magnitude.value := below
      _ ≤ 2 * (2 ^ 53 * 2 ^ (971 : Int)) := by
        unfold Decimal.Binary.value
        gcongr
        exact one_le_two
      _ = 2 ^ 1025 := by rw [zpow_ofNat, ← pow_add, ← pow_succ']
      _ ≤ 2 ^ 1075 := pow_le_pow_right₀ (by norm_num) (by norm_num)
      _ < 10 ^ (400 : Int) := by rw [zpow_ofNat]; exact two_pow_lt_ten_pow

/-- The leading digit of a finite number, zero apart, stands inside the places of statements. -/
theorem statement_style_reaches {x : Binary64} (finite : x.isFinite = true)
    (nonzero : x.isZero = false) (tie : Decimal.Tie) :
    let d := x.magnitude.shortest tie
    d.digits ≠ 0 ∧
      statementStyle.plainFrom ≤ d.scale + (Decimal.ofNat d.digits).length - 1 ∧
      d.scale + (Decimal.ofNat d.digits).length - 1 < statementStyle.plainBelow := by
  obtain ⟨low, high⟩ := shortest_bounds finite nonzero tie
  generalize x.magnitude.shortest tie = d at low high ⊢
  have digits : d.digits ≠ 0 := by
    intro zero
    rw [Decimal.Scaled.value, zero, Nat.cast_zero, zero_mul] at low
    exact absurd low (not_lt.mpr (by positivity))
  obtain ⟨reached, below⟩ := Decimal.Scaled.leading digits
  have last : -400 < d.scale + (Decimal.ofNat d.digits).length :=
    (zpow_lt_zpow_iff_right₀ (by norm_num)).mp (low.trans below)
  have first : d.scale + (Decimal.ofNat d.digits).length - 1 < 400 :=
    (zpow_lt_zpow_iff_right₀ (by norm_num)).mp (reached.trans_lt high)
  exact ⟨digits, Int.le_sub_one_of_lt last, first⟩

/-- A number whose digits are written positionally, without a point at the end, is figures. -/
theorem figures_layout {style : Style} (plain : style.pointZero = false) {d : Decimal.Scaled}
    (low : style.plainFrom ≤ d.scale + (Decimal.ofNat d.digits).length - 1)
    (high : d.scale + (Decimal.ofNat d.digits).length - 1 < style.plainBelow) :
    Figures (style.layout d) := by
  have digits := Decimal.digits_of_nat d.digits
  have some := Decimal.of_nat_ne_nil d.digits
  unfold Style.layout
  simp only [plain, Bool.false_eq_true, if_false, List.append_nil]
  rw [if_pos ⟨low, high⟩]
  generalize Decimal.ofNat d.digits = written at digits some low high ⊢
  split
  · refine Figures.of_digits (by simp [some]) ?_
    rw [List.all_append, digits, Decimal.digits_zeros]
    rfl
  · split
    · refine Figures.of_point (by simpa using some) ?_ ?_
      · exact List.all_eq_true.mpr fun c member =>
          List.all_eq_true.mp digits c (List.mem_of_mem_take member)
      · exact List.all_eq_true.mpr fun c member =>
          List.all_eq_true.mp digits c (List.mem_of_mem_drop member)
    · change Figures (['0'] ++ '.' :: _)
      refine Figures.of_point (by simp) (by decide) ?_
      rw [List.all_append, digits, Decimal.digits_zeros]
      rfl

/-- A finite number stands in a statement as its sign and the fewest digits that identify it. -/
theorem statement_text_of_is_finite {x : Binary64} (finite : x.isFinite = true) :
    x.statementText.toList = (if x.isNegative then ['-'] else []) ++
      if x.isZero then ['0'] else statementStyle.layout (x.magnitude.shortest .upward) := by
  have number : x.isNaN = false := is_nan_of_is_finite finite
  rw [statementText, String.toList_ofList]
  unfold Style.render
  simp only [number, finite, Bool.not_true, Bool.false_eq_true, if_false]
  split <;> rfl

/-- A finite number stands in a statement as a decimal text. -/
theorem is_decimal_text_statement_text {x : Binary64} (finite : x.isFinite = true) :
    isDecimalText x.statementText.toList = true := by
  have body : Figures
      (if x.isZero then ['0'] else statementStyle.layout (x.magnitude.shortest .upward)) := by
    split
    · exact Figures.of_digits (by decide) (by decide)
    · rename_i nonzero
      obtain ⟨_, low, high⟩ :=
        statement_style_reaches finite (eq_false_of_ne_true nonzero) .upward
      exact figures_layout rfl low high
  rw [statement_text_of_is_finite finite]
  split
  · exact body.is_decimal_text_minus
  · exact body.is_decimal_text

end SqlAccess.Binary64
