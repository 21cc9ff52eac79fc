import Mathlib.Algebra.Order.Field.Power
import Mathlib.Algebra.Order.Field.Rat
import Mathlib.Tactic.FieldSimp
import Mathlib.Tactic.GCongr
import Mathlib.Tactic.Linarith
import Mathlib.Tactic.Positivity
import Mathlib.Tactic.Ring
import SqlAccess.Decimal.Shortest
import SqlAccess.Proofs.Decimal.Digits

/-!
# How far the shortest decimal is

A decimal that identifies a binary fraction is no more than half a step of the fraction away from
it. So is the shortest one, whichever way it was found. It lies between the half and the double of
the fraction, and its leading digit has the magnitude of the fraction.
-/

namespace SqlAccess.Decimal

/-- The number `digits · 10^scale`. -/
def Scaled.value (d : Scaled) : ℚ := d.digits * 10 ^ d.scale

/-- The number `m · 2^q`. -/
def Binary.value (x : Binary) : ℚ := x.m * 2 ^ x.q

/-- A power with an integer exponent, cleared of its denominator. -/
theorem zpow_mul_pow_to_nat (base : ℚ) (nonzero : base ≠ 0) (i : Int) :
    base ^ i * base ^ (-i).toNat = base ^ i.toNat := by
  have exponents : i + ((-i).toNat : Int) = (i.toNat : Int) := by omega
  rw [← zpow_natCast, ← zpow_natCast, ← zpow_add₀ nonzero, exponents]

/-- Scaled numbers are compared by their values. -/
theorem compare_scaled_eq (a : Nat) (i : Int) (n : Nat) (j : Int) :
    compareScaled a i n j = compare ((a : ℚ) * 10 ^ i) (n * 2 ^ j) := by
  have cleared : (0 : ℚ) < 10 ^ (-i).toNat * 2 ^ (-j).toNat := by positivity
  have first : (a : ℚ) * 10 ^ i * (10 ^ (-i).toNat * 2 ^ (-j).toNat) =
      ((a * Nat.pow 10 i.toNat * Nat.pow 2 (-j).toNat : Nat) : ℚ) := by
    have decimal := zpow_mul_pow_to_nat 10 (by norm_num) i
    push_cast [Nat.pow_eq]
    rw [← decimal]
    ring
  have second : (n : ℚ) * 2 ^ j * (10 ^ (-i).toNat * 2 ^ (-j).toNat) =
      ((n * Nat.pow 2 j.toNat * Nat.pow 10 (-i).toNat : Nat) : ℚ) := by
    have binary := zpow_mul_pow_to_nat 2 (by norm_num) j
    push_cast [Nat.pow_eq]
    rw [← binary]
    ring
  rw [← cmp_eq_compare, ← cmp_mul_pos_right cleared, first, second,
    Nat.strictMono_cast.cmp_map_eq, cmp_eq_compare]
  rfl

/-- Where the interval of a binary fraction begins. -/
def Binary.low (x : Binary) : ℚ :=
  ((if x.narrowBelow then 4 * x.m - 1 else 4 * x.m - 2 : Nat) : ℚ) * 2 ^ (x.q - 2)

/-- Where the interval of a binary fraction ends. -/
def Binary.high (x : Binary) : ℚ := ((4 * x.m + 2 : Nat) : ℚ) * 2 ^ (x.q - 2)

/-- The decimals that identify a fraction are those in its interval, ends included when its
significand is even. -/
theorem Binary.identified_by_iff {x : Binary} {d : Scaled} :
    x.identifiedBy d = true ↔
      (x.low < d.value ∨ x.m % 2 = 0 ∧ d.value = x.low) ∧
        (d.value < x.high ∨ x.m % 2 = 0 ∧ d.value = x.high) := by
  simp only [identifiedBy, compare_scaled_eq, Bool.and_eq_true, Bool.or_eq_true, beq_iff_eq,
    compare_gt_iff_gt, compare_lt_iff_lt, compare_eq_iff_eq]
  rfl

/-- A positive fraction lies inside its interval, which reaches no further than half a step to
either side. -/
theorem Binary.ends {x : Binary} (positive : 0 < x.m) :
    (x.value - 2 ^ (x.q - 1) ≤ x.low ∧ x.low < x.value) ∧
      x.value < x.high ∧ x.high = x.value + 2 ^ (x.q - 1) := by
  have unit : (0 : ℚ) < 2 ^ (x.q - 2) := by positivity
  have quarters : x.value = 4 * x.m * 2 ^ (x.q - 2) := by
    rw [Binary.value, zpow_sub₀ two_ne_zero]
    ring
  have half : (2 : ℚ) ^ (x.q - 1) = 2 * 2 ^ (x.q - 2) := by
    rw [← zpow_one_add₀ two_ne_zero]
    congr 1
    omega
  have top : x.high = x.value + 2 ^ (x.q - 1) := by
    rw [Binary.high, quarters, half]
    push_cast
    ring
  have above : 4 * x.m ≤ (if x.narrowBelow then 4 * x.m - 1 else 4 * x.m - 2) + 2 := by
    split <;> omega
  have below : (if x.narrowBelow then 4 * x.m - 1 else 4 * x.m - 2) < 4 * x.m := by
    split <;> omega
  refine ⟨⟨?_, ?_⟩, ?_, top⟩
  · have bound :
        (4 * x.m : ℚ) - 2 ≤ (if x.narrowBelow then 4 * x.m - 1 else 4 * x.m - 2 : Nat) := by
      rw [sub_le_iff_le_add]
      exact_mod_cast above
    calc x.value - 2 ^ (x.q - 1) = (4 * x.m - 2) * 2 ^ (x.q - 2) := by rw [quarters, half]; ring
      _ ≤ x.low := mul_le_mul_of_nonneg_right bound unit.le
  · have bound : ((if x.narrowBelow then 4 * x.m - 1 else 4 * x.m - 2 : Nat) : ℚ) < 4 * x.m := by
      exact_mod_cast below
    rw [quarters]
    exact mul_lt_mul_of_pos_right bound unit
  · rw [top]
    exact lt_add_of_pos_right _ (by positivity)

/-- The decimal of the fraction itself identifies it. -/
theorem Binary.identified_by_of_value_eq {x : Binary} {d : Scaled} (positive : 0 < x.m)
    (same : d.value = x.value) : x.identifiedBy d = true := by
  obtain ⟨⟨_, low⟩, high, _⟩ := Binary.ends positive
  rw [identified_by_iff, same]
  exact ⟨Or.inl low, Or.inl high⟩

/-- A decimal that identifies a positive fraction is no more than half a step away. -/
theorem Binary.span_of_identified_by {x : Binary} {d : Scaled} (positive : 0 < x.m)
    (found : x.identifiedBy d = true) : |d.value - x.value| ≤ 2 ^ (x.q - 1) := by
  obtain ⟨⟨reach, _⟩, _, top⟩ := Binary.ends positive
  obtain ⟨above, below⟩ := identified_by_iff.mp found
  have least : x.low ≤ d.value := above.elim le_of_lt fun closed => closed.2.ge
  have greatest : d.value ≤ x.high := below.elim le_of_lt fun closed => closed.2.le
  rw [abs_sub_le_iff]
  constructor <;> linarith

/-- Moving zeros into the scale leaves the value. -/
theorem Scaled.value_strip (d : Scaled) (count : Nat) : (d.strip count).value = d.value := by
  induction count generalizing d with
  | zero => rfl
  | succ count inductionHypothesis =>
    rw [Scaled.strip]
    split
    · rename_i zero
      have digits : d.digits = 10 * (d.digits / 10) := by
        simp only [Bool.and_eq_true, beq_iff_eq] at zero
        omega
      rw [inductionHypothesis]
      calc ((d.digits / 10 : Nat) : ℚ) * 10 ^ (d.scale + 1)
          = ((10 * (d.digits / 10) : Nat) : ℚ) * 10 ^ d.scale := by
            rw [zpow_add_one₀ (by norm_num)]; push_cast; ring
        _ = d.value := by rw [← digits]; rfl
    · rfl

/-- A binary fraction is a decimal too. -/
theorem Binary.value_exact (x : Binary) :
    (⟨x.m * Nat.pow 2 x.q.toNat * Nat.pow 5 (-x.q).toNat, min x.q 0⟩ : Scaled).value =
      x.value := by
  have factors : (10 : ℚ) ^ min x.q 0 = 2 ^ min x.q 0 * 5 ^ min x.q 0 := by
    rw [← mul_zpow]
    norm_num
  have fives : (5 : ℚ) ^ (-x.q).toNat * 5 ^ min x.q 0 = 1 := by
    have exponents : ((-x.q).toNat : Int) + min x.q 0 = 0 := by omega
    rw [← zpow_natCast, ← zpow_add₀ (by norm_num), exponents, zpow_zero]
  have twos : (2 : ℚ) ^ x.q.toNat * 2 ^ min x.q 0 = 2 ^ x.q := by
    have exponents : (x.q.toNat : Int) + min x.q 0 = x.q := by omega
    rw [← zpow_natCast, ← zpow_add₀ (by norm_num), exponents]
  simp only [Scaled.value, Binary.value, Nat.pow_eq]
  push_cast
  calc (x.m : ℚ) * 2 ^ x.q.toNat * 5 ^ (-x.q).toNat * 10 ^ min x.q 0
      = x.m * (2 ^ x.q.toNat * 2 ^ min x.q 0) * (5 ^ (-x.q).toNat * 5 ^ min x.q 0) := by
        rw [factors]; ring
    _ = x.m * 2 ^ x.q := by rw [fives, twos, mul_one]

/-- The shortest decimal of a positive fraction is no more than half a step away. -/
theorem Binary.span_shortest {x : Binary} (positive : 0 < x.m) (tie : Tie) :
    |(x.shortest tie).value - x.value| ≤ 2 ^ (x.q - 1) := by
  unfold shortest
  simp only
  split
  · rename_i d hit
    obtain ⟨n, _, found⟩ := List.exists_of_findSome?_eq_some hit
    rw [Scaled.value_strip]
    exact Binary.span_of_identified_by positive (x.identified_by_on_grid tie _ d found)
  · rw [x.value_exact, sub_self, abs_zero]
    positivity

/-- The shortest decimal lies between the half and the double of a positive value. -/
theorem Binary.near_shortest {x : Binary} (positive : 0 < x.m) (tie : Tie) :
    x.value / 2 ≤ (x.shortest tie).value ∧ (x.shortest tie).value ≤ 2 * x.value := by
  have step : (2 : ℚ) ^ (x.q - 1) ≤ x.value / 2 := by
    have one : (1 : ℚ) ≤ x.m := by exact_mod_cast positive
    rw [zpow_sub_one₀ two_ne_zero, ← div_eq_mul_inv, Binary.value]
    gcongr
    exact le_mul_of_one_le_left (by positivity) one
  obtain ⟨above, below⟩ := abs_sub_le_iff.mp (Binary.span_shortest positive tie)
  constructor <;> linarith

/-- The leading digit of a decimal stands at the place of its magnitude. -/
theorem Scaled.leading {d : Scaled} (nonzero : d.digits ≠ 0) :
    10 ^ (d.scale + (ofNat d.digits).length - 1) ≤ d.value ∧
      d.value < 10 ^ (d.scale + (ofNat d.digits).length) := by
  have ten : (10 : ℚ) ≠ 0 := by norm_num
  have unit : (0 : ℚ) < 10 ^ d.scale := by positivity
  have some : 0 < (ofNat d.digits).length := List.length_pos_iff.mpr (of_nat_ne_nil d.digits)
  obtain ⟨low, high⟩ := length_of_nat nonzero
  rw [Nat.pow_eq] at low high
  constructor
  · have exponent : d.scale + (ofNat d.digits).length - 1 =
        (((ofNat d.digits).length - 1 : Nat) : Int) + d.scale := by omega
    rw [exponent, zpow_add₀ ten, zpow_natCast, Scaled.value]
    gcongr
    exact_mod_cast low
  · rw [add_comm, zpow_add₀ ten, zpow_natCast, Scaled.value]
    gcongr
    exact_mod_cast high

end SqlAccess.Decimal
