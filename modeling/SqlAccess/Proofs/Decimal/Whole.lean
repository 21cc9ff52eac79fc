import SqlAccess.Proofs.Decimal.Span

/-!
# Whole numbers

A binary fraction that is a whole number is identified by itself on the grid of ones. So its
shortest decimal has no digit behind the point, and where the steps are no wider than one it is the
number itself. Above that its last digits may be zeros in the place of others.
-/

namespace SqlAccess.Decimal

/-- A binary fraction is a quotient of naturals. -/
theorem Binary.value_mul (x : Binary) :
    x.value * (Nat.pow 2 (-x.q).toNat : Nat) = (x.m * Nat.pow 2 x.q.toNat : Nat) := by
  push_cast [Nat.pow_eq]
  rw [Binary.value, mul_assoc, zpow_mul_pow_to_nat 2 two_ne_zero]

/-- A binary fraction is a natural when the quotient is. -/
theorem Binary.value_eq_iff {x : Binary} {n : Nat} :
    x.value = n ↔ x.m * Nat.pow 2 x.q.toNat = n * Nat.pow 2 (-x.q).toNat := by
  have denominator : ((Nat.pow 2 (-x.q).toNat : Nat) : ℚ) ≠ 0 := by
    rw [Nat.cast_ne_zero, Nat.pow_eq]
    positivity
  rw [← Nat.cast_inj (R := ℚ), ← x.value_mul, Nat.cast_mul]
  exact (mul_left_inj' denominator).symm

/-- A whole number is found on the grid of ones. -/
theorem Binary.on_grid_zero {x : Binary} {n : Nat} (positive : 0 < x.m) (whole : x.value = n)
    (tie : Tie) : x.onGrid tie 0 = some ⟨n, 0⟩ := by
  have itself : x.identifiedBy ⟨n, 0⟩ = true :=
    Binary.identified_by_of_value_eq positive (by simp [Scaled.value, whole])
  have quotient : x.m * Nat.pow 2 x.q.toNat * Nat.pow 10 (-0 : Int).toNat =
      n * (Nat.pow 2 (-x.q).toNat * Nat.pow 10 (0 : Int).toNat) := by
    rw [Binary.value_eq_iff.mp whole]
    simp
  have nearest : compare 0 (Nat.pow 2 (-x.q).toNat * Nat.pow 10 (0 : Int).toNat) = .lt := by
    rw [Nat.compare_eq_lt]
    simp
  unfold onGrid
  simp only [quotient, Nat.mul_mod_left, Nat.mul_zero, nearest,
    Nat.mul_div_cancel _ (Nat.compare_eq_lt.mp nearest), itself]
  split <;> simp_all

/-- What is found on a grid is of its scale. -/
theorem Binary.scale_on_grid {x : Binary} {tie : Tie} {scale : Int} {d : Scaled}
    (found : x.onGrid tie scale = some d) : d.scale = scale := by
  unfold onGrid at found
  simp only at found
  split at found
  · simp at found
  · cases found; rfl
  · cases found; rfl
  · split at found
    · cases found; rfl
    · cases found; rfl
    · cases tie
      · simp only at found
        split at found <;> (cases found; rfl)
      · cases found; rfl

/-- Moving zeros into the scale does not lower it. -/
theorem Scaled.scale_strip (d : Scaled) (count : Nat) : d.scale ≤ (d.strip count).scale := by
  induction count generalizing d with
  | zero => exact Int.le_refl _
  | succ count inductionHypothesis =>
    rw [Scaled.strip]
    split
    · exact Int.le_trans (Int.le_add_one (Int.le_refl _)) (inductionHypothesis _)
    · exact Int.le_refl _

/-- The first hit of a search has none before it. -/
theorem first_of_find_some? {α : Type} {f : Nat → Option α} {count : Nat} {found : α}
    (hit : (List.range count).findSome? f = some found) :
    ∃ n, n < count ∧ f n = some found ∧ ∀ earlier < n, f earlier = none := by
  obtain ⟨before, n, behind, split, here, missed⟩ := List.findSome?_eq_some_iff.mp hit
  have inside : n < count := List.mem_range.mp (by simp [split])
  refine ⟨n, inside, here, fun earlier less => missed earlier ?_⟩
  have member : earlier ∈ before ++ n :: behind :=
    split ▸ List.mem_range.mpr (less.trans inside)
  have sorted := split ▸ List.pairwise_lt_range (n := count)
  rcases List.mem_append.mp member with early | late
  · exact early
  · rcases List.mem_cons.mp late with same | later
    · exact absurd same less.ne
    · exact absurd ((List.pairwise_cons.mp (List.pairwise_append.mp sorted).2.1).1 earlier later)
        less.asymm

/-- A positive fraction lies between the powers of two on both sides of its binary logarithm. -/
theorem Binary.log_bounds {x : Binary} (positive : 0 < x.m) :
    2 ^ ((x.m.log2 : Int) + x.q) ≤ x.value ∧ x.value < 2 ^ ((x.m.log2 : Int) + x.q + 1) := by
  have unit : (0 : ℚ) < 2 ^ x.q := by positivity
  constructor
  · rw [zpow_add₀ two_ne_zero, zpow_natCast, Binary.value]
    gcongr
    exact_mod_cast Nat.log2_self_le positive.ne'
  · rw [add_right_comm, zpow_add₀ two_ne_zero, Binary.value]
    gcongr
    exact_mod_cast Nat.lt_log2_self

/-- The leading digit of a number from one up stands before the point. -/
theorem Binary.one_le_leading_scale {x : Binary} (positive : 0 < x.m) (large : 1 ≤ x.value) :
    1 ≤ x.leadingScale := by
  have fits (k : Int) (below : (compareScaled 1 k x.m x.q == .gt) = true) : 1 ≤ k := by
    rw [beq_iff_eq, compare_scaled_eq, compare_gt_iff_gt, Nat.cast_one, one_mul] at below
    exact (one_lt_zpow_iff_right₀ (by norm_num)).mp (large.trans_lt below)
  have logarithm : 0 < (x.m.log2 : Int) + x.q + 1 :=
    (one_lt_zpow_iff_right₀ one_lt_two).mp (large.trans_lt (Binary.log_bounds positive).2)
  unfold leadingScale
  simp only
  split
  · exact fits _ ‹_›
  · split
    · exact fits _ ‹_›
    · split
      · exact fits _ ‹_›
      · rw [Int.fdiv_eq_ediv_of_nonneg _ (by decide)]
        omega

/-- The leading digit of a number below two to the power of 53 is the seventeenth at most. -/
theorem Binary.leading_scale_le {x : Binary} (positive : 0 < x.m) (small : x.value < 2 ^ 53) :
    x.leadingScale ≤ 17 := by
  have logarithm : (x.m.log2 : Int) + x.q < 53 := by
    have power : (2 : ℚ) ^ ((x.m.log2 : Int) + x.q) < 2 ^ (53 : Int) := by
      rw [zpow_ofNat]
      exact (Binary.log_bounds positive).1.trans_lt small
    exact (zpow_lt_zpow_iff_right₀ (by norm_num)).mp power
  unfold leadingScale
  simp only [Int.fdiv_eq_ediv_of_nonneg _ (by decide : (0 : Int) ≤ 100000)]
  split
  · omega
  · split
    · omega
    · split <;> omega

/-- The shortest decimal of a whole number has no digit behind the point. -/
theorem Binary.scale_shortest_nonneg {x : Binary} {n : Nat} (positive : 0 < x.m)
    (short : x.m < 2 ^ 53) (whole : x.value = n) (tie : Tie) : 0 ≤ (x.shortest tie).scale := by
  have some : x.value ≠ 0 := by
    unfold Binary.value
    positivity
  have large : 1 ≤ x.value := by
    rw [whole] at some ⊢
    exact_mod_cast Nat.one_le_iff_ne_zero.mpr (Nat.cast_ne_zero.mp some)
  have leading := Binary.one_le_leading_scale positive large
  -- The grid of ones is tried where it is among the seventeen; else all of them are coarser.
  have ones (earlier : Nat) (there : (earlier : Int) = x.leadingScale - 1) :
      x.onGrid tie (x.leadingScale - 1 - earlier) ≠ none := by
    rw [there, Int.sub_self, Binary.on_grid_zero positive whole]
    exact Option.some_ne_none _
  unfold shortest
  simp only
  split
  · rename_i d hit
    obtain ⟨index, inside, found, missed⟩ := first_of_find_some? hit
    refine Int.le_trans ?_ (d.scale_strip 18)
    rw [Binary.scale_on_grid found]
    by_contra finer
    exact ones (x.leadingScale - 1).toNat (by omega) (missed _ (by omega))
  · rename_i none
    change 0 ≤ min x.q 0
    by_contra fraction
    have small : x.value < 2 ^ 53 := by
      have bits : (x.m : ℚ) < 2 ^ 53 := by exact_mod_cast short
      have step : (2 : ℚ) ^ x.q ≤ 1 := zpow_le_one_of_nonpos₀ one_le_two (by omega)
      calc x.value ≤ x.m := mul_le_of_le_one_right (by positivity) step
        _ < 2 ^ 53 := bits
    have bound := Binary.leading_scale_le positive small
    exact ones (x.leadingScale - 1).toNat (by omega)
      (List.findSome?_eq_none_iff.mp none _ (List.mem_range.mpr (by omega)))

/-- The digits of a decimal with its scale as zeros behind them. -/
def Scaled.natural (d : Scaled) : Nat := d.digits * Nat.pow 10 d.scale.toNat

/-- A decimal without a digit behind the point is a natural. -/
theorem Scaled.value_eq_natural {d : Scaled} (whole : 0 ≤ d.scale) : d.value = d.natural := by
  have exponent : ((d.scale.toNat : Nat) : Int) = d.scale := Int.toNat_of_nonneg whole
  rw [Scaled.value, ← exponent, zpow_natCast, Scaled.natural]
  push_cast [Nat.pow_eq]
  rfl

/-- The shortest decimal of a whole number is the number itself where the steps are no wider than
one: both are whole, and they are half a step apart at most. -/
theorem Binary.value_shortest {x : Binary} {n : Nat} (positive : 0 < x.m) (short : x.m < 2 ^ 53)
    (whole : x.value = n) (narrow : x.q ≤ 0) (tie : Tie) : (x.shortest tie).value = x.value := by
  have span := Binary.span_shortest positive tie
  have half : (2 : ℚ) ^ (x.q - 1) < 1 := zpow_lt_one_of_neg₀ one_lt_two (by omega)
  rw [Scaled.value_eq_natural (Binary.scale_shortest_nonneg positive short whole tie), whole]
    at span ⊢
  have near := span.trans_lt half
  have same : ((x.shortest tie).natural : Int) - n = 0 :=
    Int.abs_lt_one_iff.mp (by exact_mod_cast near)
  exact_mod_cast Int.sub_eq_zero.mp same

end SqlAccess.Decimal
