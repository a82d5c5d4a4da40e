import OpticTune.Proofs.Scalar.Sum

namespace OpticTune.Double

open Float.Model (Format UnpackedFloat totalExponent)
open Float.Model.UnpackedFloat

/-! Whole numbers as doubles.

A whole number becomes the nearest double. There is none for it from the middle
between the largest double and the power of two that would come next: of the two the
latter has the even whole number, so that the middle itself is rounded up.
-/

section Large

variable {x : ℚ}

/-- The largest double and half a unit more. -/
def overflowing : ℚ :=
  (2 ^ 53 - 1 / 2) * 2 ^ (971 : ℤ)

theorem canonical_largest : Canonical (2 ^ 53 - 1) 971 where
  digits := by norm_num
  least := by norm_num
  full := .inr (by norm_num)

theorem overflowing_eq : overflowing = (((2 ^ 53 - 1 : ℕ) : ℚ) + 1 / 2) * 2 ^ (971 : ℤ) := by
  rw [overflowing]
  norm_num

theorem nearestEven_overflowing : nearestEven (2 ^ 53 - 1 / 2) = 2 ^ 53 := by
  have whole : ⌊(2 ^ 53 - 1 / 2 : ℚ)⌋ = 2 ^ 53 - 1 := by
    rw [Int.floor_eq_iff]
    norm_num
  rw [nearestEven, whole, if_neg]
  · rfl
  · norm_num

theorem exponent_overflowing : exponent overflowing = 971 := by
  have unit := two_zpow_pos 971
  have positive : 0 < overflowing := mul_pos (by norm_num) unit
  apply le_antisymm
  · rw [exponent_le_iff positive (by norm_num), overflowing, zpow_add₀ two_ne_zero, mul_comm]
    exact mul_lt_mul_of_pos_left (by norm_num) unit
  · have above : (2 : ℚ) ^ (970 + 53 : ℤ) ≤ overflowing := by
      rw [show (970 + 53 : ℤ) = 971 + 52 by norm_num, zpow_add₀ two_ne_zero, overflowing, mul_comm]
      exact mul_le_mul_of_nonneg_right (by norm_num) unit.le
    exact (lt_exponent_iff positive (by norm_num)).mpr above

theorem rounded_overflowing : rounded overflowing = 2 ^ 1024 := by
  have unit := (two_zpow_pos 971).ne'
  rw [rounded, exponent_overflowing, overflowing, mul_div_cancel_right₀ _ unit,
    nearestEven_overflowing, Int.cast_pow, Int.cast_ofNat, ← zpow_natCast, ← zpow_natCast,
    ← zpow_add₀ two_ne_zero]
  rfl

/-- What is rounded past the largest double. -/
theorem rounded_lt_large_iff (nonneg : 0 ≤ x) : rounded x < 2 ^ 1024 ↔ x < overflowing := by
  constructor
  · intro small
    by_contra large
    rw [not_lt] at large
    have positive : 0 ≤ overflowing := mul_nonneg (by norm_num) (two_zpow_pos 971).le
    exact small.not_ge (rounded_overflowing.symm.trans_le (rounded_mono positive large))
  · intro small
    by_contra large
    rw [not_lt] at large
    have past := (canonical_largest.lt_large_iff.mpr le_rfl).trans_le large
    exact small.not_ge (overflowing_eq.trans_le (canonical_largest.half_le nonneg past))

theorem machine_eq_top_iff (nonneg : 0 ≤ x) : machine x = ⊤ ↔ overflowing ≤ x := by
  rw [← not_lt, ← rounded_lt_large_iff nonneg, machine]
  split <;> simp_all

end Large

section Finite

variable {x : Float}

theorem StandsFor.isFinite_iff {u : UnpackedFloat} {q : WithTop ℚ} (stands : StandsFor u q) :
    u.isFinite = true ↔ q ≠ ⊤ := by
  cases stands with
  | zero => exact iff_of_true rfl WithTop.zero_ne_top
  | finite => exact iff_of_true rfl WithTop.coe_ne_top
  | infinity => exact iff_of_false Bool.false_ne_true fun apart => apart rfl

theorem isFinite_iff {q : WithTop ℚ} (read : value x = some q) : x.isFinite = true ↔ q ≠ ⊤ :=
  (standsFor_of_value read).isFinite_iff

theorem not_isNaN_of_isFinite (finite : x.isFinite = true) : x.isNaN = false := by
  refine Bool.eq_false_iff.mpr fun nan => ?_
  have unpacked : x.toModel.unpack = .notANumber := isNaN_iff.mp nan
  have infinite : x.isFinite = false := congrArg UnpackedFloat.isFinite unpacked
  exact Bool.false_ne_true (infinite.symm.trans finite)

theorem unpack_neg (x : Float) : (-x).toModel.unpack = stored x.toModel.unpack.neg :=
  rfl

theorem isFinite_neg (x : Float) : (-x).isFinite = x.isFinite := by
  change (-x).toModel.unpack.isFinite = x.toModel.unpack.isFinite
  rw [unpack_neg]
  rcases unpack_cases x.toModel.toBits.toBitVec with nan | ⟨sign, infinite⟩ |
    ⟨sign, m, e, canonical, small, finite⟩
  · rw [show x.toModel.unpack = .notANumber from nan]
    exact congrArg UnpackedFloat.isFinite stored_notANumber
  · rw [show x.toModel.unpack = .infinity sign from infinite]
    simp only [UnpackedFloat.neg, stored_infinity]
    rfl
  · rw [show x.toModel.unpack = ofParts sign m e from finite]
    rcases Nat.eq_zero_or_pos m with rfl | positive
    · simp only [ofParts_zero, UnpackedFloat.neg, stored_zero]
      rfl
    · simp only [ofParts_of_pos positive, UnpackedFloat.neg, stored_finite canonical small positive]
      rfl

end Finite

section Whole

variable {n : ℕ}

/-- A whole number of no more digits than a double has is kept. -/
theorem machine_natCast (small : n < 2 ^ 53) : machine n = ((n : ℚ) : WithTop ℚ) := by
  have below : (n : ℚ) < 2 ^ 53 := by exact_mod_cast small
  have fixed : rounded n = n := by
    rcases Nat.eq_zero_or_pos n with rfl | positive
    · exact rounded_zero
    · have room : exponent ((n : ℤ) * 2 ^ (0 : ℤ)) ≤ 0 := by
        rw [zpow_zero, mul_one, exponent_le_iff (by exact_mod_cast positive) (by norm_num)]
        exact_mod_cast below
      have same := rounded_eq_self (n : ℤ) room
      rwa [zpow_zero, mul_one, Int.cast_natCast] at same
  rw [machine, fixed, if_pos]
  exact below.trans_le (pow_le_pow_right₀ one_le_two (by norm_num))

theorem value_toFloat (positive : 0 < n) (small : n < 2 ^ 53) :
    value n.toUInt64.toFloat = some ((n : ℚ) : WithTop ℚ) := by
  have word : n.toUInt64.toNat = n := by
    rw [Nat.toUInt64, UInt64.toNat_ofNat']
    exact Nat.mod_eq_of_lt (by omega)
  have unpacked : value n.toUInt64.toFloat =
      reading (stored (normalize Format.binary64 n.toUInt64.toNat 0 .positive)) := rfl
  rw [unpacked, word, reading_normalize positive, zpow_zero, mul_one, machine_natCast small]

/-- A whole number is scaled up, which leaves digits to spare, and rounded once. -/
theorem reading_ofScientific (positive : 0 < n) :
    reading (stored (UnpackedFloat.ofScientific Format.binary64 n 0)) = some (machine n) := by
  have wide : ¬ (0 : ℤ) > 2 ^ Format.binary64.exponentBits := by decide
  have narrow : ¬ (0 : ℤ) < -(2 ^ Format.binary64.exponentBits + (n.log2 : ℤ)) := by
    have bits : (0 : ℤ) ≤ 2 ^ Format.binary64.exponentBits := by decide
    omega
  have shifted : 0 < n <<< 53 := by
    rw [Nat.shiftLeft_eq]
    positivity
  have scaled : ((n <<< 53 : ℕ) : ℚ) * 2 ^ (-53 : ℤ) = n := by
    rw [Nat.shiftLeft_eq, Nat.cast_mul, Nat.cast_pow, Nat.cast_ofNat, mul_assoc, ← zpow_natCast,
      ← zpow_add₀ two_ne_zero]
    exact mul_one _
  have product : UnpackedFloat.ofScientific Format.binary64 n 0 =
      roundWithAccuracy Format.binary64 .positive (n <<< 53) (-53) .exact := by
    unfold UnpackedFloat.ofScientific
    rw [dif_neg positive.ne', if_neg wide, if_neg narrow, if_pos le_rfl]
    have one : n <<< 53 * 10 ^ Int.toNat 0 = n <<< 53 := Nat.mul_one _
    simp only [UnpackedFloat.mul, mantissaBits_eq]
    rw [one]
    rfl
  have spare : (-53 : ℤ) ≤ exponent ((n <<< 53 : ℕ) * 2 ^ (-53 : ℤ)) := by
    have above : (2 : ℚ) ^ (-53 + 53 : ℤ) ≤ n := by
      rw [neg_add_cancel, zpow_zero]
      exact_mod_cast positive
    rw [scaled]
    exact ((lt_exponent_iff (by exact_mod_cast positive) (by norm_num)).mpr above).le
  rw [product, reading_roundWithAccuracy shifted spare, scaled]

/-- A whole number becomes the nearest double. -/
theorem value_ofNat (positive : 0 < n) : value (Float.ofNat n) = some (machine n) := by
  by_cases small : n < 2 ^ 53
  · have product : Float.ofNat n = n.toUInt64.toFloat * 1.0 := by
      change (if _ : n < 2 ^ 53 ∧ 0 ≤ 22 then _ else _) = _
      rw [dif_pos ⟨small, by norm_num⟩]
      rfl
    rw [product, value_mul (value_toFloat positive small) value_one, mul_one]
  · have scaled : (Float.ofNat n).toModel = Float.Model.ofScientific n 0 := by
      change Float.toModel (if _ : n < 2 ^ 53 ∧ 0 ≤ 22 then _ else _) = _
      rw [dif_neg fun both => small both.1]
      rfl
    rw [value, scaled]
    exact reading_ofScientific positive

theorem overflowing_eq_intCast : overflowing = ((2 ^ 1024 - 2 ^ 970 : ℤ) : ℚ) := by
  have unit : (2 : ℚ) ^ (971 : ℤ) = 2 * 2 ^ 970 :=
    (zpow_natCast 2 971).trans (pow_succ' 2 970)
  have power : (2 : ℚ) ^ 1024 = 2 ^ 54 * 2 ^ 970 := pow_add 2 54 970
  rw [overflowing, unit, Int.cast_sub, Int.cast_pow, Int.cast_pow, Int.cast_ofNat, power]
  generalize (2 : ℚ) ^ 970 = least
  ring

theorem isFinite_ofNat_iff (n : ℕ) :
    (Float.ofNat n).isFinite = true ↔ (n : ℤ) < 2 ^ 1024 - 2 ^ 970 := by
  rcases Nat.eq_zero_or_pos n with rfl | positive
  · refine iff_of_true (by decide +kernel) (sub_pos.mpr ?_)
    exact pow_lt_pow_right₀ one_lt_two (by norm_num)
  · rw [isFinite_iff (value_ofNat positive), ne_eq, machine_eq_top_iff (Nat.cast_nonneg n), not_le,
      overflowing_eq_intCast]
    exact_mod_cast Iff.rfl

/-- Whether a whole number has a nearest double. -/
theorem isFinite_ofInt_iff (number : ℤ) :
    (Float.ofInt number).isFinite = true ↔ |number| < 2 ^ 1024 - 2 ^ 970 := by
  cases number with
  | ofNat n =>
      rw [Int.ofNat_eq_natCast, abs_of_nonneg (Int.natCast_nonneg n), ← isFinite_ofNat_iff]
      rfl
  | negSucc n =>
      have magnitude : |Int.negSucc n| = (n.succ : ℤ) := Int.abs_eq_natAbs _
      rw [magnitude, ← isFinite_ofNat_iff, ← isFinite_neg (Float.ofNat n.succ)]
      rfl

end Whole

end OpticTune.Double
