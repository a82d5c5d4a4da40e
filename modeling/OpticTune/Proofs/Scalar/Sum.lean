import OpticTune.Proofs.Scalar.Double

namespace OpticTune.Double

open Float.Model (Format UnpackedFloat totalExponent)
open Float.Model.UnpackedFloat

/-! Sums of doubles.

A sum of doubles without a sign is the exact sum, rounded once. A square is never
below zero, so neither is a sum of squares, and one more than it is not zero.
-/

variable {x y : Float} {p q : ℚ} {m n : ℕ} {e f : ℤ}

theorem unpack_add (x y : Float) : (x + y).toModel.unpack =
    stored (UnpackedFloat.add Format.binary64 x.toModel.unpack y.toModel.unpack) :=
  rfl

/-- A number keeps its value when it is written with a smaller exponent. -/
theorem decreaseExponent_eq (m : ℕ) (e target : ℤ) :
    ((decreaseExponent m e target).1 : ℚ) * 2 ^ (decreaseExponent m e target).2 = m * 2 ^ e ∧
      (decreaseExponent m e target).2 = min e target := by
  simp only [decreaseExponent, Nat.shiftLeft_eq]
  constructor
  · push_cast
    rw [mul_assoc, ← zpow_natCast, ← zpow_add₀ two_ne_zero, add_sub_cancel]
  · omega

theorem reading_round (positive : 0 < m) (e : ℤ) :
    reading (stored (UnpackedFloat.round Format.binary64 .positive m e)) =
      some (machine (m * 2 ^ e)) := by
  obtain ⟨same, lowered⟩ :=
    decreaseExponent_eq m e (Format.binary64.targetExponent (totalExponent m e))
  unfold UnpackedFloat.round
  simp only
  have above : (0 : ℚ) < m * 2 ^ e := mul_pos (by exact_mod_cast positive) (two_zpow_pos e)
  rw [← same] at above ⊢
  refine reading_roundWithAccuracy ?_ ?_
  · exact_mod_cast pos_of_mul_pos_left above (two_zpow_pos _).le
  · rw [same, ← targetExponent_eq positive, lowered]
    exact min_le_right _ _

theorem reading_normalize (positive : 0 < m) (e : ℤ) :
    reading (stored (UnpackedFloat.normalize Format.binary64 m e .positive)) =
      some (machine (m * 2 ^ e)) := by
  have above : compare (m : ℤ) 0 = .gt := compare_gt_iff_gt.mpr (by exact_mod_cast positive)
  unfold UnpackedFloat.normalize
  simp only [above, Int.toNat_natCast]
  exact reading_round positive e

theorem stored_finite {sign : Sign} (canonical : Canonical m e) (small : e ≤ 971)
    (positive : 0 < m) :
    stored (.finite sign m e positive) = .finite sign m e positive := by
  rw [← ofParts_of_pos positive, stored_ofParts canonical small]

/-- A sum is the exact sum, rounded once. -/
theorem value_add (left : value x = some p) (right : value y = some q) :
    value (x + y) = some (machine (p + q)) := by
  rw [value, unpack_add]
  rcases (standsFor_of_value left).eq_of_finite with ⟨sign, isZero, rfl⟩ |
    ⟨m, e, positive, canonical, small, isFinite, rfl⟩ <;>
  rcases (standsFor_of_value right).eq_of_finite with ⟨otherSign, otherZero, rfl⟩ |
    ⟨n, f, otherPositive, other, otherSmall, otherFinite, rfl⟩
  · rw [isZero, otherZero, add_zero, machine_zero]
    cases sign <;> cases otherSign <;> exact congrArg reading (stored_zero _)
  · rw [isZero, otherFinite, zero_add, other.machine_eq otherSmall]
    exact congrArg reading (stored_finite other otherSmall otherPositive)
  · rw [isFinite, otherZero, add_zero, canonical.machine_eq small]
    exact congrArg reading (stored_finite canonical small positive)
  · rw [isFinite, otherFinite]
    -- Both numbers are written with the smaller of the two exponents.
    obtain ⟨same, lowered⟩ := decreaseExponent_eq m e (min e f)
    obtain ⟨otherSame, otherLowered⟩ := decreaseExponent_eq n f (min e f)
    rw [lowered, min_eq_right (min_le_left e f)] at same
    rw [otherLowered, min_eq_right (min_le_right e f)] at otherSame
    have filled : 0 < (decreaseExponent m e (min e f)).1 + (decreaseExponent n f (min e f)).1 := by
      simp only [decreaseExponent, Nat.shiftLeft_eq]
      positivity
    have sum := reading_normalize filled (min e f)
    rw [Nat.cast_add (R := ℚ), add_mul, same, otherSame] at sum
    exact sum

theorem StandsFor.add_infinity {u : UnpackedFloat} {p : WithTop ℚ} (stands : StandsFor u p) :
    add Format.binary64 u (.infinity .positive) = .infinity .positive ∧
      add Format.binary64 (.infinity .positive) u = .infinity .positive := by
  cases stands <;> exact ⟨rfl, rfl⟩

theorem value_add_top {p : WithTop ℚ} (left : value x = some p) (right : value y = some ⊤) :
    value (x + y) = some ⊤ ∧ value (y + x) = some ⊤ := by
  obtain ⟨sum, mirrored⟩ := (standsFor_of_value left).add_infinity
  have infinite := (standsFor_of_value right).eq_of_top
  constructor
  · rw [value, unpack_add, infinite, sum, stored_infinity]
    rfl
  · rw [value, unpack_add, infinite, mirrored, stored_infinity]
    rfl

/-- Zero, above it, or not a number. -/
def Unsigned (x : Float) : Prop :=
  x.toModel.unpack = .notANumber ∨ (value x).isSome

theorem unsigned_of_value {q : WithTop ℚ} (read : value x = some q) : Unsigned x :=
  .inr (by rw [read]; rfl)

theorem Unsigned.add (left : Unsigned x) (right : Unsigned y) : Unsigned (x + y) := by
  rcases left with nan | left
  · left
    rw [unpack_add, nan]
    exact stored_notANumber
  rcases right with nan | right
  · left
    rw [unpack_add, nan]
    cases x.toModel.unpack <;> exact stored_notANumber
  obtain ⟨p, left⟩ := Option.isSome_iff_exists.mp left
  obtain ⟨q, right⟩ := Option.isSome_iff_exists.mp right
  cases p with
  | top => exact unsigned_of_value (value_add_top right left).2
  | coe p =>
      cases q with
      | top => exact unsigned_of_value (value_add_top left right).1
      | coe q => exact unsigned_of_value (value_add left right)

theorem unsigned_mul_self (x : Float) : Unsigned (x * x) := by
  rw [Unsigned, value, unpack_mul]
  rcases unpack_cases x.toModel.toBits.toBitVec with nan | ⟨sign, infinite⟩ |
    ⟨sign, m, e, canonical, small, finite⟩
  · rw [show x.toModel.unpack = .notANumber from nan]
    exact .inl stored_notANumber
  · rw [show x.toModel.unpack = .infinity sign from infinite]
    cases sign <;> exact .inr (by decide)
  · rw [show x.toModel.unpack = ofParts sign m e from finite]
    right
    rcases Nat.eq_zero_or_pos m with rfl | positive
    · rw [ofParts_zero]
      cases sign <;> exact congrArg (Option.isSome <| reading ·) (stored_zero _)
    · have product := reading_roundWithAccuracy (Nat.mul_pos positive positive)
        (le_exponent_of_digits (canonical.digits_mul canonical positive positive))
      rw [ofParts_of_pos positive]
      cases sign <;> exact (congrArg Option.isSome product).trans rfl

/-- One more than a number that is not below zero is not zero. -/
theorem not_isZero_one_add (unsigned : Unsigned x) : Scalar.isZero (1.0 + x) = false := by
  change (decide (1.0 + x ≤ 0.0) && decide (0.0 ≤ 1.0 + x)) = false
  rcases unsigned with nan | readable
  · have sum : (1.0 + x).toModel.unpack = .notANumber := by
      rw [unpack_add, nan]
      exact stored_notANumber
    rw [decide_eq_false (not_le_of_nan sum), Bool.and_false]
  · obtain ⟨p, read⟩ := Option.isSome_iff_exists.mp readable
    have above : ∃ q, value (1.0 + x) = some q ∧ 0 < q := by
      cases p with
      | top => exact ⟨⊤, (value_add_top value_one read).1, WithTop.coe_lt_top 0⟩
      | coe p =>
          refine ⟨_, value_add value_one read, ?_⟩
          have nonneg : 0 ≤ p := WithTop.coe_nonneg.mp (value_nonneg read)
          have one : machine 1 = 1 := by
            have read : value 1.0 = some ((1 : ℚ) : WithTop ℚ) := value_one
            obtain ⟨m, e, canonical, small, same⟩ := exists_canonical read
            rw [same, canonical.machine_eq small, ← same, WithTop.coe_one]
          calc (0 : WithTop ℚ) < 1 := zero_lt_one
            _ = machine 1 := one.symm
            _ ≤ machine (1 + p) := machine_mono zero_le_one (le_add_of_nonneg_right nonneg)
    obtain ⟨q, sum, positive⟩ := above
    rw [decide_eq_false fun below => positive.not_ge ((le_iff sum value_zero).mp below),
      Bool.false_and]

end OpticTune.Double
