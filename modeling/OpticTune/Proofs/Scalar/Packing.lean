import Mathlib
import OpticTune.Proofs.Scalar.Rounding
import OpticTune.Scalar.Double

namespace OpticTune.Double

open Float.Model (Format UnpackedFloat totalExponent)
open Float.Model.UnpackedFloat

/-! How a number is cut off and stored as a double.

The digits that are cut off leave two bits, which are enough to round to the
nearest double. One of few digits survives being stored, unless it is too large.
-/

section Shifting

/-- What is known of a number of which only the whole part is kept: the two bits
tell on which side of the middle between it and the next one the number is. -/
def Represents (kept : ExtendedMantissa) (x : ℚ) : Prop :=
  match kept.roundBit, kept.stickyBit with
  | false, false => x = kept.mantissa
  | false, true => kept.mantissa < x ∧ x < kept.mantissa + 1 / 2
  | true, false => x = kept.mantissa + 1 / 2
  | true, true => kept.mantissa + 1 / 2 < x ∧ x < kept.mantissa + 1

variable {kept : ExtendedMantissa} {x : ℚ}

theorem represents_exact (m : ℕ) :
    Represents (ExtendedMantissa.ofMantissaAndAccuracy m .exact) m :=
  rfl

theorem Represents.floor_eq (represents : Represents kept x) : ⌊x⌋ = (kept.mantissa : ℤ) := by
  obtain ⟨m, round, sticky⟩ := kept
  rw [Int.floor_eq_iff]
  push_cast
  cases round <;> cases sticky <;> simp only [Represents] at represents <;>
    constructor <;> linarith

theorem Represents.roundedMantissa_eq (represents : Represents kept x) :
    (kept.roundedMantissa : ℤ) = nearestEven x := by
  have whole := represents.floor_eq
  obtain ⟨m, round, sticky⟩ := kept
  unfold nearestEven
  rw [whole]
  simp only [Int.even_coe_nat, Nat.even_iff]
  cases round <;> cases sticky <;> simp only [Represents] at represents
  · rw [represents]
    simp [ExtendedMantissa.roundedMantissa, ExtendedMantissa.accuracy, Accuracy.roundToNearestEven]
  · rw [if_pos (.inl (by push_cast; linarith))]
    rfl
  · have tie : x - ((m : ℤ) : ℚ) = 1 / 2 := by push_cast; linarith
    simp only [ExtendedMantissa.roundedMantissa, ExtendedMantissa.accuracy,
      Accuracy.roundToNearestEven, tie, lt_irrefl, true_and, false_or]
    split <;> omega
  · rw [if_neg (by push_cast; rintro (near | ⟨tie, -⟩) <;> linarith)]
    rfl

theorem Represents.shiftRightOne (represents : Represents kept x) :
    Represents kept.shiftRightOne (x / 2) := by
  obtain ⟨m, round, sticky⟩ := kept
  have halves : ((m % 2 : ℕ) : ℚ) + 2 * ((m / 2 : ℕ) : ℚ) = m := by
    exact_mod_cast Nat.mod_add_div m 2
  rcases Nat.mod_two_eq_zero_or_one m with even | odd
  · rw [even] at halves
    push_cast at halves
    cases round <;> cases sticky <;>
      simp only [Represents, ExtendedMantissa.shiftRightOne, even, bne_self_eq_false,
        Bool.or_false, Bool.or_true] at represents ⊢ <;>
      first | linarith | (constructor <;> linarith)
  · rw [odd] at halves
    push_cast at halves
    have lost : ((1 : ℕ) != 0) = true := rfl
    cases round <;> cases sticky <;>
      simp only [Represents, ExtendedMantissa.shiftRightOne, odd, lost,
        Bool.or_false, Bool.or_true] at represents ⊢ <;>
      first | linarith | (constructor <;> linarith)

theorem Represents.shiftRight (represents : Represents kept x) (count : ℕ) :
    Represents (kept >>> count) (x / 2 ^ count) := by
  change Represents (count.repeat ExtendedMantissa.shiftRightOne kept) _
  induction count with
  | zero => rwa [pow_zero, div_one]
  | succ count ih =>
      rw [pow_succ, ← div_div]
      exact ih.shiftRightOne

end Shifting

section Packing

variable {sign : Sign} {m : ℕ} {e : ℤ}

/-- What is left of a number when it is stored as a double. -/
def stored (u : UnpackedFloat) : UnpackedFloat :=
  unpack Format.binary64 (pack Format.binary64 u)

/-- The double of a whole number and an exponent, which is zero if the number is. -/
def ofParts (sign : Sign) (m : ℕ) (e : ℤ) : UnpackedFloat :=
  if positive : 0 < m then .finite sign m e positive else .zero sign

theorem ofParts_zero : ofParts sign 0 e = .zero sign :=
  rfl

theorem ofParts_of_pos (positive : 0 < m) : ofParts sign m e = .finite sign m e positive :=
  dif_pos positive

theorem toNat_append_one (fraction : BitVec 52) :
    (1#1 ++ fraction).toNat = 2 ^ 52 + fraction.toNat := by
  rw [BitVec.toNat_append, ← Nat.shiftLeft_add_eq_or_of_lt fraction.isLt]
  rfl

section Fields

variable {biased : BitVec 11} {fraction : BitVec 52}

theorem unpack_normal (sign : Sign) (fraction : BitVec 52) (finite : biased ≠ -1#11)
    (normal : biased ≠ 0#11) :
    unpack Format.binary64 (packComponents Format.binary64 sign biased fraction) =
      ofParts sign (2 ^ 52 + fraction.toNat) (biased.toNat - 1075) := by
  unfold unpack
  simp only [unpackMantissa_packComponents, unpackExponent_packComponents,
    unpackSign_packComponents, Sign.ofBitVec_toBitVec, if_neg finite, if_neg normal]
  rw [ofParts_of_pos (by omega)]
  simp only [toNat_append_one]
  rfl

theorem unpack_subnormal (sign : Sign) (fraction : BitVec 52) :
    unpack Format.binary64 (packComponents Format.binary64 sign 0#11 fraction) =
      ofParts sign fraction.toNat (-1074) := by
  unfold unpack
  simp only [unpackMantissa_packComponents, unpackExponent_packComponents,
    unpackSign_packComponents, Sign.ofBitVec_toBitVec]
  rw [if_neg (by decide), if_pos trivial]
  split
  · rename_i empty
    rw [empty]
    rfl
  · rename_i filled
    rw [ofParts_of_pos (by simpa [BitVec.toNat_pos, BitVec.pos_iff_ne_zero] using filled)]
    rfl

end Fields

theorem biased_eq (e : ℤ) :
    e + (Format.binary64.exponentBias : ℤ) + ((52 : ℕ) : ℤ) = e + 1075 :=
  add_assoc e 1023 52

theorem mantissaBits_eq : Format.binary64.mantissaBits = 53 :=
  rfl

/-- A mantissa with its leading bit set is read back when it is stored without it. -/
theorem unpack_normal_fields {biased : ℕ} (place : (biased : ℤ) = e + 1075) (filled : biased ≠ 0)
    (bounded : biased < 2047) (whole : 2 ^ 52 ≤ m) (digits : m < 2 ^ 53) :
    unpack Format.binary64 (packComponents Format.binary64 sign (BitVec.ofNat 11 biased)
      (BitVec.ofNat 52 m)) = ofParts sign m e := by
  have field : (BitVec.ofNat 11 biased).toNat = biased := by
    rw [BitVec.toNat_ofNat, Nat.mod_eq_of_lt (by omega)]
  have finite : BitVec.ofNat 11 biased ≠ -1#11 := fun same => by
    have : biased = 2047 := field.symm.trans (congrArg BitVec.toNat same)
    omega
  have nonzero : BitVec.ofNat 11 biased ≠ 0#11 := fun same => by
    have : biased = 0 := field.symm.trans (congrArg BitVec.toNat same)
    omega
  have fraction : 2 ^ 52 + (BitVec.ofNat 52 m).toNat = m := by
    rw [BitVec.toNat_ofNat, Nat.mod_eq_sub_mod whole, Nat.mod_eq_of_lt (by omega)]
    exact Nat.add_sub_cancel' whole
  have exponent : ((BitVec.ofNat 11 biased).toNat : ℤ) - 1075 = e := by
    rw [field]
    omega
  rw [unpack_normal sign (BitVec.ofNat 52 m) finite nonzero, fraction, exponent]

theorem unpack_subnormal_fields (short : m < 2 ^ 52) :
    unpack Format.binary64 (packComponents Format.binary64 sign 0#11 (BitVec.ofNat 52 m)) =
      ofParts sign m (-1074) := by
  rw [unpack_subnormal, BitVec.toNat_ofNat, Nat.mod_eq_of_lt short]

/-- What is not too large survives being stored. -/
theorem stored_ofParts (canonical : Canonical m e) (small : e ≤ 971) :
    stored (ofParts sign m e) = ofParts sign m e := by
  rcases Nat.eq_zero_or_pos m with rfl | positive
  · exact unpack_packedZero
  have least := canonical.least
  have digits := canonical.digits
  obtain ⟨biased, place⟩ : ∃ biased : ℕ, (biased : ℤ) = e + 1075 := ⟨(e + 1075).toNat, by omega⟩
  have bounded : biased + 1 < 2 ^ 11 := by omega
  rw [ofParts_of_pos positive]
  unfold stored pack
  simp only [biased_eq, ← place, Int.toNat_natCast, mantissaBits_eq]
  rw [if_neg (not_le.mpr bounded), ← ofParts_of_pos positive]
  split
  · rename_i normal
    have whole : 2 ^ 52 ≤ m := (Nat.le_log2 positive.ne').mp (by omega)
    exact unpack_normal_fields place (by omega) (by omega) whole digits
  · rename_i subnormal
    have short : m < 2 ^ 52 := by
      have := (Nat.log2_lt positive.ne').mpr digits
      exact (Nat.log2_lt positive.ne').mp (by omega)
    obtain rfl : e = -1074 := canonical.full.resolve_right short.not_ge
    exact unpack_subnormal_fields short

/-- What is too large is infinite once it is stored. -/
theorem stored_large (canonical : Canonical m e) (large : 971 < e) :
    stored (ofParts sign m e) = .infinity sign := by
  have whole : 2 ^ 52 ≤ m := canonical.full.resolve_left (by omega)
  rw [ofParts_of_pos (by omega)]
  unfold stored pack
  simp only [biased_eq]
  rw [if_pos (show 2 ^ 11 ≤ (e + 1075).toNat + 1 by omega)]
  simp [unpack, packedInfinity]

/-- Every double that is a finite number is one of few digits. -/
theorem unpack_cases (packed : BitVec 64) :
    unpack Format.binary64 packed = .notANumber ∨
      (∃ sign, unpack Format.binary64 packed = .infinity sign) ∨
      ∃ sign m e, Canonical m e ∧ e ≤ 971 ∧ unpack Format.binary64 packed = ofParts sign m e := by
  obtain ⟨sign, biased, fraction, rfl⟩ : ∃ sign, ∃ biased : BitVec 11, ∃ fraction : BitVec 52,
      packComponents Format.binary64 sign biased fraction = packed :=
    ⟨_, _, _, @packComponents_unpackSign_unpackExponent_unpackMantissa Format.binary64 _⟩
  have short := fraction.isLt
  have bounded := biased.isLt
  by_cases special : biased = -1#11
  · unfold unpack
    simp only [unpackMantissa_packComponents, unpackExponent_packComponents, special, ↓reduceIte]
    split
    · exact .inr (.inl ⟨_, rfl⟩)
    · exact .inl rfl
  by_cases subnormal : biased = 0#11
  · rw [subnormal, unpack_subnormal]
    exact .inr (.inr ⟨sign, _, _, ⟨by omega, le_rfl, .inl rfl⟩, by omega, rfl⟩)
  · rw [unpack_normal sign fraction special subnormal]
    have positive : biased.toNat ≠ 0 := fun zero => subnormal (BitVec.eq_of_toNat_eq zero)
    have finite : biased.toNat ≠ 2047 := fun last => special (BitVec.eq_of_toNat_eq last)
    exact .inr (.inr ⟨sign, _, _, ⟨by omega, by omega, .inr (by omega)⟩, by omega, rfl⟩)

end Packing

section Rounding

variable {sign : Sign} {m : ℕ} {e : ℤ}

/-- The exponent chosen for a number is that of the doubles around it. -/
theorem targetExponent_eq (positive : 0 < m) (e : ℤ) :
    Format.binary64.targetExponent (totalExponent m e) = exponent (m * 2 ^ e) := by
  have above : (0 : ℚ) < m * 2 ^ e := mul_pos (by exact_mod_cast positive) (two_zpow_pos e)
  have lower : (2 : ℚ) ^ ((m.log2 : ℤ) + e) ≤ m * 2 ^ e := by
    rw [zpow_add₀ two_ne_zero, zpow_natCast]
    gcongr
    exact_mod_cast Nat.log2_self_le positive.ne'
  have upper : (m : ℚ) * 2 ^ e < 2 ^ ((m.log2 : ℤ) + e + 1) := by
    rw [add_right_comm, zpow_add₀ two_ne_zero, ← Nat.cast_succ, zpow_natCast]
    gcongr
    exact_mod_cast Nat.lt_log2_self
  have log : Int.log 2 ((m : ℚ) * 2 ^ e) = (m.log2 : ℤ) + e := by
    have low := (Int.zpow_le_iff_le_log (b := 2) one_lt_two above).mp lower
    have high := (Int.lt_zpow_iff_log_lt (b := 2) one_lt_two above).mp upper
    omega
  have least : Format.binary64.minExponent = -1074 := rfl
  rw [Format.targetExponent, totalExponent, exponent, log, least, mantissaBits_eq]
  congr 1
  omega

/-- The digit more that rounding up may give a number is taken away again, which
costs nothing. -/
theorem shift_carried (digits : m ≤ 2 ^ 53) (least : -1074 ≤ e) (full : e = -1074 ∨ 2 ^ 52 ≤ m) :
    ∃ m' e', Canonical m' e' ∧ (m' : ℚ) * 2 ^ e' = m * 2 ^ e ∧
      ∃ round sticky, shiftToTargetExponent Format.binary64 m e .exact = (⟨m', round, sticky⟩, e') := by
  have minExponent : Format.binary64.minExponent = -1074 := rfl
  rcases digits.lt_or_eq with fits | rfl
  · refine ⟨m, e, ⟨fits, least, full⟩, rfl, false, false, ?_⟩
    have short : m.log2 < 53 := by
      rcases Nat.eq_zero_or_pos m with rfl | positive
      · decide
      · exact (Nat.log2_lt positive.ne').mpr fits
    have stays : (Format.binary64.targetExponent (totalExponent m e) - e).toNat = 0 := by
      rw [Format.targetExponent, totalExponent, minExponent, mantissaBits_eq]
      omega
    simp only [shiftToTargetExponent, shiftToExponent, stays, Nat.cast_zero, add_zero]
    rfl
  · refine ⟨2 ^ 52, e + 1, canonical_two_pow (by omega), ?_, false, false, ?_⟩
    · rw [zpow_add_one₀ two_ne_zero]
      push_cast
      ring
    · have moves : (Format.binary64.targetExponent (totalExponent (2 ^ 53) e) - e).toNat = 1 := by
        rw [Format.targetExponent, totalExponent, minExponent, mantissaBits_eq, Nat.log2_two_pow]
        omega
      simp only [shiftToTargetExponent, shiftToExponent, moves, Nat.cast_one]
      rfl

/-- A number with digits to spare is cut off and rounded. -/
theorem roundWithAccuracy_eq (sign : Sign) (positive : 0 < m)
    (spare : e ≤ exponent (m * 2 ^ e)) :
    ∃ m' e', Canonical m' e' ∧ (m' : ℚ) * 2 ^ e' = rounded (m * 2 ^ e) ∧
      roundWithAccuracy Format.binary64 sign m e .exact = ofParts sign m' e' := by
  have above : (0 : ℚ) < m * 2 ^ e := mul_pos (by exact_mod_cast positive) (two_zpow_pos e)
  have least := neg_1074_le_exponent (m * 2 ^ e)
  obtain ⟨shift, further⟩ := Int.le.dest spare
  obtain ⟨kept, isKept⟩ : ∃ kept, ExtendedMantissa.ofMantissaAndAccuracy m .exact >>> shift = kept :=
    ⟨_, rfl⟩
  have first : shiftToTargetExponent Format.binary64 m e .exact =
      (kept, exponent (m * 2 ^ e)) := by
    have amount : (exponent (m * 2 ^ e) - e).toNat = shift := by omega
    rw [shiftToTargetExponent, shiftToExponent, targetExponent_eq positive, amount, isKept, further]
  have nearest : (kept.roundedMantissa : ℤ) =
      nearestEven (m * 2 ^ e / 2 ^ exponent (m * 2 ^ e)) := by
    have represents := (represents_exact m).shiftRight shift
    rw [isKept] at represents
    rw [represents.roundedMantissa_eq, ← further, zpow_add₀ two_ne_zero, zpow_natCast,
      mul_comm (m : ℚ), mul_div_mul_left _ _ (two_zpow_pos e).ne']
  have digits : kept.roundedMantissa ≤ 2 ^ 53 := by
    exact_mod_cast nearest.trans_le (nearestEven_scaled_le above)
  have full : exponent (m * 2 ^ e) = -1074 ∨ 2 ^ 52 ≤ kept.roundedMantissa := by
    rcases least.eq_or_lt with same | large
    · exact .inl same.symm
    · exact .inr (by exact_mod_cast (le_nearestEven_scaled above large).trans_eq nearest.symm)
  obtain ⟨m', e', canonical, value, round, sticky, second⟩ := shift_carried digits least full
  refine ⟨m', e', canonical, ?_, ?_⟩
  · rw [value, rounded, ← nearest, Int.cast_natCast]
  · unfold roundWithAccuracy
    simp only [first, second]
    rcases Nat.eq_zero_or_pos m' with rfl | whole
    · rfl
    · rw [dif_neg whole.ne', ofParts_of_pos whole]

end Rounding

end OpticTune.Double
