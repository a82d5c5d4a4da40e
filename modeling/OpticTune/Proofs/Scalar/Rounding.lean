import Mathlib.Algebra.Order.Field.Basic
import Mathlib.Data.Int.Log
import Mathlib.Data.Rat.Floor
import Mathlib.Tactic.FieldSimp
import Mathlib.Tactic.Linarith
import Mathlib.Tactic.Ring

namespace OpticTune.Double

/-! Rounding to the nearest double, as a function of the rational numbers.

A double without a sign is a whole number of at most 53 binary digits times a
power of two. The exponent is not below `-1074`, where the doubles thin out down
to zero; above that the number has all of its 53 digits. How large an exponent may
become is left open here.
-/

section Whole

/-- The nearest integer, of two that are equally near the even one. -/
def nearestEven (x : ℚ) : ℤ :=
  if x - ⌊x⌋ < 1 / 2 ∨ x - ⌊x⌋ = 1 / 2 ∧ Even ⌊x⌋ then ⌊x⌋ else ⌊x⌋ + 1

variable {x y : ℚ}

theorem floor_le_nearestEven (x : ℚ) : ⌊x⌋ ≤ nearestEven x := by
  unfold nearestEven
  split <;> omega

theorem nearestEven_le_floor_add_one (x : ℚ) : nearestEven x ≤ ⌊x⌋ + 1 := by
  unfold nearestEven
  split <;> omega

theorem nearestEven_intCast (n : ℤ) : nearestEven n = n := by
  simp [nearestEven]

theorem abs_nearestEven_sub_le (x : ℚ) : |(nearestEven x : ℚ) - x| ≤ 1 / 2 := by
  have lower := Int.floor_le x
  have upper := Int.lt_floor_add_one x
  unfold nearestEven
  split
  · rename_i near
    have close : x - ⌊x⌋ ≤ 1 / 2 := near.elim le_of_lt fun tie => tie.1.le
    rw [abs_sub_comm, abs_of_nonneg (by linarith)]
    exact close
  · rename_i far
    have close : 1 / 2 ≤ x - ⌊x⌋ := not_lt.mp fun near => far (.inl near)
    push_cast
    rw [abs_of_nonneg (by linarith)]
    linarith

theorem nearestEven_mono (ordered : x ≤ y) : nearestEven x ≤ nearestEven y := by
  rcases (Int.floor_le_floor ordered).lt_or_eq with apart | together
  · calc nearestEven x ≤ ⌊x⌋ + 1 := nearestEven_le_floor_add_one x
      _ ≤ ⌊y⌋ := apart
      _ ≤ nearestEven y := floor_le_nearestEven y
  · unfold nearestEven
    rw [← together]
    split
    · split <;> omega
    · rename_i far
      rw [if_neg]
      rintro (near | ⟨tie, even⟩)
      · exact far (.inl (by linarith))
      · rcases ordered.lt_or_eq with below | same
        · exact far (.inl (by linarith))
        · exact far (.inr ⟨same ▸ tie, even⟩)

end Whole

section Exponent

/-- The exponent of the doubles around a positive number. -/
def exponent (x : ℚ) : ℤ :=
  max (Int.log 2 x - 52) (-1074)

variable {x y : ℚ} {e : ℤ}

theorem neg_1074_le_exponent (x : ℚ) : -1074 ≤ exponent x :=
  le_max_right _ _

theorem exponent_le_iff (positive : 0 < x) (least : -1074 ≤ e) :
    exponent x ≤ e ↔ x < 2 ^ (e + 53) := by
  have digits := Int.lt_zpow_iff_log_lt (b := 2) one_lt_two (x := e + 53) positive
  rw [show ((2 : ℕ) : ℚ) = 2 from rfl] at digits
  rw [digits, exponent]
  omega

theorem lt_exponent_iff (positive : 0 < x) (least : -1074 ≤ e) :
    e < exponent x ↔ 2 ^ (e + 53) ≤ x := by
  rw [← not_le, exponent_le_iff positive least, not_lt]

theorem exponent_mono (positive : 0 < x) (ordered : x ≤ y) : exponent x ≤ exponent y :=
  (exponent_le_iff positive (neg_1074_le_exponent y)).mpr <| ordered.trans_lt <|
    (exponent_le_iff (positive.trans_le ordered) (neg_1074_le_exponent y)).mp le_rfl

end Exponent

/-- A whole number and an exponent that make up a double. -/
structure Canonical (m : ℕ) (e : ℤ) : Prop where
  digits : m < 2 ^ 53
  least : -1074 ≤ e
  full : e = -1074 ∨ 2 ^ 52 ≤ m

/-- The nearest double, of two that are equally near the one with an even whole
number. -/
def rounded (x : ℚ) : ℚ :=
  nearestEven (x / 2 ^ exponent x) * 2 ^ exponent x

section Rounded

variable {x y : ℚ} {m : ℕ} {e : ℤ}

theorem two_zpow_pos (e : ℤ) : (0 : ℚ) < 2 ^ e :=
  zpow_pos two_pos e

@[simp]
theorem rounded_zero : rounded 0 = 0 := by
  rw [rounded, zero_div, ← Int.cast_zero, nearestEven_intCast, Int.cast_zero, zero_mul]

theorem abs_rounded_sub_le (x : ℚ) : |rounded x - x| ≤ 2 ^ exponent x / 2 := by
  have unit := two_zpow_pos (exponent x)
  have scaled : rounded x - x =
      (nearestEven (x / 2 ^ exponent x) - x / 2 ^ exponent x) * 2 ^ exponent x := by
    rw [sub_mul, div_mul_cancel₀ _ unit.ne', rounded]
  rw [scaled, abs_mul, abs_of_pos unit]
  have near := mul_le_mul_of_nonneg_right (abs_nearestEven_sub_le (x / 2 ^ exponent x)) unit.le
  exact near.trans_eq (by ring)

/-- A multiple of a power of two that has room for its digits is not rounded. -/
theorem rounded_eq_self (n : ℤ) (room : exponent (n * 2 ^ e) ≤ e) :
    rounded (n * 2 ^ e) = n * 2 ^ e := by
  let unit := exponent (n * 2 ^ e)
  obtain ⟨k, apart⟩ := Int.le.dest room
  have whole : (n : ℚ) * 2 ^ e / 2 ^ unit = ((n * 2 ^ k : ℤ) : ℚ) := by
    rw [mul_div_assoc, ← zpow_sub₀ two_ne_zero, show e - unit = (k : ℤ) by omega, zpow_natCast]
    push_cast
    rfl
  change (nearestEven ((n : ℚ) * 2 ^ e / 2 ^ unit) : ℚ) * 2 ^ unit = _
  rw [whole, nearestEven_intCast, ← whole, div_mul_cancel₀ _ (two_zpow_pos unit).ne']

theorem Canonical.lt (canonical : Canonical m e) : (m : ℚ) * 2 ^ e < 2 ^ (e + 53) := by
  have digits : (m : ℚ) < 2 ^ 53 := by exact_mod_cast canonical.digits
  rw [zpow_add₀ two_ne_zero, mul_comm]
  exact mul_lt_mul_of_pos_left digits (two_zpow_pos e)

theorem Canonical.le (canonical : Canonical m e) (large : -1074 < e) :
    (2 : ℚ) ^ (e + 52) ≤ m * 2 ^ e := by
  have whole : (2 : ℚ) ^ 52 ≤ m := by exact_mod_cast canonical.full.resolve_left large.ne'
  rw [zpow_add₀ two_ne_zero, mul_comm]
  exact mul_le_mul_of_nonneg_right whole (two_zpow_pos e).le

theorem Canonical.rounded_eq (canonical : Canonical m e) :
    rounded (m * 2 ^ e) = m * 2 ^ e := by
  rcases Nat.eq_zero_or_pos m with rfl | positive
  · simp
  · have above : (0 : ℚ) < m * 2 ^ e := mul_pos (by exact_mod_cast positive) (two_zpow_pos e)
    exact rounded_eq_self m ((exponent_le_iff above canonical.least).mpr canonical.lt)

/-- The least double of an exponent that has all of its digits. -/
theorem canonical_two_pow (least : -1074 ≤ e) : Canonical (2 ^ 52) e where
  digits := by norm_num
  least := least
  full := .inr le_rfl

theorem rounded_two_zpow (large : -1022 ≤ e) : rounded (2 ^ e) = 2 ^ e := by
  have fixed := (canonical_two_pow (e := e - 52) (by omega)).rounded_eq
  have whole : ((2 ^ 52 : ℕ) : ℚ) * 2 ^ (e - 52) = 2 ^ e := by
    rw [Nat.cast_pow, Nat.cast_ofNat, ← zpow_natCast, ← zpow_add₀ two_ne_zero]
    congr 1
    omega
  rwa [whole] at fixed

theorem nearestEven_scaled_le (positive : 0 < x) : nearestEven (x / 2 ^ exponent x) ≤ 2 ^ 53 := by
  have below : x / 2 ^ exponent x ≤ ((2 ^ 53 : ℤ) : ℚ) := by
    rw [div_le_iff₀ (two_zpow_pos _)]
    have bound := ((exponent_le_iff positive (neg_1074_le_exponent x)).mp le_rfl).le
    rw [zpow_add₀ two_ne_zero] at bound
    push_cast
    exact bound.trans_eq (mul_comm _ _)
  exact (nearestEven_mono below).trans_eq (nearestEven_intCast _)

theorem le_nearestEven_scaled (positive : 0 < x) (large : -1074 < exponent x) :
    2 ^ 52 ≤ nearestEven (x / 2 ^ exponent x) := by
  have above : ((2 ^ 52 : ℤ) : ℚ) ≤ x / 2 ^ exponent x := by
    rw [le_div_iff₀ (two_zpow_pos _)]
    have bound := (lt_exponent_iff positive (show -1074 ≤ exponent x - 1 by omega)).mp (by omega)
    rw [show exponent x - 1 + 53 = 52 + exponent x by omega, zpow_add₀ two_ne_zero] at bound
    push_cast
    exact bound
  exact (nearestEven_intCast _).symm.trans_le (nearestEven_mono above)

/-- Numbers of different exponents are rounded to the two sides of the power of
two between them. -/
theorem rounded_mono (nonneg : 0 ≤ x) (ordered : x ≤ y) : rounded x ≤ rounded y := by
  rcases nonneg.eq_or_lt with rfl | positive
  · rw [rounded_zero]
    have scaled : 0 ≤ y / 2 ^ exponent y := div_nonneg ordered (two_zpow_pos _).le
    have whole : nearestEven 0 ≤ nearestEven (y / 2 ^ exponent y) := nearestEven_mono scaled
    rw [← Int.cast_zero, nearestEven_intCast] at whole
    exact mul_nonneg (by exact_mod_cast whole) (two_zpow_pos _).le
  · rcases (exponent_mono positive ordered).lt_or_eq with apart | together
    · have low := nearestEven_scaled_le positive
      have high := le_nearestEven_scaled (positive.trans_le ordered)
        ((neg_1074_le_exponent x).trans_lt apart)
      calc rounded x ≤ 2 ^ 53 * 2 ^ exponent x := by
            have unit := (two_zpow_pos (exponent x)).le
            exact mul_le_mul_of_nonneg_right (by exact_mod_cast low) unit
        _ = 2 ^ 52 * 2 ^ (exponent x + 1) := by rw [zpow_add_one₀ two_ne_zero]; ring
        _ ≤ 2 ^ 52 * 2 ^ exponent y := by gcongr; exacts [one_le_two, apart]
        _ ≤ rounded y := by
            have unit := (two_zpow_pos (exponent y)).le
            exact mul_le_mul_of_nonneg_right (by exact_mod_cast high) unit
    · unfold rounded
      rw [← together]
      have unit := two_zpow_pos (exponent x)
      have whole := nearestEven_mono (div_le_div_of_nonneg_right ordered unit.le)
      exact mul_le_mul_of_nonneg_right (by exact_mod_cast whole) unit.le

/-- What is past the middle between a double and the next is rounded past the
double. -/
theorem Canonical.lt_rounded (canonical : Canonical m e) (past : ((m : ℚ) + 1 / 2) * 2 ^ e < y) :
    (m : ℚ) * 2 ^ e < rounded y := by
  have unit := two_zpow_pos e
  have positive : 0 < y := (mul_pos (by positivity) unit).trans past
  rcases le_or_gt (exponent y) e with same | larger
  · have near := (abs_le.mp (abs_rounded_sub_le y)).1
    have finer : (2 : ℚ) ^ exponent y ≤ 2 ^ e := zpow_le_zpow_right₀ one_le_two same
    linarith
  · have above := (lt_exponent_iff positive canonical.least).mp larger
    calc (m : ℚ) * 2 ^ e < 2 ^ (e + 53) := canonical.lt
      _ = rounded (2 ^ (e + 53)) := (rounded_two_zpow (by have := canonical.least; omega)).symm
      _ ≤ rounded y := rounded_mono (two_zpow_pos _).le above

/-- What is rounded past a double is at least in the middle between it and the
next. -/
theorem Canonical.half_le (canonical : Canonical m e) (nonneg : 0 ≤ y)
    (past : (m : ℚ) * 2 ^ e < rounded y) : ((m : ℚ) + 1 / 2) * 2 ^ e ≤ y := by
  have unit := two_zpow_pos e
  by_contra short
  rw [not_le] at short
  have positive : 0 < y := by
    refine nonneg.lt_of_ne fun zero => ?_
    rw [← zero, rounded_zero] at past
    exact absurd past (not_lt.mpr (by positivity))
  rcases lt_or_ge (exponent y) e with smaller | same
  · have least := neg_1074_le_exponent y
    have below : y ≤ m * 2 ^ e := by
      have bound := (exponent_le_iff positive (show -1074 ≤ e - 1 by omega)).mp (by omega)
      rw [show e - 1 + 53 = e + 52 by omega] at bound
      exact bound.le.trans (canonical.le (by omega))
    exact absurd ((rounded_mono nonneg below).trans_eq canonical.rounded_eq) past.not_ge
  · have digits : (m : ℚ) + 1 / 2 ≤ 2 ^ 53 := by
      have next : (m : ℚ) + 1 ≤ 2 ^ 53 := by exact_mod_cast canonical.digits
      linarith
    have below : y < 2 ^ (e + 53) := by
      rw [zpow_add₀ two_ne_zero, mul_comm]
      exact short.trans_le (mul_le_mul_of_nonneg_right digits unit.le)
    have equal : exponent y = e :=
      le_antisymm ((exponent_le_iff positive canonical.least).mpr below) same
    have near := (abs_le.mp (abs_rounded_sub_le y)).2
    rw [equal] at near
    have beyond : rounded y < ((m : ℤ) + 1 : ℤ) * 2 ^ e := by
      push_cast
      linarith
    rw [rounded, equal] at beyond past
    have low : (m : ℤ) < nearestEven (y / 2 ^ e) := by
      exact_mod_cast lt_of_mul_lt_mul_right past unit.le
    have high : nearestEven (y / 2 ^ e) < (m : ℤ) + 1 := by
      exact_mod_cast lt_of_mul_lt_mul_right beyond unit.le
    omega

end Rounded

section Machine

/-- Where a number is kept: at the nearest double, or beyond the largest. -/
def machine (x : ℚ) : WithTop ℚ :=
  if rounded x < 2 ^ 1024 then (rounded x : ℚ) else ⊤

variable {x y : ℚ}

theorem machine_mono (nonneg : 0 ≤ x) (ordered : x ≤ y) : machine x ≤ machine y := by
  have below := rounded_mono nonneg ordered
  unfold machine
  split
  · split
    · exact WithTop.coe_le_coe.mpr below
    · exact le_top
  · rename_i large
    rw [if_neg fun small => large (below.trans_lt small)]

theorem coe_lt_machine_iff (small : x < 2 ^ 1024) : (x : WithTop ℚ) < machine y ↔ x < rounded y := by
  unfold machine
  split
  · exact WithTop.coe_lt_coe
  · rename_i large
    exact iff_of_true (WithTop.coe_lt_top x) (small.trans_le (not_lt.mp large))

end Machine

end OpticTune.Double
