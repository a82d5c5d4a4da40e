import Mathlib.Algebra.BigOperators.Fin
import Mathlib.Algebra.Order.Ring.Rat
import Mathlib.Algebra.Order.Ring.Pow
import Mathlib.Tactic.FieldSimp
import Mathlib.Tactic.Linarith
import OpticTune.Scalar.Rational

namespace OpticTune.Rational

/-! What the operations of an arithmetic are when it is exact. -/

variable {x y : ℚ}

@[simp]
theorem le_eq (x y : ℚ) : Scalar.le x y = decide (x ≤ y) := rfl

@[simp]
theorem lt_eq (x y : ℚ) : Scalar.lt x y = decide (x < y) := rfl

@[simp]
theorem isFinite_eq (x : ℚ) : Scalar.isFinite x = true := rfl

@[simp]
theorem isZero_eq (x : ℚ) : Scalar.isZero x = decide (x = 0) := by
  simp only [Scalar.isZero, le_eq, ← Bool.decide_and, le_antisymm_iff]

@[simp]
theorem abs_eq (x : ℚ) : Scalar.abs x = |x| := by
  change (if 0 ≤ x then x else -x) = |x|
  split
  · rw [abs_of_nonneg ‹0 ≤ x›]
  · rw [abs_of_nonpos (le_of_not_ge ‹¬ 0 ≤ x›)]

theorem outranks_eq (x best : ℚ) : Scalar.outranks x best = decide (best < x) := by
  simp [Scalar.outranks, Scalar.isNaN]

theorem max_eq (x y : ℚ) : Scalar.max x y = max x y := by
  rw [Scalar.max, lt_eq, max_def_lt]
  simp only [decide_eq_true_eq]

theorem sum_eq {n : ℕ} (f : Fin n → ℚ) : Scalar.sum f = ∑ i, f i := by
  induction n with
  | zero => rfl
  | succ n ih =>
      rw [Fin.sum_univ_castSucc, ← ih]
      exact Fin.foldl_succ_last ..

theorem growthBound_pos (start factor ceiling : ℚ) :
    0 < Scalar.growthBound start factor ceiling :=
  Nat.succ_pos _

/-- Multiplying by more than one grows past every bound, at the latest after
`growthBound` times. -/
theorem le_mul_pow_growthBound {start factor : ℚ} (ceiling : ℚ) (positive : 0 < start)
    (grows : 1 < factor) :
    ceiling ≤ start * factor ^ Scalar.growthBound start factor ceiling := by
  let bound := growthBound start factor ceiling
  have excess : 0 < factor - 1 := sub_pos.mpr grows
  have enough : (ceiling / start - 1) / (factor - 1) ≤ bound := by
    calc (ceiling / start - 1) / (factor - 1)
        ≤ (((ceiling / start - 1) / (factor - 1)).ceil : ℚ) := Rat.le_ceil
      _ ≤ (((ceiling / start - 1) / (factor - 1)).ceil.toNat : ℚ) := by
          exact_mod_cast Int.self_le_toNat _
      _ ≤ bound := by
          simp [bound, growthBound]
  have bernoulli : 1 + bound * (factor - 1) ≤ factor ^ bound := by
    have := one_add_mul_le_pow (a := factor - 1) (by linarith) bound
    simpa using this
  have reached : ceiling / start ≤ factor ^ bound := by
    rw [div_le_iff₀ excess] at enough
    linarith
  calc ceiling = start * (ceiling / start) := by field_simp
    _ ≤ start * factor ^ bound := by gcongr

end OpticTune.Rational
