import OpticTune.Proofs.Scalar.Rational
import OpticTune.Scalar.Extended

namespace OpticTune

/-- A value after a number of multiplications. -/
def Scalar.grown {α : Type} [Mul α] (start factor : α) : ℕ → α
  | 0 => start
  | count + 1 => grown (start * factor) factor count

theorem Scalar.grown_succ {α : Type} [Mul α] (start factor : α) (count : ℕ) :
    grown start factor (count + 1) = grown start factor count * factor := by
  induction count generalizing start with
  | zero => rfl
  | succ count ih => exact ih (start * factor)

theorem Scalar.grown_rational (start factor : ℚ) (count : ℕ) :
    grown start factor count = start * factor ^ count := by
  induction count with
  | zero => rw [grown, pow_zero, mul_one]
  | succ count ih => rw [grown_succ, ih, pow_succ, mul_assoc]

namespace Extended

/-! What is finite in extended arithmetic: no operation makes a value that is not
finite finite again. -/

variable (x y : Extended)

theorem exists_eq_finite {x : Extended} (finite : Scalar.isFinite x = true) :
    ∃ value, x = .finite value := by
  cases x with
  | finite value => exact ⟨value, rfl⟩
  | infinite => contradiction
  | notANumber => contradiction

@[simp]
theorem isFinite_zero : Scalar.isFinite (0 : Extended) = true := rfl

@[simp]
theorem isFinite_neg : Scalar.isFinite (-x) = Scalar.isFinite x := by
  cases x <;> rfl

@[simp]
theorem isFinite_abs : Scalar.isFinite (Scalar.abs x) = Scalar.isFinite x := by
  cases x <;> rfl

@[simp]
theorem isFinite_add : Scalar.isFinite (x + y) = (Scalar.isFinite x && Scalar.isFinite y) := by
  change (x.add y).isFinite = (x.isFinite && y.isFinite)
  cases x with
  | finite => cases y <;> rfl
  | notANumber => cases y <;> rfl
  | infinite =>
      cases y with
      | finite => rfl
      | notANumber => rfl
      | infinite =>
          simp only [add]
          split <;> rfl

@[simp]
theorem isFinite_mul : Scalar.isFinite (x * y) = (Scalar.isFinite x && Scalar.isFinite y) := by
  change (x.mul y).isFinite = (x.isFinite && y.isFinite)
  cases x with
  | notANumber => cases y <;> rfl
  | finite =>
      cases y with
      | finite => rfl
      | notANumber => rfl
      | infinite =>
          simp only [mul]
          split <;> rfl
  | infinite =>
      cases y with
      | notANumber => rfl
      | finite | infinite =>
          simp only [mul]
          split <;> rfl

/-- A sum is finite only if all of its terms are. -/
theorem isFinite_sum {n : ℕ} (f : Fin n → Extended) :
    Scalar.isFinite (Scalar.sum f) = true ↔ ∀ i, Scalar.isFinite (f i) = true := by
  induction n with
  | zero => exact ⟨fun _ i => i.elim0, fun _ => rfl⟩
  | succ n ih =>
      have last : Scalar.sum f = (Scalar.sum fun i => f i.castSucc) + f (Fin.last n) :=
        Fin.foldl_succ_last ..
      rw [last, isFinite_add, Bool.and_eq_true, ih, Fin.forall_fin_succ']

section Ranking

@[simp]
theorem le_finite (x y : ℚ) : Scalar.le (finite x) (finite y) = decide (x ≤ y) := rfl

@[simp]
theorem lt_finite (x y : ℚ) : Scalar.lt (finite x) (finite y) = decide (x < y) := by
  change (decide (x ≤ y) && !decide (y ≤ x)) = decide (x < y)
  rw [← decide_not, ← Bool.decide_and]
  exact decide_eq_decide.mpr lt_iff_le_not_ge.symm

variable {x y}

/-- In a search for the largest magnitude one that is not finite comes before all
that are finite. -/
theorem outranks_of_not_finite (spoiled : Scalar.isFinite x = false)
    (finite : Scalar.isFinite y = true) :
    Scalar.outranks (Scalar.abs x) (Scalar.abs y) = true := by
  obtain ⟨value, rfl⟩ := exists_eq_finite finite
  cases x with
  | finite => contradiction
  | infinite => rfl
  | notANumber =>
      have number : Scalar.isNaN (Scalar.abs (Extended.finite value)) = false := by
        change (!decide (value.abs ≤ value.abs)) = false
        simp
      rw [Scalar.outranks, number]
      rfl

theorem not_finite_of_outranks (spoiled : Scalar.isFinite y = false)
    (outranks : Scalar.outranks (Scalar.abs x) (Scalar.abs y) = true) :
    Scalar.isFinite x = false := by
  cases x with
  | infinite => rfl
  | notANumber => rfl
  | finite value =>
      have number : Scalar.isNaN (Scalar.abs (finite value)) = false := by
        change (!decide (value.abs ≤ value.abs)) = false
        simp
      cases y with
      | finite => contradiction
      | infinite =>
          rw [Scalar.outranks, number] at outranks
          exact absurd outranks Bool.false_ne_true
      | notANumber =>
          rw [Scalar.outranks, number] at outranks
          exact absurd outranks Bool.false_ne_true

end Ranking

section Growth

open Scalar (grown)

variable {start factor ceiling : Extended}

theorem grown_finite (start factor : ℚ) (count : ℕ) :
    grown (finite start) (finite factor) count = finite (start * factor ^ count) := by
  induction count generalizing start with
  | zero => rw [grown, pow_zero, mul_one]
  | succ count ih =>
      have multiplied : (finite start * finite factor : Extended) = finite (start * factor) := rfl
      rw [grown, multiplied, ih, mul_assoc, pow_succ']

theorem growthBound_pos (start factor ceiling : Extended) :
    0 < Scalar.growthBound start factor ceiling := by
  change 0 < growthBound start factor ceiling
  unfold growthBound
  split
  · exact Rational.growthBound_pos _ _ _
  · exact one_pos

theorem infinite_mul {x : Extended} (positive : Scalar.lt 0 x = true) :
    infinite false * x = infinite false := by
  cases x with
  | notANumber => contradiction
  | infinite negative =>
      cases negative with
      | true => contradiction
      | false => rfl
  | finite x =>
      have above : 0 < x := by simpa using (lt_finite 0 x).symm.trans positive
      change (if _ ∨ _ then notANumber else infinite (false != decide (x < 0))) = _
      rw [if_neg (by simp [above.ne']), decide_eq_false above.le.not_gt]
      rfl

theorem mul_infinite {x : Extended} (positive : Scalar.lt 0 x = true) :
    x * infinite false = infinite false := by
  cases x with
  | notANumber => contradiction
  | infinite negative =>
      cases negative with
      | true => contradiction
      | false => rfl
  | finite x =>
      have above : 0 < x := by simpa using (lt_finite 0 x).symm.trans positive
      change (if _ ∨ _ then notANumber else infinite (decide (x < 0) != false)) = _
      rw [if_neg (by simp [above.ne']), decide_eq_false above.le.not_gt]
      rfl

theorem pos_of_one_lt (grows : Scalar.lt 1 factor = true) : Scalar.lt 0 factor = true := by
  cases factor with
  | notANumber => contradiction
  | infinite negative => cases negative <;> trivial
  | finite factor =>
      have above : 1 < factor := by simpa using (lt_finite 1 factor).symm.trans grows
      change Scalar.lt (finite 0) (finite factor) = true
      rw [lt_finite, decide_eq_true_eq]
      linarith

/-- What grows reaches every finite ceiling, at the latest after `growthBound`
multiplications. -/
theorem le_grown_growthBound (positive : Scalar.lt 0 start = true)
    (grows : Scalar.lt 1 factor = true) (bounded : Scalar.isFinite ceiling = true) :
    Scalar.le ceiling (grown start factor (Scalar.growthBound start factor ceiling)) = true := by
  obtain ⟨ceiling, rfl⟩ := exists_eq_finite bounded
  cases start with
  | notANumber => contradiction
  | infinite negative =>
      cases negative with
      | true => contradiction
      | false =>
          have once : grown (infinite false) factor 1 = infinite false :=
            infinite_mul (pos_of_one_lt grows)
          rw [show Scalar.growthBound (infinite false) factor (finite ceiling) = 1 by
            cases factor <;> rfl, once]
          rfl
  | finite start =>
      cases factor with
      | notANumber => contradiction
      | infinite negative =>
          cases negative with
          | true => contradiction
          | false =>
              have once : grown (finite start) (infinite false) 1 = infinite false :=
                mul_infinite positive
              rw [show Scalar.growthBound (finite start) (infinite false) (finite ceiling) = 1
                from rfl, once]
              rfl
      | finite factor =>
          have above : 0 < start := by simpa using (lt_finite 0 start).symm.trans positive
          have larger : 1 < factor := by simpa using (lt_finite 1 factor).symm.trans grows
          rw [grown_finite, le_finite, decide_eq_true_eq]
          exact Rational.le_mul_pow_growthBound ceiling above larger

end Growth

end Extended

end OpticTune
