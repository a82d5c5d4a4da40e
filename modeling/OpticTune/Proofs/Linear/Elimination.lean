import Mathlib.LinearAlgebra.Matrix.NonsingularInverse
import Mathlib.Tactic.NoncommRing
import OpticTune.Proofs.Linear.Exchange

namespace OpticTune.Linear

open scoped Matrix

/-! The elimination inverts every matrix that has an inverse, in exact arithmetic.

In place the work holds two matrices at once. After `k` passes its first `k`
columns are those of the row operations made so far, and the others are what
these made of the matrix, whose rows and columns have been exchanged: a product
of row operations with the exchanged matrix has turned its first `k` columns into
those of the identity. The determinant kept is the reciprocal of the one of the
row operations.
-/

variable {n : ℕ}

/-- Projects to the places before `passes`. -/
def done (n passes : ℕ) : Matrix (Fin n) (Fin n) ℚ :=
  Matrix.diagonal fun j => if j.val < passes then 1 else 0

/-- The row operations made in the first `passes` passes. -/
def operations (passes : ℕ) (work : Matrix (Fin n) (Fin n) ℚ) : Matrix (Fin n) (Fin n) ℚ :=
  work * done n passes + (1 - done n passes)

/-- What the row operations of the first `passes` passes made of the matrix. -/
def reduced (passes : ℕ) (work : Matrix (Fin n) (Fin n) ℚ) : Matrix (Fin n) (Fin n) ℚ :=
  done n passes + work * (1 - done n passes)

theorem done_apply (passes : ℕ) (i j : Fin n) :
    done n passes i j = if j.val < passes then (1 : Matrix (Fin n) (Fin n) ℚ) i j else 0 := by
  rw [done, Matrix.diagonal_apply, Matrix.one_apply]
  split_ifs with same before before <;> simp_all

variable (work : Matrix (Fin n) (Fin n) ℚ) (passes : ℕ) (i j : Fin n)

theorem mul_done_apply :
    (work * done n passes) i j = if j.val < passes then work i j else 0 := by
  rw [done, Matrix.mul_diagonal]
  split_ifs <;> simp

theorem operations_apply :
    operations passes work i j =
      if j.val < passes then work i j else (1 : Matrix (Fin n) (Fin n) ℚ) i j := by
  rw [operations, Matrix.add_apply, Matrix.sub_apply, mul_done_apply,
    done_apply]
  split_ifs <;> simp

theorem reduced_apply :
    reduced passes work i j =
      if j.val < passes then (1 : Matrix (Fin n) (Fin n) ℚ) i j else work i j := by
  rw [reduced, Matrix.add_apply, Matrix.mul_sub, Matrix.mul_one, Matrix.sub_apply,
    mul_done_apply, done_apply]
  split_ifs <;> simp

section Exchanges

variable {passes : ℕ} {k other : Fin n}

theorem exchange_mul_done (first : passes ≤ k) (second : passes ≤ other) :
    exchange k other * done n passes = done n passes := by
  ext i j
  rw [exchange_mul_apply]
  simp only [done_apply, Matrix.one_apply]
  split_ifs <;> first | rfl | omega

theorem done_mul_exchange (first : passes ≤ k) (second : passes ≤ other) :
    done n passes * exchange k other = done n passes := by
  ext i j
  rw [mul_exchange_apply]
  simp only [done_apply, Matrix.one_apply]
  split_ifs <;> first | rfl | omega

variable {row column : Fin n}

/-- Exchanges among the places still to be eliminated carry over to the row
operations as a change of their basis. -/
theorem operations_exchanged (inside : passes ≤ k) (rowInside : passes ≤ row)
    (columnInside : passes ≤ column) :
    operations passes (exchange k row * work * exchange column k) =
      exchange k row * operations passes work * exchange row k := by
  have right := done_mul_exchange rowInside inside
  have moved := done_mul_exchange columnInside inside
  have left := exchange_mul_done columnInside inside
  have start := exchange_mul_done inside rowInside
  have cancel := exchange_mul_exchange k row
  calc operations passes (exchange k row * work * exchange column k)
      = exchange k row * work * (exchange column k * done n passes) + (1 - done n passes) := by
        rw [operations, Matrix.mul_assoc _ (exchange column k)]
    _ = exchange k row * work * (done n passes * exchange row k) +
          (exchange k row * exchange row k
            - (exchange k row * done n passes) * exchange row k) := by
        rw [left, right, cancel, start, right]
    _ = exchange k row * operations passes work * exchange row k := by
        rw [operations]
        noncomm_ring

theorem reduced_exchanged (inside : passes ≤ k) (rowInside : passes ≤ row)
    (columnInside : passes ≤ column) :
    reduced passes (exchange k row * work * exchange column k) =
      exchange k row * reduced passes work * exchange column k := by
  have left := exchange_mul_done columnInside inside
  have right := done_mul_exchange columnInside inside
  have start := exchange_mul_done inside rowInside
  calc reduced passes (exchange k row * work * exchange column k)
      = done n passes + exchange k row * work *
          (exchange column k - exchange column k * done n passes) := by
        rw [reduced]
        noncomm_ring
    _ = exchange k row * done n passes * exchange column k + exchange k row * work *
          (exchange column k - done n passes * exchange column k) := by
        rw [left, start, right]
    _ = exchange k row * reduced passes work * exchange column k := by
        rw [reduced]
        noncomm_ring

end Exchanges

section Clearing

variable (k : Fin n) (pivot : ℚ) (work : Table ℚ n n)

/-- The row operations that clear column `k`, all but the exchanges. -/
def clearing : Matrix (Fin n) (Fin n) ℚ :=
  Matrix.updateCol 1 k fun i => if i = k then 1 / pivot else -work.get i k / pivot

theorem det_clearing : (clearing k pivot work).det = 1 / pivot := by
  rw [clearing, ← Matrix.cramer_apply, Matrix.cramer_one]
  exact if_pos rfl

theorem clearing_apply (i j : Fin n) :
    clearing k pivot work i j =
      if j = k then if i = k then 1 / pivot else -work.get i k / pivot
      else (1 : Matrix (Fin n) (Fin n) ℚ) i j := by
  rw [clearing, Matrix.updateCol_apply]

theorem clearing_mul_apply (matrix : Matrix (Fin n) (Fin n) ℚ) (i j : Fin n) :
    (clearing k pivot work * matrix) i j =
      if i = k then matrix k j / pivot
      else matrix i j + -work.get i k / pivot * matrix k j := by
  rw [Matrix.mul_apply]
  split
  · rename_i diagonal
    subst diagonal
    rw [Fintype.sum_eq_single i]
    · simp [clearing_apply, div_eq_inv_mul]
    · intro l other
      simp [clearing_apply, other, Matrix.one_apply_ne other.symm]
  · rename_i apart
    rw [Fintype.sum_eq_add i k apart]
    · simp [clearing_apply, apart]
    · rintro l ⟨notRow, notPivot⟩
      simp [clearing_apply, notPivot, Matrix.one_apply_ne (Ne.symm notRow)]

variable {pivot work}

theorem clearColumn_pivot (i : Fin n) :
    (clearColumn k pivot work).get i k = clearing k pivot work i k := by
  simp [clearColumn, clearing_apply]

theorem clearColumn_other {j : Fin n} (apart : j ≠ k) (i : Fin n) :
    (clearColumn k pivot work).get i j = (clearing k pivot work * work.toMatrix) i j := by
  simp [clearColumn, clearing_mul_apply, apart]

/-- Clearing leaves alone every other column of the identity. -/
theorem clearing_mul_identity {j : Fin n} (apart : j ≠ k) (i : Fin n)
    {matrix : Matrix (Fin n) (Fin n) ℚ} (unit : ∀ i, matrix i j = (1 : Matrix _ _ ℚ) i j) :
    (clearing k pivot work * matrix) i j = (1 : Matrix (Fin n) (Fin n) ℚ) i j := by
  rw [clearing_mul_apply, unit, unit, Matrix.one_apply_ne apart.symm]
  split
  · rename_i diagonal
    rw [diagonal, Matrix.one_apply_ne apart.symm, zero_div]
  · rw [mul_zero, add_zero]

theorem operations_clearColumn :
    operations (k + 1) (clearColumn k pivot work).toMatrix =
      clearing k pivot work * operations k work.toMatrix := by
  ext i j
  rcases lt_trichotomy j k with before | rfl | after
  · rw [operations_apply, if_pos (by omega), Table.toMatrix_apply, clearColumn_other k before.ne,
      clearing_mul_apply, clearing_mul_apply]
    simp only [operations_apply, if_pos (Fin.lt_def.mp before)]
  · rw [operations_apply, if_pos (by omega), Table.toMatrix_apply, clearColumn_pivot,
      clearing_mul_apply]
    simp only [operations_apply, lt_irrefl, if_false, clearing_apply, if_true]
    split
    · rw [Matrix.one_apply_eq]
    · rename_i apart
      rw [Matrix.one_apply_ne apart, Matrix.one_apply_eq, zero_add, mul_one]
  · rw [operations_apply, if_neg (by omega), clearing_mul_identity k after.ne']
    intro i
    rw [operations_apply, if_neg (by omega)]

theorem reduced_clearColumn (held : work.get k k = pivot) (nonzero : pivot ≠ 0) :
    reduced (k + 1) (clearColumn k pivot work).toMatrix =
      clearing k pivot work * reduced k work.toMatrix := by
  ext i j
  rcases lt_trichotomy j k with before | rfl | after
  · rw [reduced_apply, if_pos (by omega), clearing_mul_identity k before.ne]
    intro i
    rw [reduced_apply, if_pos (by omega)]
  · rw [reduced_apply, if_pos (by omega), clearing_mul_apply]
    simp only [reduced_apply, lt_irrefl, if_false, Table.toMatrix_apply, held]
    split
    · rename_i diagonal
      rw [diagonal, Matrix.one_apply_eq, div_self nonzero]
    · rename_i apart
      rw [Matrix.one_apply_ne apart, div_mul_cancel₀ _ nonzero, add_neg_cancel]
  · rw [reduced_apply, if_neg (by omega), Table.toMatrix_apply, clearColumn_other k after.ne',
      clearing_mul_apply, clearing_mul_apply]
    have later : ¬ j.val < k.val := by omega
    simp only [reduced_apply, if_neg later]

end Clearing

end OpticTune.Linear
