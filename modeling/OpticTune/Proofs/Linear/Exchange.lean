import Mathlib.LinearAlgebra.Matrix.Swap
import OpticTune.Proofs.Linear.Pivot

namespace OpticTune

open scoped Matrix

/-- The matrix of a table's entries. -/
def Table.toMatrix {m n : ℕ} (table : Table ℚ m n) : Matrix (Fin m) (Fin n) ℚ :=
  Matrix.of table.get

@[simp]
theorem Table.toMatrix_apply {m n : ℕ} (table : Table ℚ m n) (i : Fin m) (j : Fin n) :
    table.toMatrix i j = table.get i j := rfl

namespace Linear

/-! The exchanges of an elimination as products with matrices of determinant one. -/

variable {n : ℕ}

/-- Multiplied on the left, brings row `other` to row `k` and the opposite of row
`k` to row `other`. -/
def exchange (k other : Fin n) : Matrix (Fin n) (Fin n) ℚ :=
  if k = other then 1
  else Matrix.diagonal (Function.update 1 other (-1)) * Matrix.swap ℚ k other

variable (k other : Fin n) (matrix : Matrix (Fin n) (Fin n) ℚ)

theorem exchange_mul_apply (i j : Fin n) :
    (exchange k other * matrix) i j =
      if i = k then matrix other j else if i = other then -matrix k j else matrix i j := by
  unfold exchange
  split
  · rename_i same
    subst same
    rw [Matrix.one_mul]
    split_ifs with first
    · rw [first]
    · rfl
  · rename_i apart
    rw [Matrix.mul_assoc, Matrix.diagonal_mul]
    by_cases first : i = k
    · subst first
      simp [apart]
    · by_cases second : i = other
      · subst second
        simp [first]
      · simp [first, second, Matrix.swap_mul_of_ne]

theorem mul_exchange_apply (i j : Fin n) :
    (matrix * exchange k other) i j =
      if j = other then matrix i k else if j = k then -matrix i other else matrix i j := by
  unfold exchange
  split
  · rename_i same
    subst same
    rw [Matrix.mul_one]
    split_ifs with first
    · rw [first]
    · rfl
  · rename_i apart
    rw [← Matrix.mul_assoc]
    by_cases first : j = other
    · subst first
      simp [apart]
    · by_cases second : j = k
      · subst second
        simp [first]
      · simp [first, second, Matrix.mul_swap_of_ne]

theorem det_exchange : (exchange k other).det = 1 := by
  unfold exchange
  split
  · exact Matrix.det_one
  · rename_i apart
    rw [Matrix.det_mul, Matrix.det_diagonal, Matrix.swap, Matrix.det_permutation,
      Finset.prod_update_of_mem (Finset.mem_univ other), Equiv.Perm.sign_swap apart]
    simp

theorem exchange_apply (i j : Fin n) :
    exchange k other i j =
      if i = k then (1 : Matrix (Fin n) (Fin n) ℚ) other j
      else if i = other then -(1 : Matrix (Fin n) (Fin n) ℚ) k j
      else (1 : Matrix (Fin n) (Fin n) ℚ) i j := by
  rw [← exchange_mul_apply, Matrix.mul_one]

theorem exchange_mul_exchange : exchange k other * exchange other k = 1 := by
  ext i j
  rw [exchange_mul_apply, exchange_apply, exchange_apply, exchange_apply]
  by_cases first : i = k
  · subst first
    simp
  · by_cases second : i = other
    · subst second
      have apart : k ≠ i := Ne.symm first
      simp [first, apart]
    · simp [first, second]

variable (work : Table ℚ n n)

theorem toMatrix_exchangeRows :
    (exchangeRows k other work).toMatrix = exchange k other * work.toMatrix := by
  ext i j
  rw [exchange_mul_apply]
  simp [exchangeRows]

theorem toMatrix_exchangeColumns :
    (exchangeColumns k other work).toMatrix = work.toMatrix * exchange other k := by
  ext i j
  rw [mul_exchange_apply]
  simp [exchangeColumns]

theorem toMatrix_undo (e : Exchange n) :
    (e.undo work).toMatrix = exchange e.column e.pass * (work.toMatrix * exchange e.pass e.row) := by
  ext i j
  rw [exchange_mul_apply]
  simp [Exchange.undo, mul_exchange_apply]

end Linear

end OpticTune
