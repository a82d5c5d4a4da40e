import Mathlib.LinearAlgebra.Matrix.NonsingularInverse
import OpticTune.Proofs.Linear.Elimination

namespace OpticTune.Linear

open scoped Matrix

/-! What one pass does to a matrix, and what all passes do.

Where several entries are the largest ones left, a pass may take any of them for
its pivot. What holds of a run is shown here for every choice at every pass.
-/

variable {n : ℕ}

/-- The exchanges of rows, as one matrix. -/
def rowsOf : List (Exchange n) → Matrix (Fin n) (Fin n) ℚ
  | [] => 1
  | e :: rest => exchange e.pass e.row * rowsOf rest

/-- The exchanges of columns, as one matrix. -/
def columnsOf : List (Exchange n) → Matrix (Fin n) (Fin n) ℚ
  | [] => 1
  | e :: rest => columnsOf rest * exchange e.column e.pass

theorem det_rowsOf (exchanges : List (Exchange n)) : (rowsOf exchanges).det = 1 := by
  induction exchanges with
  | nil => exact Matrix.det_one
  | cons e rest ih => rw [rowsOf, Matrix.det_mul, det_exchange, ih, one_mul]

theorem det_columnsOf (exchanges : List (Exchange n)) : (columnsOf exchanges).det = 1 := by
  induction exchanges with
  | nil => exact Matrix.det_one
  | cons e rest ih => rw [columnsOf, Matrix.det_mul, det_exchange, ih, one_mul]

/-- What holds after `passes` passes: the row operations, applied to the matrix
with its rows and columns exchanged, have turned its first columns into those of
the identity. -/
structure Eliminated (matrix : Table ℚ n n) (passes : ℕ) (e : Elimination ℚ n) : Prop where
  reduces : operations passes e.work.toMatrix *
    (rowsOf e.exchanges * matrix.toMatrix * columnsOf e.exchanges) = reduced passes e.work.toMatrix
  determinant : (operations passes e.work.toMatrix).det * e.determinant = 1

variable {matrix : Table ℚ n n}

theorem eliminated_start : Eliminated matrix 0 (Elimination.start matrix) := by
  have none : done n 0 = 0 := by
    ext i j
    simp [done_apply]
  constructor
  · simp [Elimination.start, operations, reduced, none, rowsOf, columnsOf]
  · simp [Elimination.start, operations, none]

/-- The determinant of the matrix, as far as it is known after some passes. -/
theorem Eliminated.det_eq {passes : ℕ} {e : Elimination ℚ n}
    (eliminated : Eliminated matrix passes e) :
    matrix.toMatrix.det = e.determinant * (reduced passes e.work.toMatrix).det := by
  rw [← eliminated.reduces, Matrix.det_mul, Matrix.det_mul, Matrix.det_mul, det_rowsOf,
    det_columnsOf, one_mul, mul_one, ← mul_assoc, mul_comm e.determinant,
    eliminated.determinant, one_mul]

/-- The pass with the pivot at a place given. -/
def Elimination.cleared (e : Elimination ℚ n) (k : Fin n) (place : Fin n × Fin n) :
    Elimination ℚ n where
  work := clearColumn k (e.work.get place.1 place.2)
    (exchangeColumns k place.2 (exchangeRows k place.1 e.work))
  determinant := e.determinant * e.work.get place.1 place.2
  exchanges := ⟨k, place.1, place.2⟩ :: e.exchanges

/-- A pass with any of the largest entries left for its pivot. -/
inductive Elimination.Passes (k : Fin n) (e : Elimination ℚ n) : Option (Elimination ℚ n) → Prop where
  | stuck {place} : IsPivot e.work k place → e.work.get place.1 place.2 = 0 → Passes k e none
  | cleared {place} : IsPivot e.work k place → e.work.get place.1 place.2 ≠ 0 →
      Passes k e (some (e.cleared k place))

section Pass

variable {k : Fin n} {e : Elimination ℚ n} {place : Fin n × Fin n}

theorem Eliminated.cleared (eliminated : Eliminated matrix k e) (pivot : IsPivot e.work k place)
    (nonzero : e.work.get place.1 place.2 ≠ 0) : Eliminated matrix (k + 1) (e.cleared k place) := by
  obtain ⟨row, column⟩ := place
  obtain ⟨rowInside, columnInside, _⟩ := pivot
  have held : (exchangeColumns k column (exchangeRows k row e.work)).get k k =
      e.work.get row column := by
    simp [exchangeColumns, exchangeRows]
  have exchanged : (exchangeColumns k column (exchangeRows k row e.work)).toMatrix =
      exchange k row * e.work.toMatrix * exchange column k := by
    rw [toMatrix_exchangeColumns, toMatrix_exchangeRows]
  have cancel := exchange_mul_exchange row k
  constructor
  · rw [Elimination.cleared, operations_clearColumn, reduced_clearColumn k held nonzero, exchanged,
      operations_exchanged _ le_rfl rowInside columnInside,
      reduced_exchanged _ le_rfl rowInside columnInside, ← eliminated.reduces, rowsOf, columnsOf]
    simp only [Matrix.mul_assoc]
    rw [← Matrix.mul_assoc (exchange row k), cancel, Matrix.one_mul]
  · rw [Elimination.cleared, operations_clearColumn, exchanged,
      operations_exchanged _ le_rfl rowInside columnInside,
      Matrix.det_mul, Matrix.det_mul, Matrix.det_mul, det_clearing, det_exchange, det_exchange,
      one_mul, mul_one]
    calc 1 / e.work.get row column * (operations k e.work.toMatrix).det *
          (e.determinant * e.work.get row column)
        = (operations k e.work.toMatrix).det * e.determinant *
          (e.work.get row column / e.work.get row column) := by ring
      _ = 1 := by rw [eliminated.determinant, div_self nonzero, one_mul]

theorem Eliminated.det_eq_zero (eliminated : Eliminated matrix k e) (pivot : IsPivot e.work k place)
    (zero : e.work.get place.1 place.2 = 0) : matrix.toMatrix.det = 0 := by
  have row : ∀ j, reduced k e.work.toMatrix k j = 0 := by
    intro j
    rw [reduced_apply]
    split
    · rename_i before
      exact Matrix.one_apply_ne (Fin.ne_of_gt before)
    · rename_i inside
      exact pivot.eq_zero zero le_rfl (Fin.not_lt.mp inside)
  rw [eliminated.det_eq, Matrix.det_eq_zero_of_row_eq_zero k row, mul_zero]

theorem passes_step (k : Fin n) (e : Elimination ℚ n) : e.Passes k (e.step k) := by
  have pivot := isPivot_pivotPlace e.work k
  by_cases zero : e.work.get (pivotPlace e.work k).1 (pivotPlace e.work k).2 = 0
  · have stuck : e.step k = none := by simp [Elimination.step, zero]
    rw [stuck]
    exact .stuck pivot zero
  · have goes : e.step k = some (e.cleared k (pivotPlace e.work k)) := by
      simp [Elimination.step, Elimination.cleared, zero]
    rw [goes]
    exact .cleared pivot zero

end Pass

/-- What a number of passes may come to, each with any of its pivots; none once a
pivot was zero. -/
inductive Elimination.Reaches (matrix : Table ℚ n n) : ℕ → Option (Elimination ℚ n) → Prop where
  | start : Reaches matrix 0 (some (.start matrix))
  | stuck {passes} : Reaches matrix passes none → Reaches matrix (passes + 1) none
  | pass {k : Fin n} {e next} : Reaches matrix k (some e) → e.Passes k next →
      Reaches matrix (k + 1) next

/-- A run either keeps the invariant or has found the matrix singular. -/
theorem Elimination.Reaches.judged {passes : ℕ} {outcome : Option (Elimination ℚ n)}
    (reaches : Elimination.Reaches matrix passes outcome) :
    match outcome with
    | some e => Eliminated matrix passes e
    | none => matrix.toMatrix.det = 0 := by
  induction reaches with
  | start => exact eliminated_start
  | stuck _ singular => exact singular
  | pass _ passes eliminated =>
      cases passes with
      | stuck pivot zero => exact Eliminated.det_eq_zero eliminated pivot zero
      | cleared pivot nonzero => exact Eliminated.cleared eliminated pivot nonzero

end OpticTune.Linear
