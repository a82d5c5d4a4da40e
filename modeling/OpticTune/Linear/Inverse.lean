import OpticTune.Scalar
import OpticTune.Table

namespace OpticTune.Linear

/-! Gauss-Jordan elimination with full pivoting.

The inverse replaces the matrix in place, one pass per diagonal place. A pass
brings the largest remaining entry to the diagonal by exchanging a row and a
column; the one moved out changes its sign, so an exchange leaves the
determinant as it is. The exchanges are kept, latest first, and undone on the
inverse on the opposite sides. A pivot of zero ends the elimination: the matrix
has no inverse, and `invert` returns it unchanged with determinant zero.
-/

variable {α : Type} {n : Nat}

/-- The row and the column brought to the diagonal place `pass`. -/
structure Exchange (n : Nat) where
  pass : Fin n
  row : Fin n
  column : Fin n
deriving DecidableEq

structure Elimination (α : Type) (n : Nat) where
  work : Table α n n
  determinant : α
  exchanges : List (Exchange n)

structure Inverse (α : Type) (n : Nat) where
  matrix : Table α n n
  determinant : α

/-- The rows, or the columns, that `pass` and later passes may still exchange. -/
def remaining (pass : Fin n) : List (Fin n) :=
  (List.finRange n).filter fun i => decide (pass ≤ i)

def remainingPlaces (pass : Fin n) : List (Fin n × Fin n) :=
  (remaining pass).flatMap fun i => (remaining pass).map fun j => (i, j)

def exchangeRows [Neg α] (k row : Fin n) (work : Table α n n) : Table α n n :=
  Table.ofFn fun i j =>
    if i = k then work.get row j else if i = row then -work.get k j else work.get i j

def exchangeColumns [Neg α] (k column : Fin n) (work : Table α n n) : Table α n n :=
  Table.ofFn fun i j =>
    if j = k then work.get i column else if j = column then -work.get i k else work.get i j

variable [Scalar α]

def pivotPlace (work : Table α n n) (pass : Fin n) : Fin n × Fin n :=
  (remainingPlaces pass).foldl
    (fun best place =>
      if Scalar.outranks (Scalar.abs (work.get place.1 place.2))
          (Scalar.abs (work.get best.1 best.2)) then place else best)
    (pass, pass)

/-- Clears column `k` around the pivot at `(k, k)`, leaving there the column of
the inverse that takes its place. -/
def clearColumn (k : Fin n) (pivot : α) (work : Table α n n) : Table α n n :=
  let multipliers : Vector α n := Vector.ofFn fun i => -work.get i k / pivot
  Table.ofFn fun i j =>
    if i = k then
      if j = k then 1 / pivot else work.get k j / pivot
    else if j = k then
      multipliers.get i
    else
      work.get i j + multipliers.get i * work.get k j

namespace Elimination

def start (matrix : Table α n n) : Elimination α n :=
  { work := matrix, determinant := 1, exchanges := [] }

def step (elimination : Elimination α n) (k : Fin n) : Option (Elimination α n) :=
  let (row, column) := pivotPlace elimination.work k
  let pivot := elimination.work.get row column
  if Scalar.isZero pivot then none
  else
    some {
      work := clearColumn k pivot (exchangeColumns k column (exchangeRows k row elimination.work))
      determinant := elimination.determinant * pivot
      exchanges := ⟨k, row, column⟩ :: elimination.exchanges }

def run (matrix : Table α n n) (passes : Nat) : Option (Elimination α n) :=
  ((List.finRange n).take passes).foldlM step (start matrix)

end Elimination

/-- Rows were exchanged by a product on the left, so the inverse exchanges the
columns of the same numbers back, and rows for columns. -/
def Exchange.undo (exchange : Exchange n) (work : Table α n n) : Table α n n :=
  let k := exchange.pass
  let columnsBack : Table α n n := Table.ofFn fun i j =>
    if j = exchange.row then work.get i k
    else if j = k then -work.get i exchange.row
    else work.get i j
  Table.ofFn fun i j =>
    if i = exchange.column then columnsBack.get k j
    else if i = k then -columnsBack.get exchange.column j
    else columnsBack.get i j

def undoAll (exchanges : List (Exchange n)) (work : Table α n n) : Table α n n :=
  exchanges.foldl (fun work exchange => exchange.undo work) work

def invert (matrix : Table α n n) : Inverse α n :=
  match Elimination.run matrix n with
  | some elimination =>
      { matrix := undoAll elimination.exchanges elimination.work
        determinant := elimination.determinant }
  | none => { matrix, determinant := 0 }

end OpticTune.Linear
