import OpticTune.Place

namespace OpticTune

/-! Tables of a fixed shape.

`get` is the view every operation is described by. Cells may also be given by
any two whole numbers, which name a row and a column.
-/

/-- A vector of exactly the values of a list. -/
def exactVector {α : Type} {n : Nat} (values : List α) (count : values.length = n) : Vector α n :=
  ⟨values.toArray, by simp [count]⟩

@[simp]
theorem vector_get_ofFn {α : Type} {n : Nat} (values : Fin n → α) :
    (Vector.ofFn values).get = values := by
  funext i
  exact Vector.getElem_ofFn i.isLt

structure Table (α : Type) (m n : Nat) where
  cells : Vector (Vector α n) m
deriving DecidableEq

namespace Table

variable {α : Type} {m n : Nat}

def ofFn (f : Fin m → Fin n → α) : Table α m n :=
  ⟨Vector.ofFn fun i => Vector.ofFn fun j => f i j⟩

def get (table : Table α m n) (i : Fin m) (j : Fin n) : α :=
  table.cells[i][j]

def row (table : Table α m n) (i : Fin m) : Vector α n :=
  table.cells[i]

def toRows (table : Table α m n) : List (List α) :=
  table.cells.toList.map Vector.toList

@[simp]
theorem get_ofFn (f : Fin m → Fin n → α) (i : Fin m) (j : Fin n) :
    (ofFn f).get i j = f i j := by
  simp [ofFn, get]

theorem ext_get {left right : Table α m n}
    (agree : ∀ i j, left.get i j = right.get i j) : left = right := by
  obtain ⟨left⟩ := left
  obtain ⟨right⟩ := right
  congr 1
  apply Vector.ext
  intro i iBound
  apply Vector.ext
  intro j jBound
  exact agree ⟨i, iBound⟩ ⟨j, jBound⟩

def zeros [Zero α] : Table α m n :=
  ofFn fun _ _ => 0

def set (table : Table α m n) (i : Fin m) (j : Fin n) (x : α) : Table α m n :=
  ⟨table.cells.set i (table.cells[i].set j x)⟩

theorem get_set (table : Table α m n) (i a : Fin m) (j b : Fin n) (x : α) :
    (table.set i j x).get a b = if a = i ∧ b = j then x else table.get a b := by
  by_cases row : a = i
  · subst row
    by_cases column : b = j
    · subst column
      simp [set, get]
    · have apart : ¬ j.val = b.val := fun same => column (Fin.ext same.symm)
      simp [set, get, column, apart]
  · have apart : ¬ i.val = a.val := fun same => row (Fin.ext same.symm)
    simp [set, get, row, apart]

def setColumn (table : Table α m n) (j : Fin n) (values : Vector α m) : Table α m n :=
  ofFn fun a b => if b = j then values[a] else table.get a b

theorem get_setColumn (table : Table α m n) (j b : Fin n) (values : Vector α m) (a : Fin m) :
    (table.setColumn j values).get a b = if b = j then values[a] else table.get a b := by
  simp [setColumn]

def read (table : Table α m n) (i j : Int) : Except PlaceError α := do
  return table.get (← readPlace m i) (← readPlace n j)

/-- Adds to one cell; to a place outside the table nothing is added. -/
def add [Add α] (table : Table α m n) (i j : Int) (amount : α) : Table α m n :=
  match writtenPlace m i, writtenPlace n j with
  | some i, some j => table.set i j (table.get i j + amount)
  | _, _ => table

/-- Adds to one cell, unless a number it is named by cannot be written by. -/
def checkedAdd [Add α] (table : Table α m n) (i j : Int) (amount : α) :
    Except PlaceError (Table α m n) :=
  if isCellWritable m n i j then .ok (table.add i j amount) else .error .tooFar

end Table

end OpticTune
