import OpticTune.Word

namespace OpticTune

/-! The places that whole numbers name among `n` entries.

A negative number counts once from the end. A place read outside is the nearest
one inside, and a place written outside is nowhere.

Along the sides of a table places are kept in half a machine word, if that is
enough for all of them. A number that is read by is cut before it is counted from
the end, one that is written by after.
-/

inductive PlaceError where
  | empty
  /-- The number is too large to name a place. -/
  | tooFar
deriving Repr, DecidableEq

/-- Negative places count from the end, once. -/
def fromEnd (n : Nat) (place : Int) : Int :=
  if place < 0 then place + n else place

def nearestPlace (n : Nat) (place : Int) : Option (Fin n) :=
  if h : 0 < n then
    some ⟨min (fromEnd n place).toNat (n - 1), by omega⟩
  else
    none

def insidePlace (n : Nat) (place : Int) : Option (Fin n) :=
  if h : 0 ≤ place ∧ place < n then some ⟨place.toNat, by omega⟩ else none

def exactPlace (n : Nat) (place : Int) : Option (Fin n) :=
  insidePlace n (fromEnd n place)

/-- What is kept of a number along a side of a table. -/
def kept (n : Nat) (place : Int) : Int :=
  if n ≤ Word.half then Word.lowerHalf place else place

theorem kept_of_inside {n : Nat} {place : Int} (low : -n ≤ place) (high : place < n) :
    kept n place = place := by
  unfold kept
  split
  · exact Word.lowerHalf_of_small (by omega) (by omega)
  · rfl

/-- The place read along a side of a table. No place inside is too far. -/
def readPlace (n : Nat) (place : Int) : Except PlaceError (Fin n) :=
  match insidePlace n place, nearestPlace n (kept n place) with
  | some i, _ => .ok i
  | none, none => .error .empty
  | none, some i => if Word.carries place then .ok i else .error .tooFar

def writtenPlace (n : Nat) (place : Int) : Option (Fin n) :=
  insidePlace n (kept n (fromEnd n place))

/-- Whether a number can be written by, be it outside or not. -/
def isWritable (n : Nat) (place : Int) : Bool :=
  Word.carries (fromEnd n place)

/-- The same of the two numbers of a cell. -/
def isCellWritable (m n : Nat) (row column : Int) : Bool :=
  isWritable m row && isWritable n column

def readNearest {α : Type} (values : List α) (place : Int) : Except PlaceError α :=
  match insidePlace values.length place, nearestPlace values.length place with
  | some i, _ => .ok (values.get i)
  | none, none => .error .empty
  | none, some i =>
      if Word.holds (fromEnd values.length place) then .ok (values.get i) else .error .tooFar

def entryAt? {α : Type} (values : List α) (place : Int) : Option α :=
  (exactPlace values.length place).map values.get

end OpticTune
