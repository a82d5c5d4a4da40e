import OpticTune.Argument
import OpticTune.Linear.NormalEquations
import OpticTune.Table.Nested
import OpticTune.Word

namespace OpticTune.Linear

/-! Matrices and vectors given as nested lists, with sizes still to be checked. -/

variable {α : Type} [Scalar α]

inductive InputError where
  /-- A list is not rectangular or holds words, or no size is given at all. -/
  | layout
  /-- The entries do not fill the rows and columns wanted, or these cannot be
  counted. -/
  | entryCount
  /-- A size is left open beside one of zero. -/
  | zeroSize
  | sizes
  | kind
  /-- The damping holds what no computation takes. -/
  | obstacle (found : Argument.Obstacle)
deriving Repr, DecidableEq

def squareOf (nest : Nested α) : Except InputError (Σ n, Table α n n) :=
  match nest.shape? with
  | none => .error .layout
  | some [m, n] => if m = n then .ok ⟨m, Nested.layOut nest.entries m m⟩ else .error .sizes
  | some _ => .error .sizes

/-- The entries of a list of numbers; only its length is left to be checked. -/
def vectorOf (n : Nat) (nest : Nested α) : Except InputError (Vector α n) :=
  match nest.shape? with
  | none => .error .layout
  | some [length] =>
      if length = n then
        .ok (Vector.ofFn fun i => nest.entries.toArray.getD i 0)
      else .error .sizes
  | some _ => .error .sizes

/-- The numbers of rows and columns that `count` entries are laid out in. One of
them may be left open, as minus one, if the other one tells it. -/
def sizesFor (count : Nat) (rows columns : Int) : Except InputError (Nat × Nat) :=
  if rows = -1 then do return (← other columns, columns.toNat)
  else if columns = -1 then do return (rows.toNat, ← other rows)
  else if isSize rows ∧ isSize columns ∧ rows * columns = count then
    .ok (rows.toNat, columns.toNat)
  else .error .entryCount
where
  isSize (number : Int) : Bool :=
    decide (0 ≤ number) && Word.holds number
  other (known : Int) : Except InputError Nat :=
    if known = 0 then .error .zeroSize
    else if isSize known ∧ (count : Int) % known = 0 then .ok (count / known.toNat)
    else .error .entryCount

/-- The equations of a Jacobian and residuals. The Jacobian is laid out row by row
before the residuals are looked at. -/
def NormalEquations.ofNests (rows columns : Int) (jacobian residuals : Nested α) :
    Except InputError (Σ n, NormalEquations α n) := do
  if jacobian.shape?.isNone then throw .layout
  let (m, n) ← sizesFor jacobian.entries.length rows columns
  let residuals ← vectorOf m residuals
  return ⟨n, ofJacobian (Nested.layOut jacobian.entries m n) residuals⟩

def stepOfNests (curvature downhill : Nested α) (damping : Argument α) :
    Except InputError (Σ n, Step α n) := do
  if curvature.shape?.isNone || downhill.shape?.isNone then throw .layout
  if let some obstacle := damping.obstacle? then throw (.obstacle obstacle)
  let ⟨n, curvature⟩ ← squareOf curvature
  let downhill ← vectorOf n downhill
  match damping with
  | .real damping => return ⟨n, NormalEquations.step { downhill, curvature } damping⟩
  | _ => throw .kind

end OpticTune.Linear
