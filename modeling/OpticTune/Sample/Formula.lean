import OpticTune.Sample.Halting
import OpticTune.Solver.Landscape

namespace OpticTune.Sample

/-! Problems given by formulas.

Every residual is a sum of products of parameters less a target. A problem may
be told to fail at some of its evaluations, or to succeed without a number, and
it fails outside its box. Places count from the end where they are negative. A
change of a parameter there is none of gets stuck, after the changes of the
others, and so does an evaluation that needs one.
-/

variable {α : Type}

structure Product (α : Type) where
  factor : α
  places : List Int

structure Bounds (α : Type) where
  place : Int
  low : α
  high : α

structure Formula (α : Type) where
  sums : List (List (Product α))
  targets : List α
  box : List (Bounds α)
  /-- The evaluations, counted from 1, that fail. -/
  failures : List Int
  blanks : List Int

structure Stand (α : Type) where
  params : List α
  residuals : List α
  evaluations : Nat

abbrev Walk (α : Type) : Type :=
  Halting (Stand α)

variable [Scalar α]

def Product.value? (product : Product α) (params : List α) : Option α :=
  product.places.foldlM (fun value place => (entryAt? params place).map (value * ·))
    product.factor

/-- Whether the parameters lie in a box, looked at bound by bound. -/
def inBox? (params : List α) : List (Bounds α) → Option Bool
  | [] => some true
  | bounds :: rest => do
    let x ← entryAt? params bounds.place
    if Scalar.le bounds.low x && Scalar.le x bounds.high then inBox? params rest
    else return false

namespace Formula

def residuals? (formula : Formula α) (params : List α) : Option (List α) :=
  (formula.sums.zip formula.targets).mapM fun (products, target) => do
    let sum ← products.foldlM
      (fun total product => (product.value? params).map (total + ·)) 0
    return sum - target

def start (formula : Formula α) (params : List α) : Walk α :=
  .start {
    params := params
    residuals := formula.targets.map fun _ => 0
    evaluations := 0
  }

def move (delta : List α) : Act α (Walk α) Unit :=
  modify fun walk =>
    let params := walk.now.params
    let moved := { walk with now.params := Solver.moved params delta }
    if params.length < delta.length then moved.mark else moved

def evaluate (formula : Formula α) : Act α (Walk α) (Option α) := do
  modify fun walk => { walk with now.evaluations := walk.now.evaluations + 1 }
  let walk ← get
  let stand := walk.now
  if formula.failures.contains stand.evaluations then return none
  let found : Option (Option (List α)) := do
    if ← inBox? stand.params formula.box then return some (← formula.residuals? stand.params)
    else return none
  match found with
  | none =>
      set walk.mark
      return none
  | some none => return none
  | some (some residuals) =>
      set { walk with now.residuals := residuals }
      if formula.blanks.contains stand.evaluations then return some (0 / 0)
      return some (Scalar.sumOfSquares residuals)

def problem (formula : Formula α) : Solver.Problem α (Walk α) where
  apply := move
  evaluate := formula.evaluate
  residuals := return (← get).now.residuals

end Formula

end OpticTune.Sample
