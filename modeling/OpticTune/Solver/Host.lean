import OpticTune.Act
import OpticTune.Place

namespace OpticTune.Solver

/-! The contract between the iteration and the problem it is run on.

A host alone knows its parameters; the iteration only sends changes of them. A
host is given as five actions on a state of its own, so that one that answers
differently from call to call is a host as well.
-/

inductive Fault where
  /-- The starting sum of squares is minus one, so no change is relative to it. -/
  | zeroScale
  /-- No number of boosts takes the damping to its ceiling. -/
  | endless
  /-- The residuals on the two sides of a parameter cannot be paired. -/
  | unpairedResiduals (forward backward : Nat)
  /-- A column of the Jacobian has neither one entry nor one for every row. -/
  | columnLength (found expected : Nat)
  | unread (error : PlaceError)
  /-- A change of the parameters is refused. -/
  | refused (error : PlaceError)
deriving Repr, DecidableEq

/-- An evaluation answers with a sum of squares, or with none if it failed. -/
structure Host (α σ : Type) where
  evaluate : Act α σ (Option α)
  /-- Adds a change to the parameters and evaluates. -/
  nudge : List α → Act α σ (Option α)
  /-- Rebuilds the Jacobian; the answer says whether every evaluation succeeded. -/
  buildJacobian : ExceptT Fault (Act α σ) Bool
  fetchJacobian : (row column : Int) → ExceptT Fault (Act α σ) α
  fetchResidual : (row : Int) → ExceptT Fault (Act α σ) α

def present {α : Type} : Option α → Except Fault α
  | some value => .ok value
  | none => .error (.unread .empty)

end OpticTune.Solver
