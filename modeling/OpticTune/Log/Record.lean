import OpticTune.Options.Value
import OpticTune.Solver.Status

namespace OpticTune.Log

/-! What a fit reports while it runs, as data; `Log.Text` words it. -/

open Solver (Status)
open Options (Value Quantity)

/-- The three moves that measure one column of a Jacobian. -/
inductive Move where
  | forward
  | backward
  | restore
deriving Repr, DecidableEq

inductive Record (α : Type) where
  | startFailed (iteration : Nat)
  | jacobianFailed (iteration : Nat)
  | stepUnusable (trial : Nat) (damping : α)
  | trialJudged (trial : Nat) (damping : α) (sos : Option α) (start : α)
  | dampingExhausted (iteration : Nat) (damping : α)
  | columnFailed (column : Nat) (move : Move)
  | raysLost (traced expected : Nat)
  | rayWentBad (ray : Nat)
  | raySteered (ray iterations : Nat) (sos : Option α)
  | startsDiffer (atSetup atSteering : Nat)
  | steeringDone (adjusted failed rays : Nat)
  | adjustmentReady (adjustables rays goals : Nat) (rms : α)
  | ticked (tick : Nat) (status : Status) (rms damping : α)
  | adjustmentDone (ticks : Nat) (status : Status) (rms : α)
  | optionClamped (name : String) (given low high used : Quantity α)
  | optionsLoaded (path : String) (entries : List (Value α × Value α))

end OpticTune.Log
