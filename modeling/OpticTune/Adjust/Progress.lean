import OpticTune.Solver.Status

namespace OpticTune.Adjust

/-! What a display shows of an adjustment after each tick. -/

open Solver (Status)

variable {α : Type}

inductive Note where
  | none
  /-- With two goals the residuals are the coordinates of a point, and the radius
  about the goal is worth showing. -/
  | rssRadius
  /-- Wavefront errors and other goals are summed up in one figure. -/
  | mixedGoals
deriving Repr, DecidableEq

structure Progress (α : Type) where
  iteration : Nat
  rms : α
  rayCount : Nat
  goalCount : Nat
  termCount : Nat
  adjustableCount : Nat
  status : Option Status
  note : Note

/-- Whether the residuals of a ray are the coordinates of a point. -/
def hasRadius (goalCount : Int) : Bool :=
  goalCount == 2

def Note.ofGoals (goalCount : Nat) (wavefrontGoal : Bool) : Note :=
  if 1 < goalCount && wavefrontGoal then .mixedGoals
  else if hasRadius goalCount then .rssRadius
  else .none

def Progress.message (progress : Progress α) : String :=
  Status.message progress.status

end OpticTune.Adjust
