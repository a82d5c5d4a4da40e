namespace OpticTune.Solver

/-! The outcome of one outer iteration, as a driver sees it. -/

inductive Status where
  /-- The sum of squares improved by more than the tolerance; iterate again. -/
  | down
  /-- The improvement fell within the tolerance; the fit has converged. -/
  | level
  /-- The driver reached its iteration cap; no iteration answers this itself. -/
  | max
  /-- An evaluation failed, or the damping was exhausted. -/
  | bad
deriving Repr, DecidableEq

namespace Status

def all : List Status := [.down, .level, .max, .bad]

def name : Status → String
  | .down => "DOWN"
  | .level => "LEVEL"
  | .max => "MAX"
  | .bad => "BAD"

def number : Status → Int
  | .down => 0
  | .level => 1
  | .max => 2
  | .bad => 3

def ofNumber? (number : Int) : Option Status :=
  all.find? fun status => status.number == number

def isTerminal : Status → Bool
  | .down => false
  | _ => true

def message : Option Status → String
  | some .down => "Running..."
  | some .bad => "Ray risk. Stopping."
  | _ => ""

end Status

end OpticTune.Solver
