import OpticTune.Sample.Halting
import OpticTune.Solver.Host
import OpticTune.Solver.Landscape
import OpticTune.Table

namespace OpticTune.Sample

/-! A host that answers from a script, whatever its parameters are. The last
answer of every kind is repeated for ever; where there is none of a kind, who
asks gets stuck, and so does a change of a parameter there is none of. Places
count from the end where they are negative. -/

variable {α : Type}

structure Script (α : Type) where
  jacobian : List (List α)
  residuals : List α
  initial : List α
  trials : List α
  builds : List Bool

/-- How far a script has been followed. -/
structure Bookmark (α : Type) where
  params : List α
  deltas : List (List α)
  evaluations : Nat
  builds : Nat
  nudges : Nat

abbrev Reading (α : Type) : Type :=
  Halting (Bookmark α)

/-- The beginning: a parameter for every column, all of them zero. -/
def Script.start [Zero α] (script : Script α) : Reading α :=
  .start {
    params := (script.jacobian.headD []).map fun _ => 0
    deltas := []
    evaluations := 0
    builds := 0
    nudges := 0
  }

namespace Script

variable [Scalar α]

/-- The answer at a place; the last one after all others. -/
def answer {β : Type} (answers : List β) (place : Nat) : Act α (Reading α) (Option β) := do
  match answers[place]?.or answers.getLast? with
  | some value => return some value
  | none =>
      modify Halting.mark
      return none

def move (delta : List α) : Act α (Reading α) Unit := do
  modify fun reading =>
    let mark := reading.now
    { reading with
      now.deltas := mark.deltas ++ [delta], now.params := Solver.moved mark.params delta }
  if (← get).now.params.length < delta.length then modify Halting.mark

def host (script : Script α) : Solver.Host α (Reading α) where
  evaluate := do
    let mark := (← get).now
    modify fun reading => { reading with now.evaluations := mark.evaluations + 1 }
    answer script.initial mark.evaluations
  nudge delta := do
    move delta
    let mark := (← get).now
    modify fun reading => { reading with now.nudges := mark.nudges + 1 }
    answer script.trials mark.nudges
  buildJacobian := ExceptT.lift do
    let mark := (← get).now
    modify fun reading => { reading with now.builds := mark.builds + 1 }
    return (← answer script.builds mark.builds).getD false
  fetchJacobian row column := Solver.present do
    entryAt? (← entryAt? script.jacobian row) column
  fetchResidual row := Solver.present (entryAt? script.residuals row)

end Script

end OpticTune.Sample
