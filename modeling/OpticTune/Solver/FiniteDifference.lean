import OpticTune.Solver.Host
import OpticTune.Solver.Trial
import OpticTune.Table

namespace OpticTune.Solver

/-! Hosts that measure their Jacobian by central differences.

A problem says how a change is applied to its parameters, how it is evaluated
and what the latest residuals are. The host made of it measures column `j` by
moving parameter `j` one step forward, two steps back and one forward again,
evaluating after every move; the moves are taken back when an evaluation fails,
and the Jacobian is replaced only after every column is measured.
-/

variable {α σ : Type} [Scalar α] {m n : Nat}

structure Problem (α σ : Type) where
  apply : List α → Act α σ Unit
  evaluate : Act α σ (Option α)
  residuals : Act α σ (List α)

/-- A problem's state beside the Jacobian last measured. -/
structure Measured (α σ : Type) (m n : Nat) where
  jacobian : Table α m n
  problem : σ

namespace Problem

def nudge (problem : Problem α σ) (delta : List α) : Act α σ (Option α) := do
  problem.apply delta
  problem.evaluate

/-- Pairs the residuals on the two sides of a parameter; a lone residual is
paired with every one of the other side. -/
def pair (forward backward : List α) : Except Fault (List (α × α)) :=
  if forward.length = backward.length then .ok (forward.zip backward)
  else
    match forward, backward with
    | [x], _ => .ok (backward.map fun y => (x, y))
    | _, [y] => .ok (forward.map fun x => (x, y))
    | _, _ => .error (.unpairedResiduals forward.length backward.length)

/-- A column with the given entries; a lone entry fills it. -/
def column (m : Nat) (entries : List α) : Except Fault (Vector α m) :=
  if h : entries.length = m then .ok (exactVector entries h)
  else
    match entries with
    | [x] => .ok (Vector.replicate m x)
    | _ => .error (.columnLength entries.length m)

def differences (m : Nat) (forward backward : List α) (step : α) : Except Fault (Vector α m) := do
  let pairs ← pair forward backward
  column m (pairs.map fun (after, before) => (after - before) / (step + step))

def single (n : Nat) (j : Fin n) (amount : α) : List α :=
  (Vector.ofFn fun k => if k = j then amount else 0).toList

/-- Measures one column; none if an evaluation failed. The parameters end where
they started. -/
def measureColumn (problem : Problem α σ) (m : Nat) (steps : Vector α n) (j : Fin n) :
    ExceptT Fault (Act α σ) (Option (Vector α m)) := do
  let step := steps.get j
  if hasFailed (← problem.nudge (single n j step)) then
    Act.note (.columnFailed j .forward)
    problem.apply (single n j (-step))
    return none
  let forward ← problem.residuals
  if hasFailed (← problem.nudge (single n j (-(step + step)))) then
    Act.note (.columnFailed j .backward)
    problem.apply (single n j step)
    return none
  let backward ← problem.residuals
  let column ← differences m forward backward step
  if hasFailed (← problem.nudge (single n j step)) then
    Act.note (.columnFailed j .restore)
    return none
  return some column

/-- Measures the columns listed, in their order; none as soon as one fails. -/
def measureColumns (problem : Problem α σ) (steps : Vector α n) :
    List (Fin n) → Table α m n → ExceptT Fault (Act α σ) (Option (Table α m n))
  | [], jacobian => return some jacobian
  | j :: rest, jacobian => do
    match ← problem.measureColumn m steps j with
    | some column => measureColumns problem steps rest (jacobian.setColumn j column)
    | none => return none

/-- The change that the measuring of all columns begins with. -/
def firstChange (steps : Vector α n) : List α :=
  match List.finRange n with
  | [] => []
  | j :: _ => single n j (steps.get j)

variable (problem : Problem α σ)

def onProblem {β : Type} (action : Act α σ β) : Act α (Measured α σ m n) β :=
  Act.within Measured.problem (fun state problem => { state with problem }) action

def buildJacobian (steps : Vector α n) :
    ExceptT Fault (Act α (Measured α σ m n)) Bool := do
  let measured : ExceptT Fault (Act α (Measured α σ m n)) (Option (Table α m n)) :=
    onProblem (problem.measureColumns steps (List.finRange n) Table.zeros).run
  match ← measured with
  | some jacobian =>
      modify fun state => { state with jacobian }
      return true
  | none => return false

def host (steps : Vector α n) : Host α (Measured α σ m n) where
  evaluate := onProblem problem.evaluate
  nudge delta := onProblem (problem.nudge delta)
  buildJacobian := problem.buildJacobian steps
  fetchJacobian row column := do ((← get).jacobian.read row column).mapError Fault.unread
  fetchResidual row := do
    let residuals : List α ← ExceptT.lift (onProblem problem.residuals)
    (readNearest residuals row).mapError Fault.unread

def initial (state : σ) : Measured α σ m n :=
  { jacobian := Table.zeros, problem := state }

end Problem

end OpticTune.Solver
