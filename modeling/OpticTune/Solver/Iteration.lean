import OpticTune.Linear.NormalEquations
import OpticTune.Solver.Trial

namespace OpticTune.Solver

/-! One outer iteration of damped least squares against a host.

The residuals are evaluated and the Jacobian rebuilt at the current parameters;
then damped steps are tried until one is kept or the damping reaches its
ceiling. A step that is not kept is undone by its exact opposite, so every trial
starts from the same parameters.
-/

open Linear (NormalEquations)

variable {α σ : Type} [Scalar α]

/-- Reads on at the places after those already read, up to `count` in all. -/
def readOn {m : Type → Type} [Monad m] {β : Type} {count : Nat} (read : Nat → m β) :
    {done : Nat} → Vector β done → (left : Nat) → done + left = count → m (Vector β count)
  | _, values, 0, full => return values.cast full
  | done, values, left + 1, full => do
    let value ← read done
    readOn read (values.push value) left (by omega)

/-- Reads at every place below `count`, in their order. The first read that faults
is the last. -/
def readEach {m : Type → Type} [Monad m] {β : Type} (count : Nat) (read : Nat → m β) :
    m (Vector β count) :=
  readOn read #v[] count (Nat.zero_add count)

/-- Reads the Jacobian row by row, then the residuals. -/
def Host.gather (host : Host α σ) (pointCount paramCount : Nat) :
    ExceptT Fault (Act α σ) (Table α pointCount paramCount × Vector α pointCount) := do
  let rows ← readEach pointCount fun i => readEach paramCount fun j => host.fetchJacobian i j
  let residuals ← readEach pointCount fun i => host.fetchResidual i
  return (⟨rows⟩, residuals)

variable (host : Host α σ) (config : Config α)

/-- Tries the step for one damping. The answer is how the iteration ends, or
none if the step was undone and more damping is called for. -/
def attempt {n : Nat} (equations : NormalEquations α n) (outer : Nat) (start : α)
    (inner : Nat) (damping : α) : ExceptT Fault (Act α σ) (Option (State α × Status)) := do
  let step := equations.step damping
  if !step.isUsable then
    Act.note (.stepUnusable inner damping)
    return none
  let delta := step.delta.toList
  let sos ← host.nudge delta
  let verdict ← judge config.tolerance sos start
  Act.note (.trialJudged inner damping sos start)
  match verdict with
  | .down => return some ({ damping := damping * config.shrink, outer, inner, sos }, .down)
  | .level => return some ({ damping := damping * config.shrink, outer, inner, sos }, .level)
  | .negligible =>
      discard <| host.nudge (delta.map Neg.neg)
      return some ({ damping, outer, inner, sos := some start }, .level)
  | .rejected =>
      discard <| host.nudge (delta.map Neg.neg)
      return none

/-- At most `limit` trials, the first with the damping given; `inner` trials have
been made before. -/
def trials {n : Nat} (equations : NormalEquations α n) (outer : Nat) (start : α) :
    (limit inner : Nat) → (damping : α) → ExceptT Fault (Act α σ) (State α × Status)
  | 0, _, _ => throw .endless
  | limit + 1, inner, damping => do
    if let some ending ← attempt host config equations outer start (inner + 1) damping then
      return ending
    let damping := damping * config.boost
    if Scalar.le config.maxDamping damping then
      Act.note (.dampingExhausted outer damping)
      return ({ damping, outer, inner := inner + 1, sos := some start }, .bad)
    trials equations outer start limit (inner + 1) damping

def iterateWithin (limit : Nat) (state : State α) :
    ExceptT Fault (Act α σ) (State α × Status) := do
  let outer := state.outer + 1
  let sos ← host.evaluate
  match sos with
  | some start =>
      if hasFailed sos then failed outer
      else if ← host.buildJacobian then
        let (jacobian, residuals) ← host.gather config.pointCount config.paramCount
        let equations := NormalEquations.ofJacobian jacobian residuals
        trials host config equations outer start limit 0 state.damping
      else
        Act.note (.jacobianFailed outer)
        return ({ state with outer, inner := 0, sos }, .bad)
  | none => failed outer
where
  failed (outer : Nat) : ExceptT Fault (Act α σ) (State α × Status) := do
    Act.note (.startFailed outer)
    return ({ state with outer, inner := 0 }, .bad)

/-- One outer iteration. The damping is boosted after every rejected trial, so
the number of trials it takes to reach its ceiling bounds them all. -/
def iterate (state : State α) : ExceptT Fault (Act α σ) (State α × Status) :=
  iterateWithin host config
    (Scalar.growthBound state.damping config.boost config.maxDamping) state

end OpticTune.Solver
