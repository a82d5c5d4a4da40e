import OpticTune.Solver.Iteration

namespace OpticTune.Solver

/-! A fit: one outer iteration after another, as long as they improve it. -/

variable {α σ : Type} [Scalar α]

structure Fit (α σ : Type) where
  host : σ
  solver : State α

namespace Fit

def start (config : Config α) (host : σ) : Fit α σ :=
  { host, solver := .initial config }

def onHost {β : Type} (action : Act α σ β) : Act α (Fit α σ) β :=
  Act.within Fit.host (fun fit host => { fit with host }) action

variable (host : Host α σ) (config : Config α)

/-- One outer iteration; one that is stopped leaves the solver's state as it was. -/
def iterate : ExceptT Fault (Act α (Fit α σ)) (State α × Status) := do
  let fit ← get
  let iteration : ExceptT Fault (Act α (Fit α σ)) (State α × Status) :=
    onHost (Solver.iterate host config fit.solver).run
  let (solver, status) ← iteration
  modify fun fit => { fit with solver }
  return (solver, status)

/-- At most `limit` iterations, the last being the first that does not answer
`down`; the states they leave with their statuses. -/
def run : (limit : Nat) → ExceptT Fault (Act α (Fit α σ)) (List (State α × Status))
  | 0 => return []
  | limit + 1 => do
    let (solver, status) ← iterate host config
    if status.isTerminal then return [(solver, status)]
    return (solver, status) :: (← run limit)

end Fit

end OpticTune.Solver
