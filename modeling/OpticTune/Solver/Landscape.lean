import OpticTune.Solver.FiniteDifference

namespace OpticTune.Solver

/-! Problems whose evaluation depends on their parameters alone. -/

variable {α : Type} {m n : Nat}

/-- Parameters with a change added; entries the change does not have stay. -/
def moved [Add α] : (params delta : List α) → List α
  | x :: params, change :: delta => (x + change) :: moved params delta
  | params, _ => params

/-- The sum of squares at every place, none where the evaluation fails, and the
residuals at every other place. -/
structure Landscape (α : Type) (m n : Nat) where
  sos : (Fin n → α) → Option α
  residuals : (Fin n → α) → Fin m → α

/-- Where the host of a landscape stands. A failed evaluation leaves the residuals
of the one before. -/
structure Standing (α : Type) (n : Nat) where
  params : Fin n → α
  residuals : List α

def Landscape.problem [Add α] [Zero α] (landscape : Landscape α m n) :
    Problem α (Standing α n) where
  apply delta := modify fun standing =>
    { standing with params := fun j => standing.params j + delta.getD j 0 }
  evaluate := do
    let params := (← get).params
    match landscape.sos params with
    | some sos =>
        modify fun standing =>
          { standing with residuals := List.ofFn (landscape.residuals params) }
        return some sos
    | none => return none
  residuals := return (← get).residuals

end OpticTune.Solver
