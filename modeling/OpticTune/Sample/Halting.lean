import OpticTune.Solver.FiniteDifference

namespace OpticTune.Sample

/-! States that remember where they first got stuck.

The actions of a host always answer. One that cannot do what it is asked marks
the state it stands in and answers anything; what is done after that is of no
account, and `stuck?` gives the state that was marked.
-/

variable {α σ : Type}

structure Halting (σ : Type) where
  now : σ
  stuckAt : Option σ

namespace Halting

def start (state : σ) : Halting σ where
  now := state
  stuckAt := none

def mark (state : Halting σ) : Halting σ :=
  { state with stuckAt := state.stuckAt.or (some state.now) }

def stuck? (state : Halting σ) : Option (Halting σ) :=
  state.stuckAt.map start

theorem stuck?_start (state : σ) : (start state).stuck? = none := rfl

theorem stuck?_mark_start (state : σ) : (start state).mark.stuck? = some (start state) := rfl

theorem mark_mark (state : Halting σ) : state.mark.mark = state.mark := by
  cases state with
  | mk now stuckAt => cases stuckAt <;> rfl

def inNow {β : Type} (action : Act α σ β) : Act α (Halting σ) β :=
  Act.within Halting.now (fun state now => { state with now }) action

/-- A problem whose changes may be refused; one that is gets it stuck where it was
stopped. -/
def problem {ε : Type} (problem : Solver.Problem α σ)
    (change : List α → ExceptT ε (Act α σ) Unit) : Solver.Problem α (Halting σ) where
  apply delta := do
    match ← inNow (change delta).run with
    | .ok () => return ()
    | .error _ => modify mark
  evaluate := inNow problem.evaluate
  residuals := inNow problem.residuals

end Halting

end OpticTune.Sample
