import OpticTune.Argument
import OpticTune.Options

namespace OpticTune.Options

/-! Options given by name. -/

variable {α σ : Type} [Scalar α]

def ofArguments (arguments : Arguments α) : ExceptT ArgumentError (Act α σ) (Options α) := do
  liftM (arguments.checkNames [] ["step", "max_iterations", "tolerance"])
  let step ← liftM (arguments.optional "step" Argument.toReal)
  let maxIterations ← liftM (arguments.optional "max_iterations" Argument.toWhole)
  let tolerance ← liftM (arguments.optional "tolerance" Argument.toReal)
  ExceptT.lift (usual step maxIterations tolerance)

end OpticTune.Options
