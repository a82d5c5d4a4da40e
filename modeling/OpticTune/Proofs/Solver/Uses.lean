import OpticTune.Proofs.Solver.Agrees
import OpticTune.Proofs.Solver.Keeps

namespace OpticTune.Solver

open Act (Keeps)

/-! Problems used in any way.

A problem may be evaluated, changed, measured and iterated on in any order, and
what comes after a failure starts from what the failure left. What every action of
a problem keeps is kept by any use of it, and problems that answer alike are used
alike.
-/

variable {α σ τ : Type}

inductive Use (α : Type) where
  | evaluate
  | apply (delta : List α)
  | nudge (delta : List α)
  | buildJacobian
  | iterate (config : Config α) (state : State α)

namespace Problem

variable [Scalar α] {m n : Nat}

/-- The answers are left out. -/
def use (problem : Problem α σ) (steps : Vector α n) : Use α → Act α (Measured α σ m n) Unit
  | .evaluate => do let _ ← (problem.host steps).evaluate
  | .apply delta => onProblem (problem.apply delta)
  | .nudge delta => do let _ ← (problem.host steps).nudge delta
  | .buildJacobian => do let _ ← (problem.host steps).buildJacobian.run
  | .iterate config state => do let _ ← (Solver.iterate (problem.host steps) config state).run

def useAll (problem : Problem α σ) (steps : Vector α n) :
    List (Use α) → Act α (Measured α σ m n) Unit
  | [] => pure ()
  | use :: rest => do
    problem.use steps use
    problem.useAll steps rest

theorem KeptBy.useAll {problem : Problem α σ} {holds : σ → Prop} (kept : problem.KeptBy holds)
    (steps : Vector α n) (uses : List (Use α)) :
    Keeps (fun state : Measured α σ m n => holds state.problem) (problem.useAll steps uses) := by
  have host := kept.host (m := m) steps
  have once (use : Use α) :
      Keeps (fun state : Measured α σ m n => holds state.problem) (problem.use steps use) := by
    cases use with
    | evaluate => exact host.evaluate.bind fun _ => Act.keeps_pure _
    | apply delta => exact (kept.apply delta).within _ _ (fun _ held => held) fun _ _ _ held => held
    | nudge delta => exact (host.nudge delta).bind fun _ => Act.keeps_pure _
    | buildJacobian => exact Keeps.bind host.buildJacobian fun _ => Act.keeps_pure _
    | iterate config state =>
        exact Keeps.bind (host.iterate config state) fun _ => Act.keeps_pure _
  induction uses with
  | nil => exact Act.keeps_pure _
  | cons use rest ih => exact (once use).bind fun _ => ih

theorem Agrees.useAll {first : Problem α σ} {second : Problem α τ} {rel : σ → τ → Prop}
    (agrees : first.Agrees second rel) (steps : Vector α n) (uses : List (Use α)) :
    Act.Agrees (Measured.Related (m := m) rel) (first.useAll steps uses)
      (second.useAll steps uses) := by
  have host := agrees.host (m := m) steps
  have once (use : Use α) : Act.Agrees (Measured.Related (m := m) rel) (first.use steps use)
      (second.use steps use) := by
    cases use with
    | evaluate => exact host.evaluate.bind fun _ => Act.agrees_pure _
    | apply delta =>
        exact (agrees.apply delta).within (fun _ _ related => related.2)
          fun _ _ _ _ related inner => ⟨related.1, inner⟩
    | nudge delta => exact (host.nudge delta).bind fun _ => Act.agrees_pure _
    | buildJacobian => exact Act.Agrees.bind host.buildJacobian fun _ => Act.agrees_pure _
    | iterate config state =>
        exact Act.Agrees.bind (host.iterate config state) fun _ => Act.agrees_pure _
  induction uses with
  | nil => exact Act.agrees_pure _
  | cons use rest ih => exact (once use).bind fun _ => ih

end Problem

end OpticTune.Solver
