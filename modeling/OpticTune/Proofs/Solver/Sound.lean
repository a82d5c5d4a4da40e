import OpticTune.Proofs.Solver.Damping
import OpticTune.Proofs.Solver.Keeps
import OpticTune.Proofs.Solver.Steady

namespace OpticTune.Solver

open Act (Returns Stops)

/-! Problems that never stop an iteration, whatever the arithmetic.

Evaluations may fail and answer anything, as long as one more than a sum of
squares is not zero and the residuals are as many at every time. What is left to
stop an iteration is a damping that no number of boosts takes to its ceiling.
-/

variable {α σ : Type} [Scalar α] {m n : ℕ} {holds : σ → Prop}

structure Problem.Sound (problem : Problem α σ) (m : ℕ) (holds : σ → Prop) : Prop where
  kept : problem.KeptBy holds
  scale : ∀ ⦃state⦄, holds state → ∀ sos, (problem.evaluate state).value = some sos →
    Scalar.isZero (1 + sos) = false
  residuals : ∀ ⦃state⦄, holds state → (problem.residuals state).value.length = m

namespace Problem.Sound

variable {problem : Problem α σ} {before : σ} (sound : problem.Sound m holds)

include sound

theorem measureColumn (held : holds before) (steps : Vector α n) (j : Fin n) :
    ∃ column after, Returns (problem.measureColumn m steps j) before column after ∧ holds after := by
  have nudged {state : σ} (held : holds state) (delta : List α) := sound.kept.nudge delta held
  have asked {state : σ} (held : holds state) := sound.kept.residuals held
  simp only [returns_measureColumn]
  have forward := nudged held (single n j (steps.get j))
  split
  · exact ⟨none, _, ⟨rfl, rfl⟩, sound.kept.apply _ forward⟩
  · have backward := nudged (asked forward) (single n j (-(steps.get j + steps.get j)))
    split
    · exact ⟨none, _, ⟨rfl, rfl⟩, sound.kept.apply _ backward⟩
    · obtain ⟨column, measured⟩ := exists_differences (sound.residuals forward)
        (sound.residuals backward) (steps.get j)
      exact ⟨_, _, ⟨column, measured, rfl, rfl⟩, nudged (asked backward) _⟩

variable {steps : Vector α n} {before : Measured α σ m n}

theorem fetchResidual (held : holds before.problem) (i : Fin m) :
    ∃ entry after, Returns ((problem.host steps).fetchResidual i) before entry after ∧
      holds after.problem := by
  obtain ⟨value, read⟩ := exists_readNearest (sound.residuals held) i
  exact ⟨value, _, returns_fetchResidual.mpr ⟨read, rfl⟩, sound.kept.residuals held⟩

theorem gather (held : holds before.problem) (steps : Vector α n) :
    ∃ gathered after, Returns ((problem.host steps).gather m n) before gathered after := by
  have entry (i : Fin m) (j : Fin n) (state : Measured α σ m n) (held : holds state.problem) :
      ∃ entry after, Returns ((problem.host steps).fetchJacobian i j) state entry after ∧
        holds after.problem :=
    ⟨_, state, returns_fetchJacobian.mpr ⟨rfl, rfl⟩, held⟩
  obtain ⟨gathered, after, returned, -⟩ :=
    exists_gather entry (fun i _ held => sound.fetchResidual held i) held
  exact ⟨gathered, after, returned⟩

theorem ready {config : Config α} (points : config.pointCount = m) (params : config.paramCount = n)
    (held : holds before.problem) : (problem.host steps).Ready config before := by
  subst points params
  intro start evaluated _
  have kept : holds ((problem.host steps).evaluate before).state.problem :=
    sound.kept.evaluate held
  obtain ⟨built, middle, building, held'⟩ :=
    exists_buildJacobian (fun _ held j => sound.measureColumn held steps j) kept
  exact ⟨sound.scale held start evaluated, built, middle, building,
    fun _ => sound.gather held' steps⟩

end Problem.Sound

section Stops

variable {host : Host α σ} {config : Config α} {state : State α} {before : σ} {limit : ℕ}
  {fault : Fault}

/-- Nothing but a damping without a ceiling stops the trials. -/
theorem eq_endless_of_stops_trials {n : ℕ} {equations : Linear.NormalEquations α n}
    {outer inner : ℕ} {start damping : α} (scale : Scalar.isZero (1 + start) = false)
    (stopped : Stops (trials host config equations outer start limit inner damping) before fault) :
    fault = .endless := by
  induction limit generalizing inner damping before with
  | zero => exact Act.stops_throw.mp stopped
  | succ limit ih =>
      obtain ⟨ending, middle, attempted⟩ :=
        exists_returns_attempt scale host config equations outer (inner + 1) damping before
      rw [trials, attempted.stops_bind] at stopped
      cases ending with
      | some ending => exact absurd stopped Act.stops_pure
      | none =>
          simp only at stopped
          split at stopped
          · exact absurd (Act.stops_note_bind.mp stopped) Act.stops_pure
          · exact ih stopped

theorem Host.Ready.eq_endless_of_stops (ready : host.Ready config before)
    (stopped : Stops (iterateWithin host config limit state) before fault) : fault = .endless := by
  unfold iterateWithin iterateWithin.failed at stopped
  simp only [Act.stops_liftM_bind] at stopped
  cases evaluated : (host.evaluate before).value with
  | none =>
      rw [evaluated] at stopped
      exact absurd (Act.stops_note_bind.mp stopped) Act.stops_pure
  | some start =>
      rw [evaluated] at stopped
      simp only at stopped
      split at stopped
      · exact absurd (Act.stops_note_bind.mp stopped) Act.stops_pure
      · rename_i evaluates
        have finite : Scalar.isFinite start = true := by
          simpa [hasFailed] using evaluates
        obtain ⟨scale, built, middle, building, gathers⟩ := ready start evaluated finite
        rw [building.stops_bind] at stopped
        cases built with
        | false => exact absurd (Act.stops_note_bind.mp stopped) Act.stops_pure
        | true =>
            obtain ⟨data, gathered, fetched⟩ := gathers rfl
            rw [if_pos rfl, fetched.stops_bind] at stopped
            exact eq_endless_of_stops_trials scale stopped

end Stops

end OpticTune.Solver
