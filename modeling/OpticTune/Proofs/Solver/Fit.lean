import OpticTune.Proofs.Returns
import OpticTune.Solver.Fit

namespace OpticTune.Solver.Fit

open Act (Returns)

/-! One call of a fit and all its calls, for any host and arithmetic. -/

variable {α σ : Type} [Scalar α] {host : Host α σ} {config : Config α} {fit final : Fit α σ}

theorem returns_iterate {answer : State α × Status} :
    Returns (iterate host config) fit answer final ↔
      ∃ after, Returns (Solver.iterate host config fit.solver) fit.host answer after ∧
        final = { host := after, solver := answer.1 } := by
  rw [iterate, Act.returns_bind]
  simp only [Act.returns_get, Act.returns_bind]
  constructor
  · rintro ⟨_, _, ⟨rfl, rfl⟩, answer, _, returned, _, _, modified, done⟩
    obtain ⟨after, iterated, rfl⟩ := Act.returns_within.mp returned
    cases Act.returns_modify.mp modified
    obtain ⟨rfl, rfl⟩ := Act.returns_pure.mp done
    exact ⟨after, iterated, rfl⟩
  · rintro ⟨after, iterated, rfl⟩
    exact ⟨fit, fit, ⟨rfl, rfl⟩, answer, _, Act.returns_within.mpr ⟨after, iterated, rfl⟩, (), _,
      Act.returns_modify.mpr rfl, Act.returns_pure.mpr ⟨rfl, rfl⟩⟩

variable {outcomes : List (State α × Status)} {limit : Nat}

theorem returns_run_zero :
    Returns (run host config 0) fit outcomes final ↔ outcomes = [] ∧ final = fit :=
  Act.returns_pure

theorem returns_run_succ :
    Returns (run host config (limit + 1)) fit outcomes final ↔
      ∃ answer next, Returns (iterate host config) fit answer next ∧
        if answer.2.isTerminal then outcomes = [answer] ∧ final = next
        else ∃ rest, Returns (run host config limit) next rest final ∧
          outcomes = answer :: rest := by
  rw [run, Act.returns_bind]
  refine exists_congr fun answer => exists_congr fun next => and_congr_right fun _ => ?_
  obtain ⟨state, status⟩ := answer
  simp only
  split
  · exact Act.returns_pure
  · rw [Act.returns_bind]
    constructor
    · rintro ⟨rest, after, returned, done⟩
      obtain ⟨rfl, rfl⟩ := Act.returns_pure.mp done
      exact ⟨rest, returned, rfl⟩
    · rintro ⟨rest, returned, rfl⟩
      exact ⟨rest, final, returned, Act.returns_pure.mpr ⟨rfl, rfl⟩⟩

end OpticTune.Solver.Fit
