import OpticTune.Proofs.Solver.Fit
import OpticTune.Proofs.Solver.LineSearch

namespace OpticTune.Solver

open Act (Returns)

/-! A fit on a landscape is one search after another, each from where the one
before ended. -/

variable {m n : ℕ}

def Ending.answer (ending : Ending n) : State ℚ × Status :=
  (ending.state, ending.status)

section Course

variable (landscape : Landscape ℚ m n) (steps : Vector ℚ n) (config : Config ℚ)

/-- The endings of the searches of a fit, up to the first that is no improvement. -/
inductive Course : (Fin n → ℚ) → State ℚ → List (Ending n) → Prop where
  | stops {params state ending} : LineSearch landscape steps config params state ending →
      ending.status.isTerminal = true → Course params state [ending]
  | improves {params state ending rest} :
      LineSearch landscape steps config params state ending →
      ending.status.isTerminal = false → Course ending.params ending.state rest →
      Course params state (ending :: rest)

end Course

variable {landscape : Landscape ℚ m n} {steps : Vector ℚ n} {config : Config ℚ}
  {params : Fin n → ℚ} {state : State ℚ} {ending : Ending n} {endings : List (Ending n)}

theorem LineSearch.damping_pos (accepted : config.Accepted m n) (positive : 0 < state.damping)
    (search : LineSearch landscape steps config params state ending) :
    0 < ending.state.damping := by
  have grown : ∀ k, 0 < state.damping * config.boost ^ k := accepted.boosted_pos positive
  cases search with
  | startFails | jacobianFails => exact positive
  | searched _ found =>
      cases found with
      | kept => exact mul_pos (grown _) accepted.shrink_pos
      | negligible | exhausted => exact grown _

theorem exists_lineSearch (nonneg : ∀ place sos, landscape.sos place = some sos → 0 ≤ sos)
    (steps : Vector ℚ n) (accepted : config.Accepted m n) (positive : 0 < state.damping)
    (params : Fin n → ℚ) : ∃ ending, LineSearch landscape steps config params state ending := by
  have standing : (Problem.initial ⟨params, []⟩ : Measured ℚ (Standing ℚ n) m n).problem.params =
      params := rfl
  obtain ⟨ending, _, _, _, search⟩ :=
    iterate_spec landscape.follows nonneg steps accepted positive standing
  exact ⟨ending, search⟩

/-- Calls that follow one another, whatever they answer. -/
inductive Calls {σ : Type} (host : Host ℚ σ) (config : Config ℚ) :
    State ℚ → σ → List (State ℚ × Status) → σ → Prop where
  | nil {state before} : Calls host config state before [] before
  | cons {state before answer middle answers after} :
      Returns (iterate host config state) before answer middle →
      Calls host config answer.1 middle answers after →
      Calls host config state before (answer :: answers) after

section Run

variable {σ : Type} {problem : Problem ℚ σ} {stands : (Fin n → ℚ) → σ → Prop}
  {fit : Fit ℚ (Measured ℚ σ m n)}

/-- One call of a fit is one search. -/
theorem returns_iterate_of_lineSearch (follows : problem.Follows landscape stands)
    (nonneg : ∀ place sos, landscape.sos place = some sos → 0 ≤ sos)
    (accepted : config.Accepted m n) (positive : 0 < fit.solver.damping)
    (standing : stands params fit.host.problem)
    (search : LineSearch landscape steps config params fit.solver ending) :
    ∃ after, Returns (Fit.iterate (problem.host steps) config) fit ending.answer
        ⟨after, ending.state⟩ ∧ stands ending.params after.problem := by
  obtain ⟨found, after, returned, standing, again⟩ :=
    iterate_spec follows nonneg steps accepted positive standing
  cases again.unique positive accepted.boost_pos search
  exact ⟨after, Fit.returns_iterate.mpr ⟨after, returned, rfl⟩, standing⟩

/-- Whatever the limit, a fit makes the first calls of its course. -/
theorem Course.returns_run (follows : problem.Follows landscape stands)
    (nonneg : ∀ place sos, landscape.sos place = some sos → 0 ≤ sos)
    (accepted : config.Accepted m n) (fit : Fit ℚ (Measured ℚ σ m n))
    (positive : 0 < fit.solver.damping) (standing : stands params fit.host.problem)
    (course : Course landscape steps config params fit.solver endings) (limit : ℕ) :
    ∃ final, Returns (Fit.run (problem.host steps) config limit) fit
        ((endings.take limit).map Ending.answer) final ∧
      final.solver = ((endings.take limit).map Ending.state).getLastD fit.solver ∧
      stands (((endings.take limit).map Ending.params).getLastD params) final.host.problem := by
  obtain ⟨state, same⟩ : ∃ state, fit.solver = state := ⟨_, rfl⟩
  rw [same] at course
  induction course generalizing fit limit with
  | @stops params state ending search terminal =>
      cases limit with
      | zero => exact ⟨fit, Fit.returns_run_zero.mpr ⟨rfl, rfl⟩, rfl, standing⟩
      | succ limit =>
          rw [← same] at search
          obtain ⟨after, called, standing⟩ :=
            returns_iterate_of_lineSearch follows nonneg accepted positive standing search
          rw [List.take_succ_cons, List.take_nil]
          refine ⟨⟨after, ending.state⟩, Fit.returns_run_succ.mpr ⟨_, _, called, ?_⟩, rfl, standing⟩
          rw [if_pos (show ending.answer.2.isTerminal = true from terminal)]
          exact ⟨rfl, rfl⟩
  | @improves params state ending rest search further _ ih =>
      cases limit with
      | zero => exact ⟨fit, Fit.returns_run_zero.mpr ⟨rfl, rfl⟩, rfl, standing⟩
      | succ limit =>
          rw [← same] at search
          obtain ⟨after, called, standing⟩ :=
            returns_iterate_of_lineSearch follows nonneg accepted positive standing search
          obtain ⟨final, returned, last, standing⟩ :=
            ih ⟨after, ending.state⟩ (search.damping_pos accepted positive) standing limit rfl
          rw [List.take_succ_cons, List.map_cons, List.map_cons, List.map_cons,
            List.getLastD_cons, List.getLastD_cons]
          refine ⟨final, Fit.returns_run_succ.mpr ⟨_, _, called, ?_⟩, last, standing⟩
          rw [if_neg (by simp [Ending.answer, further])]
          exact ⟨_, returned, rfl⟩

end Run

end OpticTune.Solver
