import Mathlib.Data.Rat.Floor
import OpticTune.Proofs.Solver.Course

namespace OpticTune.Solver

open Act (Returns)

/-! A fit on a landscape descends, and stops.

One call leaves the sum of squares of the parameters it leaves, never above the
one before, and an improvement takes the tolerance off at least. As no sum of
squares is negative, the improvements are numbered.
-/

variable {m n : ℕ} {landscape : Landscape ℚ m n}

/-- The calls of a fit from a sum of squares on, the last being the only one that is
no improvement. -/
inductive Descends (landscape : Landscape ℚ m n) (tolerance : ℚ) : ℚ → List (Ending n) → Prop where
  | stops {start sos ending} : ending.status = .level ∨ ending.status = .bad →
      landscape.sos ending.params = some sos → ending.state.sos = some sos → sos ≤ start →
      Descends landscape tolerance start [ending]
  | falls {start sos ending rest} : ending.status = .down →
      landscape.sos ending.params = some sos → ending.state.sos = some sos →
      1 + sos ≤ (1 - tolerance) * (1 + start) → Descends landscape tolerance sos rest →
      Descends landscape tolerance start (ending :: rest)

section Bounds

variable {tolerance start : ℚ} {endings : List (Ending n)}

theorem Descends.length_le (nonneg : ∀ place sos, landscape.sos place = some sos → 0 ≤ sos)
    (positive : 0 < tolerance) (above : 0 ≤ start)
    (descends : Descends landscape tolerance start endings) :
    endings.length ≤ ⌊start / tolerance⌋₊ + 1 := by
  induction descends with
  | stops => exact Nat.le_add_left 1 _
  | @falls start sos ending rest _ evaluated _ drop _ ih =>
      have sos_nonneg := nonneg ending.params sos evaluated
      have lower : sos / tolerance ≤ start / tolerance - 1 := by
        rw [div_sub_one positive.ne']
        gcongr
        nlinarith
      have fewer : ⌊sos / tolerance⌋₊ + 1 ≤ ⌊start / tolerance⌋₊ := by
        refine Nat.le_floor ?_
        push_cast
        linarith [Nat.floor_le (div_nonneg sos_nonneg positive.le)]
      exact Nat.succ_le_succ ((ih sos_nonneg).trans fewer)

/-- A tolerance of one or more asks for more than any fall gives. -/
theorem Descends.ne_down (nonneg : ∀ place sos, landscape.sos place = some sos → 0 ≤ sos)
    (large : 1 ≤ tolerance) (above : 0 ≤ start)
    (descends : Descends landscape tolerance start endings) :
    ∀ ending ∈ endings, ending.status ≠ .down := by
  cases descends with
  | stops ends _ _ _ =>
      intro ending member
      cases List.mem_singleton.mp member
      rcases ends with status | status <;> rw [status] <;> nofun
  | @falls _ sos ending _ _ evaluated _ drop _ =>
      have sos_nonneg := nonneg ending.params sos evaluated
      nlinarith

end Bounds

section Calls

variable {steps : Vector ℚ n} {config : Config ℚ} {params : Fin n → ℚ} {state : State ℚ}
  {start : ℚ} {ending : Ending n} {endings : List (Ending n)}

theorem rise_le_iff (above : 0 ≤ start) {sos bound : ℚ} :
    rise start sos ≤ bound ↔ sos - start ≤ bound * (1 + start) :=
  div_le_iff₀ (by positivity)

/-- One search, as it bears on the sum of squares. -/
theorem LineSearch.descends (above : 0 ≤ start) (started : landscape.sos params = some start)
    (search : LineSearch landscape steps config params state ending) :
    ∃ sos, landscape.sos ending.params = some sos ∧ ending.state.sos = some sos ∧
      ((ending.status = .down ∧ 1 + sos ≤ (1 - config.tolerance) * (1 + start)) ∨
        ((ending.status = .level ∨ ending.status = .bad) ∧ sos ≤ start)) := by
  cases search with
  | startFails failed => exact absurd (failed.symm.trans started) nofun
  | jacobianFails again _ =>
      cases Option.some.inj (started.symm.trans again)
      exact ⟨start, started, rfl, .inr ⟨.inr rfl, le_rfl⟩⟩
  | searched search found =>
      cases Option.some.inj (started.symm.trans search.start)
      cases found with
      | @kept _ sos _ evaluated falls =>
          refine ⟨sos, evaluated, rfl, ?_⟩
          by_cases drops : rise start sos ≤ -config.tolerance
          · have drop := (rise_le_iff above).mp drops
            exact .inl ⟨if_pos drops, by linarith⟩
          · have fall := (rise_le_iff above).mp falls
            exact .inr ⟨.inl (if_neg drops), by linarith⟩
      | negligible => exact ⟨start, started, rfl, .inr ⟨.inl rfl, le_rfl⟩⟩
      | exhausted => exact ⟨start, started, rfl, .inr ⟨.inr rfl, le_rfl⟩⟩

/-- Every fit comes to an end. -/
theorem exists_course (nonneg : ∀ place sos, landscape.sos place = some sos → 0 ≤ sos)
    (steps : Vector ℚ n) (accepted : config.Accepted m n) (state : State ℚ)
    (positive : 0 < state.damping) (started : landscape.sos params = some start) :
    ∃ endings, Course landscape steps config params state endings ∧
      Descends landscape config.tolerance start endings := by
  obtain ⟨bound, bounded⟩ : ∃ bound : ℕ, start < bound * config.tolerance := by
    obtain ⟨bound, larger⟩ := exists_nat_gt (start / config.tolerance)
    exact ⟨bound, (div_lt_iff₀ accepted.tolerance).mp larger⟩
  induction bound generalizing params state start with
  | zero =>
      have above := nonneg params start started
      rw [Nat.cast_zero, zero_mul] at bounded
      exact absurd bounded above.not_gt
  | succ bound ih =>
      have above := nonneg params start started
      obtain ⟨ending, search⟩ := exists_lineSearch nonneg steps accepted positive params
      obtain ⟨sos, evaluated, kept, ⟨status, drop⟩ | ⟨status, stays⟩⟩ :=
        search.descends above started
      · have lower : sos < bound * config.tolerance := by
          push_cast at bounded
          nlinarith [accepted.tolerance]
        obtain ⟨rest, course, descends⟩ :=
          ih ending.state (search.damping_pos accepted positive) evaluated lower
        exact ⟨ending :: rest, .improves search (by rw [status]; rfl) course,
          .falls status evaluated kept drop descends⟩
      · refine ⟨[ending], .stops search ?_, .stops status evaluated kept stays⟩
        rcases status with status | status <;> rw [status] <;> rfl

end Calls

section Run

variable {σ : Type} {problem : Problem ℚ σ} {stands : (Fin n → ℚ) → σ → Prop}
  {config : Config ℚ} {before : Measured ℚ σ m n} {params : Fin n → ℚ} {start : ℚ}

/-- A fit that starts where it can be evaluated descends and stops in time. -/
theorem run_descends (follows : problem.Follows landscape stands)
    (nonneg : ∀ place sos, landscape.sos place = some sos → 0 ≤ sos) (steps : Vector ℚ n)
    {tolerance boost shrink : ℚ} {range : DampingRange ℚ}
    (made : Config.make n m tolerance range boost shrink = .ok config)
    (standing : stands params before.problem) (started : landscape.sos params = some start) :
    ∃ endings, Descends landscape config.tolerance start endings ∧
      endings.length ≤ ⌊start / config.tolerance⌋₊ + 1 ∧
      (1 ≤ config.tolerance → ∀ ending ∈ endings, ending.status ≠ .down) ∧
      ∀ limit, ∃ final,
        Returns (Fit.run (problem.host steps) config limit) (Fit.start config before)
          ((endings.take limit).map Ending.answer) final ∧
        final.solver = ((endings.take limit).map Ending.state).getLastD (.initial config) ∧
        stands (((endings.take limit).map Ending.params).getLastD params) final.host.problem := by
  have accepted := Config.accepted_of_make made
  have above := nonneg params start started
  obtain ⟨endings, course, descends⟩ := exists_course nonneg steps accepted (.initial config)
    accepted.initialDamping started
  exact ⟨endings, descends, descends.length_le nonneg accepted.tolerance above,
    fun large => descends.ne_down nonneg large above,
    Course.returns_run follows nonneg accepted (Fit.start config before)
      accepted.initialDamping standing course⟩

end Run

theorem run_descends_parabola :
    Config.make 1 1 (1 / 10) ⟨1, 100⟩ 2 (1 / 2) = .ok parabolaConfig ∧
    ∃ endings, Descends parabola (1 / 10) 1 endings ∧
      endings.length ≤ ⌊(1 : ℚ) / (1 / 10)⌋₊ + 1 ∧
      ((1 : ℚ) ≤ 1 / 10 → ∀ ending ∈ endings, ending.status ≠ .down) ∧
      ∀ limit, ∃ final,
        Returns (Fit.run parabolaHost parabolaConfig limit) (Fit.start parabolaConfig parabolaStart)
          ((endings.take limit).map Ending.answer) final ∧
        final.solver = ((endings.take limit).map Ending.state).getLastD (.initial parabolaConfig) ∧
        final.host.problem.params =
          ((endings.take limit).map Ending.params).getLastD fun _ => 0 := by
  have made : Config.make 1 1 (1 / 10) ⟨1, 100⟩ 2 (1 / 2) = .ok parabolaConfig := by
    with_unfolding_all rfl
  exact ⟨made, run_descends parabola.follows parabola_nonneg #v[1 / 2] made rfl (by decide +kernel)⟩

end OpticTune.Solver
