import OpticTune.Proofs.Linear.NonFinite
import OpticTune.Proofs.Solver.Config
import OpticTune.Proofs.Solver.Iteration
import OpticTune.Proofs.Solver.Recorded
import OpticTune.Sample.Script

namespace OpticTune.Solver

open Act (Returns)
open Linear (NormalEquations Step)

/-! Data that is not finite moves nothing.

None of the trials has a usable step then, so no step is ever sent: the damping is
boosted up to its ceiling, and the iteration ends where it began.
-/

section Unusable

variable {α : Type} [Scalar α] {config : Config α} {n : ℕ} {equations : NormalEquations α n}

/-- How many trials are made does not depend on the host. -/
theorem returns_trials_of_unusable (outer : ℕ) (start : α)
    (unusable : ∀ damping, (equations.step damping).isUsable = false)
    {count limit : ℕ} (room : count < limit) (inner : ℕ) {damping : α}
    (reached : Scalar.le config.maxDamping
      (Scalar.grown damping config.boost (count + 1)) = true) :
    ∃ made, Scalar.le config.maxDamping (Scalar.grown damping config.boost (made + 1)) = true ∧
      ∀ {σ : Type} (host : Host α σ) (before : σ),
        Returns (trials host config equations outer start limit inner damping) before
          ({ damping := Scalar.grown damping config.boost (made + 1), outer
             inner := inner + (made + 1), sos := some start }, .bad) before := by
  induction limit generalizing count inner damping with
  | zero => omega
  | succ limit ih =>
      have undone : ∀ {σ : Type} (host : Host α σ) (before : σ),
          Returns (attempt host config equations outer start (inner + 1) damping) before
            none before := by
        intro σ host before
        rw [returns_attempt, if_neg (by simp [unusable])]
        exact ⟨rfl, rfl⟩
      cases exhausted : Scalar.le config.maxDamping (damping * config.boost) with
      | true =>
          refine ⟨0, exhausted, fun host before => ?_⟩
          refine returns_trials_succ.mpr ⟨none, before, undone host before, ?_⟩
          simp only [exhausted, ↓reduceIte, and_true]
          rfl
      | false =>
          cases count with
          | zero => exact absurd (exhausted.symm.trans reached) Bool.false_ne_true
          | succ count =>
              obtain ⟨made, ceiling, returned⟩ :=
                ih (Nat.lt_of_succ_lt_succ room) (inner + 1) reached
              refine ⟨made + 1, ceiling, fun host before => ?_⟩
              refine returns_trials_succ.mpr ⟨none, before, undone host before, ?_⟩
              simp only [exhausted, Bool.false_eq_true, ↓reduceIte]
              rw [show inner + (made + 1 + 1) = inner + 1 + (made + 1) by omega]
              exact returned host before

end Unusable

section Extended

variable {config : Config Extended} {state : State Extended}

theorem iterate_of_unusable (grows : Scalar.lt 1 config.boost = true)
    (bounded : Scalar.isFinite config.maxDamping = true)
    (positive : Scalar.lt 0 state.damping = true) {start : Extended}
    (finite : Scalar.isFinite start = true)
    {jacobian : Table Extended config.pointCount config.paramCount}
    {residuals : Vector Extended config.pointCount}
    (unusable : ∀ damping,
      ((NormalEquations.ofJacobian jacobian residuals).step damping).isUsable = false) :
    ∃ final : State Extended, final.sos = some start ∧
      Scalar.le config.maxDamping final.damping = true ∧
      ∀ {σ : Type} (host : Host Extended σ) {before middle gathered : σ},
        (host.evaluate before).value = some start →
        Returns host.buildJacobian (host.evaluate before).state true middle →
        Returns (host.gather config.pointCount config.paramCount) middle
          (jacobian, residuals) gathered →
        Returns (iterate host config state) before (final, .bad) gathered := by
  obtain ⟨count, bound⟩ : ∃ count,
      Scalar.growthBound state.damping config.boost config.maxDamping = count + 1 :=
    ⟨_, (Nat.succ_pred_eq_of_pos (Extended.growthBound_pos _ _ _)).symm⟩
  have reached := Extended.le_grown_growthBound positive grows bounded
  rw [bound] at reached
  obtain ⟨made, ceiling, tried⟩ := returns_trials_of_unusable (state.outer + 1) start unusable
    (Nat.lt_succ_self count) 0 reached
  let final : State Extended :=
    { damping := Scalar.grown state.damping config.boost (made + 1), outer := state.outer + 1
      inner := 0 + (made + 1), sos := some start }
  refine ⟨final, rfl, ceiling, ?_⟩
  intro σ host before middle gathered evaluated built fetched
  have succeeded : hasFailed (host.evaluate before).value = false := by
    rw [evaluated, hasFailed, finite, Bool.not_true]
  rw [iterate, bound, returns_iterateWithin]
  simp only [succeeded, Bool.false_eq_true, ↓reduceIte]
  exact ⟨start, evaluated, true, middle, built, jacobian, residuals, gathered, fetched,
    tried host gathered⟩

theorem Config.bounds_of_make {paramCount pointCount : ℤ}
    {tolerance boost shrink : Extended} {range : DampingRange Extended}
    (made : make paramCount pointCount tolerance range boost shrink = .ok config) :
    0 < config.paramCount ∧ Scalar.isFinite config.maxDamping = true ∧
      Scalar.lt 1 config.boost = true := by
  simp only [make, guard_eq_ok, Bool.and_eq_true] at made
  obtain ⟨params, _, _, _, ⟨_, bounded⟩, ⟨_, grows⟩, made⟩ := made
  cases Except.ok.inj made
  exact ⟨by simp only; omega, bounded, grows⟩

/-- Equations with an entry that is not finite, or a damping that is not, have no
usable step. So an iteration that fetches an entry that is not finite evaluates,
builds and fetches, and then ends without a nudge. -/
theorem iterate_nonFinite :
    (∀ {n : ℕ} {equations : NormalEquations Extended n} {damping : Extended}, 0 < n →
      equations.Spoiled damping → equations.step damping = Step.unusable) ∧
    ∀ {config : Config Extended} {state : State Extended} {σ : Type} (host : Host Extended σ)
      {paramCount pointCount : ℤ} {tolerance boost shrink : Extended}
      {range : DampingRange Extended} {before middle gathered : σ} {start : Extended}
      {jacobian : Table Extended config.pointCount config.paramCount}
      {residuals : Vector Extended config.pointCount},
      Config.make paramCount pointCount tolerance range boost shrink = .ok config →
      Scalar.lt 0 state.damping = true →
      (host.evaluate before).value = some start →
      Scalar.isFinite start = true →
      Returns host.buildJacobian (host.evaluate before).state true middle →
      Returns (host.gather config.pointCount config.paramCount) middle
        (jacobian, residuals) gathered →
      ((∃ i j, Scalar.isFinite (jacobian.get i j) = false) ∨
        ∃ i, Scalar.isFinite (residuals.get i) = false) →
      ∃ final : State Extended, final.sos = some start ∧
        Scalar.le config.maxDamping final.damping = true ∧
        Returns (iterate host config state) before (final, .bad) gathered ∧
        Returns (iterate host.recorded config state) ⟨before, []⟩ (final, .bad)
          ⟨gathered, [.evaluate (some start), .buildJacobian true] ++
            gathering config.pointCount config.paramCount⟩ := by
  refine ⟨fun params spoiled => NormalEquations.step_of_spoiled params spoiled, ?_⟩
  intro config state σ host paramCount pointCount tolerance boost shrink range before middle
    gathered start jacobian residuals made positive evaluated finite built fetched spoiled
  obtain ⟨params, bounded, grows⟩ := Config.bounds_of_make made
  have unusable : ∀ damping,
      ((NormalEquations.ofJacobian jacobian residuals).step damping).isUsable = false := by
    intro damping
    rw [NormalEquations.step_of_spoiled params
      (NormalEquations.spoiled_ofJacobian params spoiled damping)]
    rfl
  obtain ⟨final, sos, ceiling, returns⟩ :=
    iterate_of_unusable grows bounded positive finite unusable
  refine ⟨final, sos, ceiling, returns host evaluated built fetched, ?_⟩
  have evaluatedRecorded : (host.recorded.evaluate ⟨before, []⟩).value = some start := evaluated
  have builtRecorded := returns_buildJacobian_recorded host [.evaluate (some start)] built
  have fetchedRecorded := records_gather host config.pointCount config.paramCount
    ([.evaluate (some start)] ++ [.buildJacobian true]) fetched
  refine returns host.recorded evaluatedRecorded ?_ fetchedRecorded
  rw [state_evaluate_recorded, evaluated]
  exact builtRecorded

end Extended

/-- A host one entry of whose Jacobian has overflown, though its residuals are zero. -/
def overflown : Sample.Script Extended where
  jacobian := [[1, .infinite false]]
  residuals := [0]
  initial := [1]
  trials := [0]
  builds := [true]

def unboundedConfig : Config Extended where
  tolerance := .finite (1 / 2)
  paramCount := 2
  pointCount := 1
  initialDamping := .infinite false
  maxDamping := .finite 100
  boost := .finite 2
  shrink := .finite (1 / 2)

theorem iterate_nonFinite_overflown :
    Scalar.isFinite (Extended.infinite false) = false ∧
    (NormalEquations.ofJacobian (⟨#v[#v[1, .infinite false]]⟩ : Table Extended 1 2) #v[0]).step
      (.infinite false) = Step.unusable ∧
    ∃ after final, final.sos = some 1 ∧
      Scalar.le unboundedConfig.maxDamping final.damping = true ∧
      Returns (iterate overflown.host unboundedConfig (.initial unboundedConfig)) overflown.start
        (final, .bad) after ∧
      Returns (iterate overflown.host.recorded unboundedConfig (.initial unboundedConfig))
        ⟨overflown.start, []⟩ (final, .bad)
        ⟨after, [.evaluate (some 1), .buildJacobian true] ++ gathering 1 2⟩ := by
  have evaluated : (overflown.host.evaluate overflown.start).value = some 1 := by
    with_unfolding_all rfl
  have built : Returns overflown.host.buildJacobian (overflown.host.evaluate overflown.start).state
      true ⟨⟨[0, 0], [], 1, 1, 0⟩, none⟩ :=
    ⟨by with_unfolding_all rfl, by with_unfolding_all rfl⟩
  have fetched : Returns (overflown.host.gather 1 2) ⟨⟨[0, 0], [], 1, 1, 0⟩, none⟩
      ((⟨#v[#v[1, .infinite false]]⟩ : Table Extended 1 2), (#v[0] : Vector Extended 1))
      ⟨⟨[0, 0], [], 1, 1, 0⟩, none⟩ :=
    ⟨by with_unfolding_all rfl, by with_unfolding_all rfl⟩
  have made : Config.make 2 1 (.finite (1 / 2)) ⟨.infinite false, .finite 100⟩ (.finite 2)
      (.finite (1 / 2)) = .ok unboundedConfig := by
    with_unfolding_all rfl
  have positive : Scalar.lt 0 (State.initial unboundedConfig).damping = true := rfl
  obtain ⟨equations, iterations⟩ := iterate_nonFinite
  obtain ⟨final, sos, ceiling, returned, recorded⟩ :=
    iterations overflown.host made positive evaluated rfl built fetched
      (.inl ⟨(0 : Fin 1), (1 : Fin 2), rfl⟩)
  exact ⟨rfl, equations two_pos (.inr (.inr rfl)), _, final, sos, ceiling, returned, recorded⟩

end OpticTune.Solver
