import OpticTune.Proofs.Scalar.Rational
import OpticTune.Solver.Config

namespace OpticTune.Solver

/-! What is known of settings that were accepted, in exact arithmetic. -/

theorem guard_eq_ok {ε β : Type} {condition : Prop} [Decidable condition] {error : ε}
    {rest : Except ε β} {value : β} :
    (do unless condition do throw error
        rest) = .ok value ↔ condition ∧ rest = .ok value := by
  by_cases holds : condition
  · simp [holds]
  · simp only [holds, ↓reduceIte, false_and, iff_false]
    nofun

/-- Settings are accepted if they pass every check, whatever the arithmetic. -/
theorem Config.make_eq_ok {α : Type} [Scalar α] {paramCount pointCount : ℤ}
    {tolerance boost shrink : α} {range : DampingRange α} {config : Config α} :
    make paramCount pointCount tolerance range boost shrink = .ok config ↔
      paramCount ≥ 1 ∧ pointCount ≥ 1 ∧ Scalar.lt 0 tolerance ∧ Scalar.lt 0 range.initial ∧
        (Scalar.lt 0 range.max ∧ Scalar.isFinite range.max) ∧
        ((Scalar.lt 0 shrink ∧ Scalar.lt shrink 1) ∧ Scalar.lt 1 boost) ∧
        config = ⟨tolerance, paramCount.toNat, pointCount.toNat, range.initial, range.max, boost,
          shrink⟩ := by
  simp only [make, guard_eq_ok, Bool.and_eq_true, pure, Except.pure, Except.ok.injEq,
    eq_comm (a := config)]

/-- The counts that are checked are the ones that are kept. -/
theorem Config.counts_of_make {α : Type} [Scalar α] {n m : ℕ} {tolerance boost shrink : α}
    {range : DampingRange α} {config : Config α}
    (made : make n m tolerance range boost shrink = .ok config) :
    config.pointCount = m ∧ config.paramCount = n := by
  obtain ⟨_, _, _, _, _, _, rfl⟩ := Config.make_eq_ok.mp made
  exact ⟨Int.toNat_natCast m, Int.toNat_natCast n⟩

structure Config.Accepted (config : Config ℚ) (m n : ℕ) : Prop where
  pointCount : config.pointCount = m
  paramCount : config.paramCount = n
  points : 0 < m
  params : 0 < n
  tolerance : 0 < config.tolerance
  initialDamping : 0 < config.initialDamping
  maxDamping : 0 < config.maxDamping
  shrink_pos : 0 < config.shrink
  shrink_lt_one : config.shrink < 1
  one_lt_boost : 1 < config.boost

variable {config : Config ℚ} {m n : ℕ} {tolerance boost shrink : ℚ} {damping : DampingRange ℚ}

theorem Config.Accepted.boost_pos (accepted : config.Accepted m n) : 0 < config.boost :=
  zero_lt_one.trans accepted.one_lt_boost

theorem Config.Accepted.boosted_pos (accepted : config.Accepted m n) {start : ℚ}
    (positive : 0 < start) (boosts : ℕ) : 0 < start * config.boost ^ boosts :=
  mul_pos positive (pow_pos accepted.boost_pos boosts)

theorem Config.accepted_of_make (made : make n m tolerance damping boost shrink = .ok config) :
    config.Accepted m n := by
  simp only [make, guard_eq_ok, Rational.lt_eq, Rational.isFinite_eq, decide_eq_true_eq,
    Bool.and_eq_true, Bool.and_true] at made
  obtain ⟨params, points, tolerance, initial, max, ⟨⟨shrink_pos, shrink_lt⟩, boost⟩, made⟩ := made
  cases Except.ok.inj made
  exact ⟨rfl, rfl, by omega, by omega, tolerance, initial, max, shrink_pos, shrink_lt, boost⟩

end OpticTune.Solver
