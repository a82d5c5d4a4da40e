import OpticTune.Proofs.Scalar.Climbing
import OpticTune.Proofs.Solver.Config
import OpticTune.Proofs.Solver.Damping
import OpticTune.Sample.Script

namespace OpticTune.Solver

open Act (Returns Stops)
open Scalar (grown)

/-! The damping of doubles.

A double is boosted to every ceiling as long as one boost makes it larger, which
all doubles of full digits are. An accepted trial shrinks the damping, though, and
nothing keeps a long run of them from shrinking it to where the boost is rounded
away, or to zero. From there a host that fails every trial is tried for ever.
-/

namespace Config

/-- What is known of doubles that were accepted as settings. -/
structure Checked (config : Config Float) : Prop where
  initialDamping : 0.0 < config.initialDamping
  maxDamping : 0.0 < config.maxDamping
  shrink_pos : 0.0 < config.shrink
  shrink_lt_one : config.shrink < 1.0
  one_lt_boost : 1.0 < config.boost

variable {config : Config Float} {paramCount pointCount : ℤ} {tolerance boost shrink : Float}
  {range : DampingRange Float}

theorem checked_of_make
    (made : make paramCount pointCount tolerance range boost shrink = .ok config) :
    config.Checked := by
  obtain ⟨-, -, -, initial, ⟨max, -⟩, ⟨⟨positive, small⟩, grows⟩, rfl⟩ := make_eq_ok.mp made
  exact ⟨of_decide_eq_true initial, of_decide_eq_true max, of_decide_eq_true positive,
    of_decide_eq_true small, of_decide_eq_true grows⟩

/-- A boost takes the damping to its ceiling, or at least further. -/
def Climbs (config : Config Float) (damping : Float) : Prop :=
  Double.Climbs config.boost config.maxDamping damping

instance (config : Config Float) (damping : Float) : Decidable (config.Climbs damping) :=
  inferInstanceAs (Decidable (Double.Climbs _ _ _))

/-- The least damping a number of calls can leave. -/
def shrunk (config : Config Float) (calls : ℕ) : Float :=
  grown config.initialDamping config.shrink calls

end Config

/-- What a number of calls can leave, each against any host in any state. -/
inductive Reached (config : Config Float) : ℕ → State Float → Prop where
  | initial : Reached config 0 (.initial config)
  | call {calls : ℕ} {state : State Float} {σ : Type} (host : Host Float σ) {before after : σ}
      {ending : State Float × Status} : Reached config calls state →
      Returns (iterate host config state) before ending after →
      Reached config (calls + 1) ending.1

section Reached

variable {config : Config Float} {calls : ℕ} {state : State Float}

theorem Config.Checked.exists_shrink (checked : config.Checked) :
    ∃ s : ℚ, Double.value config.shrink = some (s : WithTop ℚ) ∧ 0 < s ∧ s ≤ 1 := by
  obtain ⟨s, read, positive⟩ := Double.exists_value_of_lt Double.value_zero checked.shrink_pos
  have small := (Double.lt_iff read Double.value_one).mp checked.shrink_lt_one
  lift s to ℚ using (small.trans (WithTop.coe_lt_top 1)).ne
  exact ⟨s, read, WithTop.coe_pos.mp positive, (WithTop.coe_lt_coe.mp small).le⟩

theorem Config.Checked.exists_shrunk (checked : config.Checked) (calls : ℕ) :
    ∃ p, Double.value (config.shrunk calls) = some p := by
  obtain ⟨s, readShrink, positive, -⟩ := checked.exists_shrink
  induction calls with
  | zero =>
      obtain ⟨p, read, -⟩ := Double.exists_value_of_lt Double.value_zero checked.initialDamping
      exact ⟨p, read⟩
  | succ calls ih =>
      obtain ⟨p, read⟩ := ih
      rw [Config.shrunk, Scalar.grown_succ]
      cases p with
      | top =>
          exact ⟨⊤, Double.value_top_mul read readShrink (WithTop.coe_pos.mpr positive)⟩
      | coe p => exact ⟨_, Double.value_mul read readShrink⟩

theorem Config.Checked.shrunk_succ_le (checked : config.Checked) (calls : ℕ) :
    config.shrunk (calls + 1) ≤ config.shrunk calls := by
  obtain ⟨s, readShrink, positive, small⟩ := checked.exists_shrink
  obtain ⟨p, read⟩ := checked.exists_shrunk calls
  rw [Config.shrunk, Scalar.grown_succ]
  exact Double.product_le readShrink positive small read

/-- A damping that climbs after a number of calls did after fewer. -/
theorem Config.Checked.climbs_shrunk (checked : config.Checked) {fewer calls : ℕ}
    (ordered : fewer ≤ calls) (climbs : config.Climbs (config.shrunk calls)) :
    config.Climbs (config.shrunk fewer) := by
  obtain ⟨c, bound, high⟩ := Double.exists_value_of_lt Double.value_zero checked.maxDamping
  induction calls, ordered using Nat.le_induction with
  | base => exact climbs
  | succ calls _ ih =>
      obtain ⟨q, read⟩ := checked.exists_shrunk (calls + 1)
      exact ih (climbs.mono checked.one_lt_boost bound high read (checked.shrunk_succ_le calls))

/-- No call takes the damping below what shrinking alone would have left. -/
theorem Reached.shrunk_le (checked : config.Checked) (reached : Reached config calls state)
    (climbs : config.Climbs (config.shrunk calls)) : config.shrunk calls ≤ state.damping := by
  obtain ⟨c, bound, high⟩ := Double.exists_value_of_lt Double.value_zero checked.maxDamping
  obtain ⟨s, readShrink, positive, small⟩ := checked.exists_shrink
  induction reached with
  | initial =>
      obtain ⟨p, read⟩ := checked.exists_shrunk 0
      exact (Double.le_iff read read).mpr le_rfl
  | @call calls state σ host before after ending _ returned ih =>
      obtain ⟨p, read⟩ := checked.exists_shrunk calls
      obtain ⟨q, readNext⟩ := checked.exists_shrunk (calls + 1)
      have below := checked.shrunk_succ_le calls
      have earlier := checked.climbs_shrunk (Nat.le_succ calls) climbs
      have held := ih earlier
      obtain ⟨d, readDamping, -⟩ := Double.exists_value_of_le read held
      have climbing := earlier.mono checked.one_lt_boost bound high read held
      have kept (count : ℕ) := climbing.le_grown checked.one_lt_boost bound high readDamping count
      -- a call leaves the damping, boosts it, or boosts it and then shrinks it once
      rcases spent_of_iterateWithin returned with stays | ⟨⟨count, grown | shrunk⟩, -⟩
      · rw [stays]
        exact Double.le_trans_of_value readNext below held
      · rw [grown]
        exact Double.le_trans_of_value readNext (Double.le_trans_of_value readNext below held)
          (kept count)
      · rw [shrunk, Config.shrunk, Scalar.grown_succ]
        exact Double.product_mono readShrink positive read
          (Double.le_trans_of_value read held (kept count))

theorem Reached.climbs (checked : config.Checked) (reached : Reached config calls state)
    (climbs : config.Climbs (config.shrunk calls)) :
    0.0 < state.damping ∧ config.Climbs state.damping := by
  obtain ⟨c, bound, high⟩ := Double.exists_value_of_lt Double.value_zero checked.maxDamping
  obtain ⟨p, read⟩ := checked.exists_shrunk calls
  have below := reached.shrunk_le checked climbs
  obtain ⟨d, readDamping, -⟩ := Double.exists_value_of_le read below
  have climbing := climbs.mono checked.one_lt_boost bound high read below
  have positive := climbing.pos checked.one_lt_boost bound high readDamping
  exact ⟨(Double.lt_iff Double.value_zero readDamping).mpr positive, climbing⟩

/-- A damping that climbs ends an iteration. -/
theorem Config.Checked.exists_returns_iterate (checked : config.Checked)
    (nonneg : 0.0 ≤ state.damping) (climbs : config.Climbs state.damping) {σ : Type}
    {host : Host Float σ} {before : σ} (ready : host.Ready config before) :
    ∃ ending after, Returns (iterate host config state) before ending after := by
  obtain ⟨c, bound, high⟩ := Double.exists_value_of_lt Double.value_zero checked.maxDamping
  obtain ⟨d, read, -⟩ := Double.exists_value_of_le Double.value_zero nonneg
  obtain ⟨count, within, reached⟩ := climbs.reaches checked.one_lt_boost bound high read
  exact ready.exists_returns ⟨count, within, decide_eq_true reached⟩

end Reached

/-- How far the damping of doubles ends an iteration. After a number of calls it
is positive and climbs, if it would by shrinking alone; every damping of full
digits climbs. One that climbs ends every iteration, at the latest when it reaches
its ceiling, and one that does not leaves an iteration without an end that rejects
all of its trials. -/
theorem damping_ends_iteration {config : Config Float} {paramCount pointCount : ℤ}
    {tolerance boost shrink : Float} {range : DampingRange Float}
    (made : Config.make paramCount pointCount tolerance range boost shrink = .ok config) :
    (∀ {calls : ℕ} {state : State Float}, Reached config calls state →
      config.Climbs (config.shrunk calls) → 0.0 < state.damping ∧ config.Climbs state.damping) ∧
    (∀ damping, Double.leastNormal ≤ damping → config.Climbs damping) ∧
    ∀ state : State Float, 0.0 ≤ state.damping →
      (config.Climbs state.damping → ∀ {σ : Type} (host : Host Float σ) (before : σ),
        host.Ready config before → ∃ ending after,
          Returns (iterate host config state) before ending after ∧
          (ending.2 = .bad → ending.1.inner = 0 ∨ config.maxDamping ≤ ending.1.damping)) ∧
      (¬ config.Climbs state.damping → ∀ {σ : Type} (host : Host Float σ) (before : σ),
        host.Rejects config before → ∀ limit,
          Stops (iterateWithin host config limit state) before .endless) := by
  have checked := Config.checked_of_make made
  obtain ⟨c, bound, high⟩ := Double.exists_value_of_lt Double.value_zero checked.maxDamping
  refine ⟨fun reached climbs => reached.climbs checked climbs,
    fun damping normal => Double.climbs_of_normal checked.one_lt_boost bound normal,
    fun state nonneg => ?_⟩
  obtain ⟨d, read, -⟩ := Double.exists_value_of_le Double.value_zero nonneg
  constructor
  · intro climbs σ host before ready
    obtain ⟨ending, after, returned⟩ := checked.exists_returns_iterate nonneg climbs ready
    refine ⟨ending, after, returned, fun bad => ?_⟩
    rcases spent_of_iterateWithin returned with untried | ⟨-, exhausted⟩
    · exact .inl (by rw [untried])
    · exact .inr (of_decide_eq_true (exhausted bad))
  · intro stays σ host before rejects limit
    refine rejects.stops fun count => decide_eq_false ?_
    exact (Double.Stalls.stands read stays).not_reached checked.one_lt_boost bound high count

/-- A host whose start evaluates to one, and every step to the same. -/
def answering (sos : Float) : Sample.Script Float where
  jacobian := [[1]]
  residuals := [1]
  initial := [1]
  trials := [sos]
  builds := [true]

section Answering

variable {config : Config Float} (sos : Float)

theorem answering_evaluate :
    ((answering sos).host.evaluate (answering sos).start).value = some 1 := by
  with_unfolding_all rfl

theorem answering_nudge (delta : List Float) (here : Sample.Reading Float) :
    ((answering sos).host.nudge delta here).value = some sos := by
  have last (place : ℕ) : [sos][place]?.or [sos].getLast? = some sos := by
    cases place <;> rfl
  simp only [Sample.Script.host, Sample.Script.answer, answering, Act.value_bind, last]
  rfl

theorem answering_gathers (one : config.pointCount = 1) (single : config.paramCount = 1) :
    ∃ middle, Returns (answering sos).host.buildJacobian
        ((answering sos).host.evaluate (answering sos).start).state true middle ∧
      ∃ data gathered, Returns ((answering sos).host.gather config.pointCount config.paramCount)
        middle data gathered := by
  rw [one, single]
  refine ⟨_, ⟨by with_unfolding_all rfl, rfl⟩, ?_⟩
  refine ⟨(⟨#v[#v[1]]⟩, #v[1]), _, by with_unfolding_all rfl, rfl⟩

/-- A rise by one half is not tried again with the same damping. -/
theorem answering_rejects (tolerance : config.tolerance = 1e-12) (one : config.pointCount = 1)
    (single : config.paramCount = 1) :
    (answering 2.0).host.Rejects config (answering 2.0).start := by
  refine ⟨1, answering_evaluate 2.0, by decide +kernel, fun delta here => ?_,
    answering_gathers 2.0 one single⟩
  rw [answering_nudge, tolerance]
  decide +kernel

theorem answering_ready (one : config.pointCount = 1) (single : config.paramCount = 1) :
    (answering sos).host.Ready config (answering sos).start := by
  intro start evaluated _
  cases Option.some.inj ((answering_evaluate sos).symm.trans evaluated)
  obtain ⟨middle, built, gathered⟩ := answering_gathers sos one single
  exact ⟨by decide +kernel, true, middle, built, fun _ => gathered⟩

end Answering

/-- The settings of a steered ray with one start attribute and one goal. -/
def steeringConfig : Config Float where
  tolerance := 1e-12
  paramCount := 1
  pointCount := 1
  initialDamping := 1e-3
  maxDamping := 1e3
  boost := 2.0
  shrink := 0.1

theorem usual_steering : Config.usual 1 1 1e-12 .steering = .ok steeringConfig :=
  Config.make_eq_ok.mpr ⟨le_rfl, le_rfl, by decide +kernel, by decide +kernel, by decide +kernel,
    by decide +kernel, rfl⟩

theorem damping_ends_iteration_steering :
    Config.usual 1 1 1e-12 .steering = .ok steeringConfig ∧
    (∀ state, Reached steeringConfig 100 state →
      0.0 < state.damping ∧ steeringConfig.Climbs state.damping) ∧
    (∃ ending after, Returns (iterate (answering 2.0).host steeringConfig
        (.initial steeringConfig)) (answering 2.0).start ending after ∧
      (ending.2 = .bad → ending.1.inner = 0 ∨ steeringConfig.maxDamping ≤ ending.1.damping)) ∧
    ∀ limit, Stops (iterateWithin (answering 2.0).host steeringConfig limit
      { State.initial steeringConfig with damping := 0.0 }) (answering 2.0).start .endless := by
  obtain ⟨holds, normal, ends⟩ := damping_ends_iteration usual_steering
  have climbs := normal steeringConfig.initialDamping (by decide +kernel)
  have spent : ¬ steeringConfig.Climbs 0.0 := by decide +kernel
  refine ⟨usual_steering, fun state reached => holds reached (by decide +kernel), ?_, ?_⟩
  · exact (ends (.initial steeringConfig) (by decide +kernel)).1 climbs _ _
      (answering_ready 2.0 rfl rfl)
  · exact (ends { State.initial steeringConfig with damping := 0.0 } (by decide +kernel)).2 spent
      _ _ (answering_rejects rfl rfl rfl)

/-- Settings under which a single accepted trial shrinks the damping to zero. -/
def vanishing : Config Float where
  tolerance := 1e-12
  paramCount := 1
  pointCount := 1
  initialDamping := 1e-300
  maxDamping := 1e-30
  boost := 1e300
  shrink := 1e-100

/-- The settings are accepted, and the damping is zero after one call that keeps its
first trial. The next call comes to no end against a host that rejects all of its
trials. -/
theorem vanishing_never_ends :
    Config.make 1 1 1e-12 ⟨1e-300, 1e-30⟩ 1e300 1e-100 = .ok vanishing ∧
    ∃ state, Reached vanishing 1 state ∧ state.damping = 0.0 ∧
      ∀ limit, Stops (iterateWithin (answering 2.0).host vanishing limit state)
        (answering 2.0).start .endless := by
  have made : Config.make 1 1 1e-12 ⟨1e-300, 1e-30⟩ 1e300 1e-100 = .ok vanishing :=
    Config.make_eq_ok.mpr ⟨le_rfl, le_rfl, by decide +kernel, by decide +kernel,
      by decide +kernel, by decide +kernel, rfl⟩
  let first := iterate (answering 0.0).host vanishing (.initial vanishing)
  have completes : (first.run (answering 0.0).start).value.toBool = true := by decide +kernel
  obtain ⟨ending, after, returned⟩ := Act.exists_returns completes
  have kept : (first.run (answering 0.0).start).value.toOption.map (·.1.damping) = some 0.0 := by
    decide +kernel
  rw [returned.1] at kept
  have zero : ending.1.damping = 0.0 := Option.some.inj kept
  have checked := Config.checked_of_make made
  obtain ⟨c, bound, high⟩ := Double.exists_value_of_lt Double.value_zero checked.maxDamping
  have stalls : Double.Stalls vanishing.boost vanishing.maxDamping ending.1.damping := by
    rw [zero]
    exact .stands Double.value_zero (by decide +kernel)
  refine ⟨made, ending.1, .call (answering 0.0).host .initial returned, zero, fun limit => ?_⟩
  refine (answering_rejects rfl rfl rfl).stops fun count => decide_eq_false ?_
  exact stalls.not_reached checked.one_lt_boost bound high count

end OpticTune.Solver
