import OpticTune.Proofs.Linear.LeastSquares
import OpticTune.Proofs.Solver.Descent

namespace OpticTune.Solver

open Act (Returns)
open Linear (IsDampedStep Minimises distance gradient misfit)
open scoped Matrix

/-! A fit whose residuals are linear in the parameters.

Central differences are exact there and no damped step rises, so every call keeps
its first trial, whatever the damping.
-/

variable {m n : ℕ}

def Landscape.linear (design : Matrix (Fin m) (Fin n) ℚ) (target : Fin m → ℚ) :
    Landscape ℚ m n where
  sos params := some (misfit design target params)
  residuals params := design *ᵥ params - target

variable {design : Matrix (Fin m) (Fin n) ℚ} {target : Fin m → ℚ}

theorem Landscape.linear_nonneg :
    ∀ place sos, (Landscape.linear design target).sos place = some sos → 0 ≤ sos := by
  rintro place _ ⟨⟩
  exact Linear.misfit_nonneg design target place

section Call

variable {steps : Vector ℚ n} {config : Config ℚ} {params : Fin n → ℚ} {state : State ℚ}
  {ending : Ending n}

theorem jacobian_linear (nonzero : ∀ j, steps.get j ≠ 0) :
    (Landscape.linear design target).jacobian steps params = design := by
  ext i j
  have side : (design *ᵥ Pi.single j (steps.get j)) i = design i j * steps.get j :=
    dotProduct_single _ _ _
  have twice : 2 * steps.get j ≠ 0 := mul_ne_zero two_ne_zero (nonzero j)
  simp only [Landscape.jacobian, Landscape.linear, Matrix.of_apply, Matrix.mulVec_add,
    Matrix.mulVec_sub, Pi.add_apply, Pi.sub_apply, side]
  rw [div_eq_iff twice]
  ring

/-- One call of a linear fit, in full. -/
structure LinearCall (design : Matrix (Fin m) (Fin n) ℚ) (target : Fin m → ℚ) (config : Config ℚ)
    (params : Fin n → ℚ) (state : State ℚ) (ending : Ending n) : Prop where
  inner : ending.state.inner = 1
  damping : ending.state.damping = state.damping * config.shrink
  sos : ending.state.sos = some (misfit design target ending.params)
  status : ending.status = .down ∨ ending.status = .level
  misfit_le : misfit design target ending.params ≤ misfit design target params
  misfit_eq_iff : misfit design target ending.params = misfit design target params ↔
    designᵀ *ᵥ (design *ᵥ params - target) = 0
  still : designᵀ *ᵥ (design *ᵥ params - target) = 0 →
    ending.params = params ∧ ending.status = .level
  toward : ∀ best, Minimises design target best →
    (designᵀ * design + state.damping • 1) *ᵥ (ending.params - best) =
      state.damping • (params - best)
  distance_le : ∀ best, Minimises design target best →
    distance ending.params best ≤ distance params best

theorem linearCall_of_step (accepted : config.Accepted m n) (positive : 0 < state.damping)
    {delta : Fin n → ℚ} {status : Status}
    (step : IsDampedStep design (design *ᵥ params - target) state.damping delta)
    (statusIs : status =
      if rise (misfit design target params) (misfit design target (params + delta)) ≤
        -config.tolerance then .down else .level) :
    LinearCall design target config params state {
      params := params + delta
      state := {
        damping := state.damping * config.shrink
        outer := state.outer + 1
        inner := 1
        sos := some (misfit design target (params + delta)) }
      status } where
  inner := rfl
  damping := rfl
  sos := rfl
  status := by
    rw [statusIs]
    split
    · exact .inl rfl
    · exact .inr rfl
  misfit_le := Linear.misfit_step_le positive step
  misfit_eq_iff := Linear.misfit_step_eq_iff positive step
  still := by
    intro flat
    cases (Linear.step_eq_zero_iff positive step).mpr flat
    have level : ¬ rise (misfit design target params) (misfit design target params) ≤
        -config.tolerance := by
      rw [rise, sub_self, zero_div]
      linarith [accepted.tolerance]
    rw [add_zero] at statusIs ⊢
    exact ⟨rfl, statusIs.trans (if_neg level)⟩
  toward _ minimises := Linear.step_toward minimises step
  distance_le _ minimises := Linear.distance_step_le positive minimises step

/-- The first trial of a linear fit is kept. -/
theorem LineSearch.linear (nonzero : ∀ j, steps.get j ≠ 0) (accepted : config.Accepted m n)
    (positive : 0 < state.damping)
    (search : LineSearch (.linear design target) steps config params state ending) :
    LinearCall design target config params state ending := by
  cases search with
  | startFails failed => exact absurd failed nofun
  | jacobianFails _ failing => exact absurd ⟨rfl, rfl⟩ failing
  | @searched start delta last _ search found =>
      obtain rfl : misfit design target params = start := Option.some.inj search.start
      have step : IsDampedStep design (design *ᵥ params - target) state.damping (delta 0) := by
        have solved := search.solves 0
        rwa [jacobian_linear nonzero, pow_zero, mul_one] at solved
      have falls : rise (misfit design target params) (misfit design target (params + delta 0)) ≤
          0 := by
        rw [rise_le_iff (Linear.misfit_nonneg design target params)]
        linarith [Linear.misfit_step_le positive step]
      have settles : Settles (.linear design target) config params (misfit design target params)
          delta 0 :=
        ⟨_, rfl, lt_of_le_of_lt falls accepted.tolerance⟩
      have room : 0 < last := search.last.1.1
      cases found with
      | kept least found _ =>
          obtain rfl := Nat.le_zero.mp (least.2 ⟨room, settles⟩)
          cases found
          have call := linearCall_of_step accepted positive step rfl
          rwa [pow_zero, mul_one]
      | negligible least found rises =>
          obtain rfl := Nat.le_zero.mp (least.2 ⟨room, settles⟩)
          cases found
          exact absurd falls rises.not_ge
      | exhausted never => exact absurd settles (never 0 room)

end Call

/-- Calls one after another, each from where the one before ended. -/
inductive LinearCalls (design : Matrix (Fin m) (Fin n) ℚ) (target : Fin m → ℚ)
    (config : Config ℚ) : (Fin n → ℚ) → State ℚ → List (Ending n) → Prop where
  | nil {params state} : LinearCalls design target config params state []
  | cons {params state ending rest} : LinearCall design target config params state ending →
      LinearCalls design target config ending.params ending.state rest →
      LinearCalls design target config params state (ending :: rest)

/-- The distance to no minimiser ever grows. -/
def Nearer (design : Matrix (Fin m) (Fin n) ℚ) (target : Fin m → ℚ) (params : Fin n → ℚ)
    (endings : List (Ending n)) : Prop :=
  ∀ best, Minimises design target best →
    (params :: endings.map Ending.params).Pairwise fun earlier later =>
      distance later best ≤ distance earlier best

section Calls

variable {config : Config ℚ} {params : Fin n → ℚ} {state : State ℚ} {endings : List (Ending n)}

theorem LinearCalls.nearer (calls : LinearCalls design target config params state endings) :
    Nearer design target params endings := by
  intro best minimises
  induction calls with
  | nil => exact List.pairwise_singleton _ _
  | cons call _ later =>
      have first := call.distance_le best minimises
      rw [List.map_cons, List.pairwise_cons, List.forall_mem_cons]
      refine ⟨⟨first, fun place member => ?_⟩, later⟩
      exact ((List.pairwise_cons.mp later).1 place member).trans first

/-- The calls of a whole fit. The last is the one that finds it level. -/
structure LinearCourse (design : Matrix (Fin m) (Fin n) ℚ) (target : Fin m → ℚ)
    (config : Config ℚ) (params : Fin n → ℚ) (state : State ℚ) (endings : List (Ending n)) :
    Prop where
  calls : LinearCalls design target config params state endings
  down : ∀ ending ∈ endings.dropLast, ending.status = .down
  level : ∃ ending ∈ endings.getLast?, ending.status = .level

theorem Course.linear {steps : Vector ℚ n} (nonzero : ∀ j, steps.get j ≠ 0)
    (accepted : config.Accepted m n) (positive : 0 < state.damping)
    (course : Course (.linear design target) steps config params state endings) :
    LinearCourse design target config params state endings := by
  induction course with
  | @stops params state ending search terminal =>
      have call := search.linear nonzero accepted positive
      have level : ending.status = .level := by
        rcases call.status with down | level
        · rw [down] at terminal
          contradiction
        · exact level
      exact ⟨.cons call .nil, nofun, ending, rfl, level⟩
  | @improves params state ending rest search further course ih =>
      have call := search.linear nonzero accepted positive
      have down : ending.status = .down := by
        rcases call.status with down | level
        · exact down
        · rw [level] at further
          contradiction
      have later := ih (search.damping_pos accepted positive)
      obtain ⟨next, more, rfl⟩ : ∃ next more, rest = next :: more := by
        cases course <;> exact ⟨_, _, rfl⟩
      refine ⟨.cons call later.calls, ?_, ?_⟩
      · rw [List.dropLast_cons_cons, List.forall_mem_cons]
        exact ⟨down, later.down⟩
      · rw [List.getLast?_cons_cons]
        exact later.level

end Calls

section Run

variable {σ : Type} {problem : Problem ℚ σ} {stands : (Fin n → ℚ) → σ → Prop}
  {steps : Vector ℚ n} {config : Config ℚ} {params : Fin n → ℚ} {state : State ℚ}
  {before : Measured ℚ σ m n}

theorem exists_linearCalls (follows : problem.Follows (.linear design target) stands)
    (nonzero : ∀ j, steps.get j ≠ 0) (accepted : config.Accepted m n)
    (positive : 0 < state.damping) (standing : stands params before.problem) (count : ℕ) :
    ∃ endings after, endings.length = count ∧
      Calls (problem.host steps) config state before (endings.map Ending.answer) after ∧
      stands ((endings.map Ending.params).getLastD params) after.problem ∧
      LinearCalls design target config params state endings := by
  induction count generalizing params state before with
  | zero => exact ⟨[], before, rfl, .nil, standing, .nil⟩
  | succ count ih =>
      obtain ⟨ending, middle, returned, standing, search⟩ :=
        iterate_spec follows Landscape.linear_nonneg steps accepted positive standing
      obtain ⟨endings, after, length, calls, standing, linear⟩ :=
        ih (search.damping_pos accepted positive) standing
      refine ⟨ending :: endings, after, congrArg Nat.succ length, .cons returned calls, ?_,
        .cons (search.linear nonzero accepted positive) linear⟩
      rwa [List.map_cons, List.getLastD_cons]

/-- From every state with a positive damping, calls that follow one another keep
their first trials, however many there are, and a fit ends level. -/
theorem fit_linear (follows : problem.Follows (.linear design target) stands)
    (nonzero : ∀ j, steps.get j ≠ 0) {tolerance boost shrink : ℚ} {range : DampingRange ℚ}
    (made : Config.make n m tolerance range boost shrink = .ok config)
    (positive : 0 < state.damping) (standing : stands params before.problem) :
    (∀ count, ∃ endings after, endings.length = count ∧
      Calls (problem.host steps) config state before (endings.map Ending.answer) after ∧
      stands ((endings.map Ending.params).getLastD params) after.problem ∧
      LinearCalls design target config params state endings ∧
      Nearer design target params endings) ∧
    ∃ endings, LinearCourse design target config params state endings ∧
      Nearer design target params endings ∧
      ∀ limit, ∃ final,
        Returns (Fit.run (problem.host steps) config limit) ⟨before, state⟩
          ((endings.take limit).map Ending.answer) final ∧
        final.solver = ((endings.take limit).map Ending.state).getLastD state ∧
        stands (((endings.take limit).map Ending.params).getLastD params) final.host.problem := by
  have accepted := Config.accepted_of_make made
  constructor
  · intro count
    obtain ⟨endings, after, length, calls, standing, linear⟩ :=
      exists_linearCalls follows nonzero accepted positive standing count
    exact ⟨endings, after, length, calls, standing, linear, linear.nearer⟩
  · obtain ⟨endings, course, _⟩ := exists_course Landscape.linear_nonneg steps accepted state
      positive (rfl : (Landscape.linear design target).sos params = _)
    have linear := course.linear nonzero accepted positive
    exact ⟨endings, linear, linear.calls.nearer, Course.returns_run follows
      Landscape.linear_nonneg accepted ⟨before, state⟩ positive standing course⟩

end Run

/-- The sum of two parameters, which has no single minimiser. -/
def sumDesign : Matrix (Fin 1) (Fin 2) ℚ :=
  Matrix.of fun _ _ => 1

def sumTarget : Fin 1 → ℚ :=
  fun _ => 3

def sumHost : Host ℚ (Measured ℚ (Standing ℚ 2) 1 2) :=
  (Landscape.linear sumDesign sumTarget).problem.host #v[1 / 2, 1 / 3]

def sumConfig : Config ℚ where
  tolerance := 1 / 10
  paramCount := 2
  pointCount := 1
  initialDamping := 1
  maxDamping := 100
  boost := 2
  shrink := 1 / 2

def sumStart : Measured ℚ (Standing ℚ 2) 1 2 :=
  Problem.initial ⟨fun _ => 0, []⟩

/-- The damping of the state is above the most the configuration allows. -/
def sumState : State ℚ where
  damping := 1000
  outer := 0
  inner := 0
  sos := none

theorem fit_linear_sum :
    (∀ j : Fin 2, (#v[1 / 2, 1 / 3] : Vector ℚ 2).get j ≠ 0) ∧
    Config.make 2 1 (1 / 10) ⟨1, 100⟩ 2 (1 / 2) = .ok sumConfig ∧ 0 < sumState.damping ∧
    (∀ count, ∃ endings after, endings.length = count ∧
      Calls sumHost sumConfig sumState sumStart (endings.map Ending.answer) after ∧
      after.problem.params = (endings.map Ending.params).getLastD (fun _ => 0) ∧
      LinearCalls sumDesign sumTarget sumConfig (fun _ => 0) sumState endings ∧
      Nearer sumDesign sumTarget (fun _ => 0) endings) ∧
    ∃ endings, LinearCourse sumDesign sumTarget sumConfig (fun _ => 0) sumState endings ∧
      Nearer sumDesign sumTarget (fun _ => 0) endings ∧
      ∀ limit, ∃ final,
        Returns (Fit.run sumHost sumConfig limit) ⟨sumStart, sumState⟩
          ((endings.take limit).map Ending.answer) final ∧
        final.solver = ((endings.take limit).map Ending.state).getLastD sumState ∧
        final.host.problem.params =
          ((endings.take limit).map Ending.params).getLastD fun _ => 0 := by
  have nonzero : ∀ j : Fin 2, (#v[1 / 2, 1 / 3] : Vector ℚ 2).get j ≠ 0 := by decide +kernel
  have made : Config.make 2 1 (1 / 10) ⟨1, 100⟩ 2 (1 / 2) = .ok sumConfig := by
    with_unfolding_all rfl
  have positive : 0 < sumState.damping := by decide +kernel
  exact ⟨nonzero, made, positive, fit_linear (Landscape.follows _) nonzero made positive rfl⟩

end OpticTune.Solver
