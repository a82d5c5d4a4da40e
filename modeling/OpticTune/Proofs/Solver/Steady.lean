import OpticTune.Proofs.Keeps
import OpticTune.Proofs.Solver.LineSearch

namespace OpticTune.Solver

open Act (Keeps Returns)
open Linear (NormalEquations)

/-! Hosts that know where they stand, whatever they answer.

Only a nudge takes such a host elsewhere, by the change it is sent. Evaluations
may fail at any time, and what is fetched may be anything, as long as it can be
fetched. An iteration on such a host always returns.
-/

variable {σ : Type} {m n : ℕ} {stands : (Fin n → ℚ) → σ → Prop}

structure Host.Steady (host : Host ℚ σ) (m n : ℕ) (stands : (Fin n → ℚ) → σ → Prop) : Prop where
  evaluate : ∀ ⦃place state⦄, stands place state →
    stands place (host.evaluate state).state ∧ ∀ sos ∈ (host.evaluate state).value, 0 ≤ sos
  nudge : ∀ ⦃place state⦄, stands place state → ∀ delta : Fin n → ℚ,
    stands (place + delta) (host.nudge (List.ofFn delta) state).state
  buildJacobian : ∀ ⦃place state⦄, stands place state →
    ∃ built after, Returns host.buildJacobian state built after ∧ stands place after
  fetchJacobian : ∀ ⦃place state⦄, stands place state → ∀ (i : Fin m) (j : Fin n),
    ∃ entry after, Returns (host.fetchJacobian i j) state entry after ∧ stands place after
  fetchResidual : ∀ ⦃place state⦄, stands place state → ∀ i : Fin m,
    ∃ entry after, Returns (host.fetchResidual i) state entry after ∧ stands place after

section Reading

variable {α β : Type} {holds : σ → Prop} {count : ℕ} {read : ℕ → ExceptT Fault (Act α σ) β}

theorem exists_readOn (reads : ∀ place < count, ∀ state, holds state →
      ∃ value after, Returns (read place) state value after ∧ holds after) :
    ∀ {done left : ℕ} (values : Vector β done) (full : done + left = count) {state : σ},
      holds state → ∃ all after, Returns (readOn read values left full) state all after ∧
        holds after := by
  intro done left values full
  induction left generalizing done with
  | zero => exact fun held => ⟨_, _, Act.returns_pure.mpr ⟨rfl, rfl⟩, held⟩
  | succ left ih =>
      intro state held
      obtain ⟨value, middle, first, held⟩ := reads done (by omega) state held
      obtain ⟨all, after, rest, held⟩ := ih (values.push value) (by omega) held
      exact ⟨all, after, Act.returns_bind.mpr ⟨value, middle, first, rest⟩, held⟩

theorem exists_readEach (reads : ∀ place < count, ∀ state, holds state →
      ∃ value after, Returns (read place) state value after ∧ holds after)
    {state : σ} (held : holds state) :
    ∃ all after, Returns (readEach count read) state all after ∧ holds after :=
  exists_readOn reads #v[] (Nat.zero_add count) held

/-- What can be fetched entry by entry can be gathered. -/
theorem exists_gather {host : Host α σ}
    (jacobian : ∀ (i : Fin m) (j : Fin n) (state : σ), holds state →
      ∃ entry after, Returns (host.fetchJacobian i j) state entry after ∧ holds after)
    (residual : ∀ (i : Fin m) (state : σ), holds state →
      ∃ entry after, Returns (host.fetchResidual i) state entry after ∧ holds after)
    {before : σ} (held : holds before) :
    ∃ gathered after, Returns (host.gather m n) before gathered after ∧ holds after := by
  have row : ∀ i < m, ∀ state, holds state → ∃ entries after,
      Returns (readEach n fun j => host.fetchJacobian i j) state entries after ∧ holds after :=
    fun i inside _ held =>
      exists_readEach (fun j column => jacobian ⟨i, inside⟩ ⟨j, column⟩) held
  have entry : ∀ i < m, ∀ state, holds state → ∃ entry after,
      Returns (host.fetchResidual i) state entry after ∧ holds after :=
    fun i inside => residual ⟨i, inside⟩
  obtain ⟨rows, middle, first, held⟩ := exists_readEach row held
  obtain ⟨residuals, after, second, held⟩ := exists_readEach entry held
  refine ⟨(⟨rows⟩, residuals), after, Act.returns_bind.mpr ⟨rows, middle, first, ?_⟩, held⟩
  exact Act.returns_bind.mpr ⟨residuals, after, second, Act.returns_pure.mpr ⟨rfl, rfl⟩⟩

end Reading

theorem toList_eq_ofFn (values : Vector ℚ n) : values.toList = List.ofFn values.get := by
  rw [← Vector.toList_ofFn]
  congr 1
  ext i inside
  simp [Vector.get]

/-- A trial sends a change, and takes it back by its opposite. -/
theorem exists_delta (host : Host ℚ σ) (config : Config ℚ) (equations : NormalEquations ℚ n)
    (outer inner : ℕ) (damping : ℚ) {start : ℚ} (nonneg : 0 ≤ start) :
    ∃ delta : Fin n → ℚ, ∀ (before after : σ) (ending : Option (State ℚ × Status)),
      Returns (attempt host config equations outer start inner damping) before ending after ↔
        if (equations.step damping).isUsable then
          let trial := host.nudge (List.ofFn delta) before
          (Verdict.ofRise config.tolerance trial.value (rise start (trial.value.getD 0))).Ends config
            outer inner start damping trial.value trial.state
            (host.nudge (List.ofFn (-delta)) trial.state).state ending after
        else ending = none ∧ after = before := by
  obtain ⟨delta, sent⟩ : ∃ delta : Fin n → ℚ,
      (equations.step damping).delta.toList = List.ofFn delta := ⟨_, toList_eq_ofFn _⟩
  have taken : (List.ofFn delta).map Neg.neg = List.ofFn (-delta) := by
    rw [List.map_ofFn]
    rfl
  refine ⟨delta, fun before after ending => ?_⟩
  simp only [returns_attempt, sent, taken, judge_rational nonneg, Except.ok.injEq, exists_eq_left']

namespace Host.Steady

variable {host : Host ℚ σ} {config : Config ℚ} {place : Fin n → ℚ} {before : σ}

section Trials

variable {equations : NormalEquations ℚ n} {start damping : ℚ}

theorem attempt (steady : host.Steady m n stands) (standing : stands place before)
    (nonneg : 0 ≤ start) (config : Config ℚ) (equations : NormalEquations ℚ n) (outer inner : ℕ)
    (damping : ℚ) :
    ∃ ending after reached, Returns (attempt host config equations outer start inner damping) before
        ending after ∧ stands reached after ∧
      ∀ final ∈ ending, final.1.damping = damping ∨ final.1.damping = damping * config.shrink := by
  obtain ⟨delta, tried⟩ := exists_delta host config equations outer inner damping nonneg
  have moved := steady.nudge standing delta
  have restored := steady.nudge moved (-delta)
  rw [add_neg_cancel_right] at restored
  simp only [tried]
  cases (equations.step damping).isUsable with
  | false => exact ⟨none, before, place, by simp, standing, nofun⟩
  | true =>
      simp only [↓reduceIte]
      cases Verdict.ofRise config.tolerance (host.nudge (List.ofFn delta) before).value
          (rise start ((host.nudge (List.ofFn delta) before).value.getD 0)) with
      | down | level => exact ⟨_, _, _, ⟨rfl, rfl⟩, moved, by simp⟩
      | negligible => exact ⟨_, _, _, ⟨rfl, rfl⟩, restored, by simp⟩
      | rejected => exact ⟨_, _, _, ⟨rfl, rfl⟩, restored, by simp⟩

/-- Some boost among those left takes the damping to its ceiling. -/
theorem trials (steady : host.Steady m n stands) (accepted : config.Accepted m n)
    (nonneg : 0 ≤ start) (outer : ℕ) {limit inner : ℕ} (positive : 0 < damping)
    (reaches : ∃ k < limit, config.maxDamping ≤ damping * config.boost ^ (k + 1))
    (standing : stands place before) :
    ∃ ending after reached, Returns (trials host config equations outer start limit inner damping)
        before ending after ∧ stands reached after ∧ 0 < ending.1.damping := by
  induction limit generalizing inner damping place before with
  | zero =>
      obtain ⟨k, none, _⟩ := reaches
      omega
  | succ limit ih =>
      obtain ⟨found, middle, between, attempted, standing, kept⟩ :=
        steady.attempt standing nonneg config equations outer (inner + 1) damping
      simp only [returns_trials_succ]
      cases found with
      | some final =>
          refine ⟨final, middle, between, ⟨some final, middle, attempted, rfl, rfl⟩, standing, ?_⟩
          rcases kept final rfl with same | shrunk
          · exact same ▸ positive
          · exact shrunk ▸ mul_pos positive accepted.shrink_pos
      | none =>
          by_cases exhausted : config.maxDamping ≤ damping * config.boost
          · let ending : State ℚ × Status :=
              ({ damping := damping * config.boost, outer, inner := inner + 1, sos := some start },
                .bad)
            refine ⟨ending, middle, between, ⟨none, middle, attempted, ?_⟩, standing,
              mul_pos positive accepted.boost_pos⟩
            simp only [Rational.le_eq, exhausted, decide_true, ↓reduceIte, and_true]
            rfl
          · -- the boost that reaches the ceiling is one nearer
            have later : ∃ k < limit,
                config.maxDamping ≤ damping * config.boost * config.boost ^ (k + 1) := by
              obtain ⟨k, room, ceiling⟩ := reaches
              cases k with
              | zero => exact absurd (by simpa using ceiling) exhausted
              | succ k =>
                  refine ⟨k, by omega, ?_⟩
                  rwa [mul_assoc, ← pow_succ']
            obtain ⟨ending, after, reached, returned, standing, positive⟩ :=
              @ih _ _ _ (inner + 1) (mul_pos positive accepted.boost_pos) later standing
            refine ⟨ending, after, reached, ⟨none, middle, attempted, ?_⟩, standing, positive⟩
            simpa only [Rational.le_eq, exhausted, decide_false, Bool.false_eq_true, ↓reduceIte]
              using returned

end Trials

theorem gather (steady : host.Steady m n stands) (standing : stands place before) :
    ∃ gathered after, Returns (host.gather m n) before gathered after ∧ stands place after :=
  exists_gather (fun i j _ standing => steady.fetchJacobian standing i j)
    (fun i _ standing => steady.fetchResidual standing i) standing

theorem iterate (steady : host.Steady m n stands) (accepted : config.Accepted m n)
    {state : State ℚ} (positive : 0 < state.damping) (standing : stands place before) :
    ∃ ending after reached, Returns (iterate host config state) before ending after ∧
      stands reached after ∧ 0 < ending.1.damping := by
  obtain rfl := accepted.pointCount
  obtain rfl := accepted.paramCount
  obtain ⟨standing, nonneg⟩ := steady.evaluate standing
  simp only [Solver.iterate, returns_iterateWithin, hasFailed_eq]
  cases started : (host.evaluate before).value with
  | none => exact ⟨_, _, place, ⟨rfl, rfl⟩, standing, positive⟩
  | some start =>
      obtain ⟨built, middle, building, standing⟩ := steady.buildJacobian standing
      simp only [Option.isNone_some, Bool.false_eq_true, ↓reduceIte, Option.some.injEq,
        exists_eq_left']
      cases built with
      | false => exact ⟨_, middle, place, ⟨false, middle, building, rfl, rfl⟩, standing, positive⟩
      | true =>
          obtain ⟨⟨jacobian, residuals⟩, gathered, fetched, standing⟩ := steady.gather standing
          obtain ⟨last, ⟨⟨one, ceiling⟩, _⟩, enough⟩ := exists_last accepted.one_lt_boost positive
          have reaches : ∃ k < Scalar.growthBound state.damping config.boost config.maxDamping,
              config.maxDamping ≤ state.damping * config.boost ^ (k + 1) := by
            refine ⟨last - 1, by omega, ?_⟩
            rwa [Nat.sub_add_cancel one]
          obtain ⟨ending, after, reached, tried, standing, positive⟩ :=
            steady.trials accepted (nonneg start started) (state.outer + 1) positive reaches standing
          exact ⟨ending, after, reached, ⟨true, middle, building, jacobian, residuals, gathered,
            fetched, tried⟩, standing, positive⟩

end Host.Steady

/-- Only a change that is applied takes the parameters elsewhere. -/
structure Problem.Placed (problem : Problem ℚ σ) (stands : (Fin n → ℚ) → σ → Prop) : Prop where
  apply : ∀ ⦃place state⦄, stands place state → ∀ delta : Fin n → ℚ,
    stands (place + delta) (problem.apply (List.ofFn delta) state).state
  evaluate : ∀ ⦃place⦄, Keeps (stands place) problem.evaluate
  residuals : ∀ ⦃place⦄, Keeps (stands place) problem.residuals

theorem Problem.exists_differences {α : Type} [Scalar α] {forward backward : List α}
    (ahead : forward.length = m) (behind : backward.length = m) (step : α) :
    ∃ column, differences m forward backward step = .ok column := by
  have paired : pair forward backward = .ok (forward.zip backward) :=
    if_pos (ahead.trans behind.symm)
  rw [differences, paired]
  refine ⟨_, dif_pos ?_⟩
  simp [ahead, behind]

namespace Problem.Placed

variable {problem : Problem ℚ σ} (placed : problem.Placed stands) {place : Fin n → ℚ}

include placed

theorem nudge {before : σ} (standing : stands place before) {delta target : Fin n → ℚ}
    (arrives : place + delta = target) :
    stands target (problem.nudge (List.ofFn delta) before).state :=
  placed.evaluate (arrives ▸ placed.apply standing delta)

/-- However the measuring of a column ends, what was moved is moved back. -/
theorem measureColumn {steps : Vector ℚ n} {j : Fin n} {before after : σ}
    {column : Option (Vector ℚ m)} (standing : stands place before)
    (returned : Returns (problem.measureColumn m steps j) before column after) :
    stands place after := by
  obtain ⟨side, sideIs⟩ : ∃ side : Fin n → ℚ, Pi.single j (steps.get j) = side := ⟨_, rfl⟩
  simp only [returns_measureColumn_ofFn sideIs] at returned
  have forward := placed.nudge standing (rfl : place + side = _)
  split at returned
  · obtain ⟨_, rfl⟩ := returned
    have restored := placed.apply forward (-side)
    rwa [add_neg_cancel_right] at restored
  · have there : place + side + -(side + side) = place - side := by abel
    have backward := placed.nudge (placed.residuals forward) there
    split at returned
    · obtain ⟨_, rfl⟩ := returned
      have restored := placed.apply backward side
      rwa [sub_add_cancel] at restored
    · obtain ⟨_, _, _, rfl⟩ := returned
      exact placed.nudge (placed.residuals backward) (sub_add_cancel place side)

theorem measureColumns {steps : Vector ℚ n} {columns : List (Fin n)} {table : Table ℚ m n}
    {before after : σ} {measured : Option (Table ℚ m n)} (standing : stands place before)
    (returned : Returns (problem.measureColumns steps columns table) before measured after) :
    stands place after := by
  induction columns generalizing before table with
  | nil =>
      obtain ⟨_, rfl⟩ := Act.returns_pure.mp returned
      exact standing
  | cons j rest ih =>
      obtain ⟨column, middle, first, others⟩ := Act.returns_bind.mp returned
      have standing := placed.measureColumn standing first
      cases column with
      | none =>
          obtain ⟨_, rfl⟩ := Act.returns_pure.mp others
          exact standing
      | some column => exact ih standing others

/-- The parameters are where they were, and a Jacobian that was not rebuilt is the
one from before. -/
theorem buildJacobian {steps : Vector ℚ n} {before after : Measured ℚ σ m n} {built : Bool}
    (standing : stands place before.problem)
    (returned : Returns (problem.buildJacobian steps) before built after) :
    stands place after.problem ∧ (built = false → after.jacobian = before.jacobian) := by
  obtain ⟨measured, middle, columns, ending⟩ := returns_buildJacobian.mp returned
  have standing := placed.measureColumns standing columns
  cases measured with
  | none =>
      obtain ⟨_, rfl⟩ := ending
      exact ⟨standing, fun _ => rfl⟩
  | some jacobian =>
      obtain ⟨rfl, rfl⟩ := ending
      exact ⟨standing, nofun⟩

section Counted

variable (counted : ∀ ⦃place state⦄, stands place state → (problem.residuals state).value.length = m)

include counted

/-- Where there are always as many residuals, the measuring of a column returns. -/
theorem exists_measureColumn {before : σ} (standing : stands place before) (steps : Vector ℚ n)
    (j : Fin n) :
    ∃ column after, Returns (problem.measureColumn m steps j) before column after := by
  obtain ⟨side, sideIs⟩ : ∃ side : Fin n → ℚ, Pi.single j (steps.get j) = side := ⟨_, rfl⟩
  simp only [returns_measureColumn_ofFn sideIs]
  have forward := placed.nudge standing (rfl : place + side = _)
  split
  · exact ⟨none, _, rfl, rfl⟩
  · have backward := placed.nudge (placed.residuals forward) (rfl : _ + -(side + side) = _)
    split
    · exact ⟨none, _, rfl, rfl⟩
    · obtain ⟨column, measured⟩ :=
        exists_differences (counted forward) (counted backward) (steps.get j)
      exact ⟨_, _, column, measured, rfl, rfl⟩

theorem exists_buildJacobian {before : Measured ℚ σ m n}
    (standing : stands place before.problem) (steps : Vector ℚ n) :
    ∃ built after, Returns (problem.buildJacobian steps) before built after := by
  have column {state : σ} (standing : stands place state) (j : Fin n) :
      ∃ column after, Returns (problem.measureColumn m steps j) state column after ∧
        stands place after := by
    obtain ⟨column, after, returned⟩ := placed.exists_measureColumn counted standing steps j
    exact ⟨column, after, returned, placed.measureColumn standing returned⟩
  obtain ⟨built, after, returned, -⟩ :=
    Solver.exists_buildJacobian (fun _ => column) standing
  exact ⟨built, after, returned⟩

end Counted

end Problem.Placed

/-- The residuals are as many at every time. -/
structure Problem.Steady (problem : Problem ℚ σ) (m : ℕ) (stands : (Fin n → ℚ) → σ → Prop) :
    Prop where
  apply : ∀ ⦃place state⦄, stands place state → ∀ delta : Fin n → ℚ,
    stands (place + delta) (problem.apply (List.ofFn delta) state).state
  evaluate : ∀ ⦃place state⦄, stands place state →
    stands place (problem.evaluate state).state ∧ ∀ sos ∈ (problem.evaluate state).value, 0 ≤ sos
  residuals : ∀ ⦃place state⦄, stands place state →
    (problem.residuals state).value.length = m ∧ stands place (problem.residuals state).state

theorem exists_readNearest {α : Type} {values : List α} (length : values.length = m) (i : Fin m) :
    ∃ value, readNearest values i = .ok value := by
  subst length
  rw [readNearest, insidePlace_natCast]
  exact ⟨_, rfl⟩

namespace Problem.Steady

variable {problem : Problem ℚ σ} {place : Fin n → ℚ} {before : σ} (steady : problem.Steady m stands)

include steady

theorem placed : problem.Placed stands where
  apply _ _ standing := steady.apply standing
  evaluate _ _ standing := (steady.evaluate standing).1
  residuals _ _ standing := (steady.residuals standing).2

theorem nudge (standing : stands place before) (delta : Fin n → ℚ) :
    stands (place + delta) (problem.nudge (List.ofFn delta) before).state :=
  steady.placed.nudge standing rfl

theorem host (steps : Vector ℚ n) :
    (problem.host steps : Host ℚ (Measured ℚ σ m n)).Steady m n
      fun place state => stands place state.problem where
  evaluate _ _ standing := steady.evaluate standing
  nudge _ _ standing delta := steady.nudge standing delta
  buildJacobian := by
    intro place before standing
    obtain ⟨built, after, returned⟩ := steady.placed.exists_buildJacobian
      (fun _ _ standing => (steady.residuals standing).1) standing steps
    exact ⟨built, after, returned, (steady.placed.buildJacobian standing returned).1⟩
  fetchJacobian _ state standing _ _ :=
    ⟨_, state, returns_fetchJacobian.mpr ⟨rfl, rfl⟩, standing⟩
  fetchResidual := by
    intro place before standing i
    obtain ⟨length, standing⟩ := steady.residuals standing
    obtain ⟨value, read⟩ := exists_readNearest length i
    exact ⟨value, _, returns_fetchResidual.mpr ⟨read, rfl⟩, standing⟩

end Problem.Steady

end OpticTune.Solver
