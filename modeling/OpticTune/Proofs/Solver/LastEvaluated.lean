import OpticTune.Proofs.Solver.Descent
import OpticTune.Proofs.Solver.Keeps
import OpticTune.Proofs.Solver.Steady

namespace OpticTune.Solver

open Act (Keeps Returns)
open Linear (NormalEquations)

/-! Where the latest figures are from.

An evaluation that fails leaves the figures of the one before. So a state has two
places: where its parameters are held, and where they were held when they were last
evaluated without a failure. An iteration that starts where the two are one leaves
them one, unless it ends at a parameter that can be evaluated one step forward and
not one step back: it is moved back without an evaluation.
-/

variable {σ : Type} {m n : ℕ}

section Landscape

variable (landscape : Landscape ℚ m n) (steps : Vector ℚ n) (params : Fin n → ℚ)

/-- The first column that cannot be measured fails on the way back. -/
structure Landscape.Slips (j : Fin n) : Prop where
  earlier : ∀ i < j, landscape.Measurable steps params i
  ahead : (landscape.sos (params + Pi.single j (steps.get j))).isSome
  behind : landscape.sos (params - Pi.single j (steps.get j)) = none

/-- Where the figures are from after a column has failed. -/
def Landscape.astray (j : Fin n) : Fin n → ℚ :=
  if (landscape.sos (params + Pi.single j (steps.get j))).isSome then
    params + Pi.single j (steps.get j)
  else params

variable {landscape steps params} {j : Fin n}

theorem Landscape.Slips.astray_eq (slips : landscape.Slips steps params j) :
    landscape.astray steps params j = params + Pi.single j (steps.get j) :=
  if_pos slips.ahead

theorem Landscape.Slips.not_measurable (slips : landscape.Slips steps params j) :
    ¬ landscape.Measurable steps params j := by
  rintro ⟨_, behind⟩
  simp [slips.behind] at behind

/-- A column that is the first to fail slips, or leaves the figures alone. -/
theorem Landscape.slips_or_astray_eq (earlier : ∀ i < j, landscape.Measurable steps params i)
    (failing : ¬ landscape.Measurable steps params j) :
    landscape.Slips steps params j ∨
      ¬ landscape.Slips steps params j ∧ landscape.astray steps params j = params := by
  by_cases ahead : (landscape.sos (params + Pi.single j (steps.get j))).isSome
  · refine .inl ⟨earlier, ahead, ?_⟩
    have behind := not_and.mp failing ahead
    simpa using behind
  · exact .inr ⟨fun slips => ahead slips.ahead, if_neg ahead⟩

/-- The first column to fail is one. -/
theorem Landscape.Slips.eq_of_first (slips : landscape.Slips steps params j) {i : Fin n}
    (earlier : ∀ k < i, landscape.Measurable steps params k)
    (failing : ¬ landscape.Measurable steps params i) : i = j := by
  rcases lt_trichotomy i j with before | same | after
  · exact absurd (slips.earlier i before) failing
  · exact same
  · exact absurd (earlier j after) slips.not_measurable

end Landscape

structure Problem.Tracks (problem : Problem ℚ σ) (landscape : Landscape ℚ m n)
    (stands : (held figured : Fin n → ℚ) → σ → Prop) : Prop where
  apply : ∀ ⦃held figured state⦄, stands held figured state → ∀ delta : Fin n → ℚ,
    stands (held + delta) figured (problem.apply (List.ofFn delta) state).state
  evaluate : ∀ ⦃held figured state⦄, stands held figured state →
    (problem.evaluate state).value = landscape.sos held ∧
      stands held (if (landscape.sos held).isSome then held else figured)
        (problem.evaluate state).state
  residuals : ∀ ⦃held figured⦄, Keeps (stands held figured) problem.residuals

namespace Problem.Tracks

variable {problem : Problem ℚ σ} {landscape : Landscape ℚ m n}
  {stands : (held figured : Fin n → ℚ) → σ → Prop} (tracks : problem.Tracks landscape stands)
  {steps : Vector ℚ n} {params : Fin n → ℚ}

include tracks

theorem nudged {held figured delta target : Fin n → ℚ} {state : σ}
    (standing : stands held figured state) (arrives : held + delta = target) :
    (problem.nudge (List.ofFn delta) state).value = landscape.sos target ∧
      stands target (if (landscape.sos target).isSome then target else figured)
        (problem.nudge (List.ofFn delta) state).state := by
  subst arrives
  exact tracks.evaluate (tracks.apply standing delta)

section Columns

variable {before after : σ} (standing : stands params params before)
  (evaluates : (landscape.sos params).isSome)

include standing evaluates

theorem measureColumn {j : Fin n} {column : Option (Vector ℚ m)}
    (returned : Returns (problem.measureColumn m steps j) before column after) :
    (column.isSome ∧ landscape.Measurable steps params j ∧ stands params params after) ∨
      (column = none ∧ ¬ landscape.Measurable steps params j ∧
        stands params (landscape.astray steps params j) after) := by
  obtain ⟨side, sideIs⟩ : ∃ side : Fin n → ℚ, Pi.single j (steps.get j) = side := ⟨_, rfl⟩
  have there : params + side + -(side + side) = params - side := by abel
  simp only [returns_measureColumn_ofFn sideIs] at returned
  rw [Landscape.Measurable, Landscape.astray, sideIs]
  obtain ⟨forwardValue, forward⟩ := tracks.nudged standing (rfl : params + side = _)
  simp only [forwardValue] at returned
  cases front : landscape.sos (params + side) with
  | none =>
      rw [front] at returned forward
      obtain ⟨rfl, rfl⟩ := returned
      have restored := tracks.apply forward (-side)
      rw [add_neg_cancel_right] at restored
      exact .inr ⟨rfl, by simp, restored⟩
  | some aheadSos =>
      rw [front] at returned forward
      obtain ⟨backwardValue, backward⟩ := tracks.nudged (tracks.residuals forward) there
      simp only [Option.isNone_some, Bool.false_eq_true, ↓reduceIte, backwardValue] at returned
      cases behind : landscape.sos (params - side) with
      | none =>
          rw [behind] at returned backward
          obtain ⟨rfl, rfl⟩ := returned
          have restored := tracks.apply backward side
          rw [sub_add_cancel] at restored
          exact .inr ⟨rfl, by simp, restored⟩
      | some behindSos =>
          rw [behind] at returned backward
          obtain ⟨restoredValue, restored⟩ :=
            tracks.nudged (tracks.residuals backward) (sub_add_cancel params side)
          obtain ⟨found, _, rfl, rfl⟩ := returned
          rw [if_pos evaluates] at restored
          refine .inl ⟨?_, by simp, restored⟩
          rw [restoredValue, Option.isNone_eq_false_iff.mpr evaluates]
          rfl

theorem measureColumns {columns : List (Fin n)} {table : Table ℚ m n}
    {measured : Option (Table ℚ m n)}
    (returned : Returns (problem.measureColumns steps columns table) before measured after) :
    (measured.isSome ∧ (∀ j ∈ columns, landscape.Measurable steps params j) ∧
      stands params params after) ∨
      (measured = none ∧ ∃ done j rest, columns = done ++ j :: rest ∧
        (∀ i ∈ done, landscape.Measurable steps params i) ∧
        ¬ landscape.Measurable steps params j ∧
        stands params (landscape.astray steps params j) after) := by
  induction columns generalizing before table with
  | nil =>
      obtain ⟨rfl, rfl⟩ := Act.returns_pure.mp returned
      exact .inl ⟨rfl, nofun, standing⟩
  | cons j rest ih =>
      obtain ⟨column, middle, first, others⟩ := Act.returns_bind.mp returned
      rcases tracks.measureColumn standing evaluates first with
        ⟨some, measurable, standing⟩ | ⟨rfl, failing, standing⟩
      · obtain ⟨column, rfl⟩ := Option.isSome_iff_exists.mp some
        rcases ih standing others with
          ⟨done, all, standing⟩ | ⟨none, done, k, later, rfl, all, failing, standing⟩
        · exact .inl ⟨done, List.forall_mem_cons.mpr ⟨measurable, all⟩, standing⟩
        · exact .inr ⟨none, j :: done, k, later, rfl,
            List.forall_mem_cons.mpr ⟨measurable, all⟩, failing, standing⟩
      · obtain ⟨rfl, rfl⟩ := Act.returns_pure.mp others
        exact .inr ⟨rfl, [], j, rest, rfl, nofun, failing, standing⟩

end Columns

section Iteration

variable {before after : Measured ℚ σ m n} (standing : stands params params before.problem)

include standing

theorem buildJacobian (evaluates : (landscape.sos params).isSome) {built : Bool}
    (returned : Returns (problem.buildJacobian steps) before built after) :
    (built = true ∧ (∀ j, landscape.Measurable steps params j) ∧
      stands params params after.problem) ∨
      (built = false ∧ ∃ j, (∀ i < j, landscape.Measurable steps params i) ∧
        ¬ landscape.Measurable steps params j ∧
        stands params (landscape.astray steps params j) after.problem) := by
  obtain ⟨measured, middle, columns, rest⟩ := returns_buildJacobian.mp returned
  rcases tracks.measureColumns standing evaluates columns with
    ⟨some, all, standing⟩ | ⟨rfl, done, j, later, split, all, failing, standing⟩
  · obtain ⟨jacobian, rfl⟩ := Option.isSome_iff_exists.mp some
    obtain ⟨rfl, rfl⟩ := rest
    exact .inl ⟨rfl, fun j => all j (List.mem_finRange j), standing⟩
  · obtain ⟨rfl, rfl⟩ := rest
    refine .inr ⟨rfl, j, fun i before => all i ?_, failing, standing⟩
    -- the columns are measured in their order, so those before `j` come first
    have ordered := List.pairwise_lt_finRange n
    rw [split, List.pairwise_append, List.pairwise_cons] at ordered
    have member : i ∈ done ++ j :: later := split ▸ List.mem_finRange i
    rcases List.mem_append.mp member with early | late
    · exact early
    · rcases List.mem_cons.mp late with rfl | late
      · exact absurd before (lt_irrefl _)
      · exact absurd before (ordered.2.1.1 i late).not_gt

theorem gather {gathered : Table ℚ m n × Vector ℚ m}
    (returned : Returns ((problem.host steps).gather m n) before gathered after) :
    stands params params after.problem := by
  have keeps : Keeps (fun state : Measured ℚ σ m n => stands params params state.problem)
      ((problem.host steps).gather m n).run := by
    refine keeps_gather (fun row _ column _ => ?_) (fun row _ => ?_)
    · exact Act.keeps_get.andThen fun _ => Act.keeps_ofExcept _
    · have residuals : Keeps (fun state : Measured ℚ σ m n => stands params params state.problem)
          (onProblem problem.residuals) :=
        tracks.residuals.within _ _ (fun _ held => held) fun _ _ _ held => held
      exact residuals.lift.andThen fun _ => Act.keeps_ofExcept _
  exact keeps.of_returns returned standing

variable {start : ℚ} (started : landscape.sos params = some start) (nonneg : 0 ≤ start)

include started nonneg

variable {config : Config ℚ} (accepted : config.Accepted m n)

include accepted

section Trials

variable {equations : NormalEquations ℚ n} {outer inner limit : ℕ} {damping : ℚ}

/-- A trial that is undone is followed by an evaluation where it was undone to. -/
theorem attempt {ending : Option (State ℚ × Status)}
    (returned : Returns (attempt (problem.host steps) config equations outer start inner damping)
      before ending after) :
    ∃ reached sos, stands reached reached after.problem ∧ landscape.sos reached = some sos ∧
      sos ≤ start ∧ (ending = none → reached = params) ∧ ∀ final ∈ ending, final.2 ≠ .bad := by
  obtain ⟨delta, all⟩ := exists_delta (problem.host steps) config equations outer inner damping nonneg
  obtain ⟨value, moved⟩ := tracks.nudged standing (rfl : params + delta = _)
  obtain ⟨_, restored⟩ := tracks.nudged moved (add_neg_cancel_right params delta)
  rw [started] at restored
  rw [all] at returned
  simp only [host_nudge, value] at returned
  split at returned
  · cases found : landscape.sos (params + delta) with
    | none =>
        rw [found] at returned
        obtain ⟨rfl, rfl⟩ := returned
        exact ⟨params, start, restored, started, le_rfl, fun _ => rfl, nofun⟩
    | some sos =>
        rw [found] at moved
        rw [found, ofRise_some] at returned
        have kept (falls : rise start sos ≤ 0) : sos ≤ start := by
          have fall := (rise_le_iff nonneg).mp falls
          linarith
        split_ifs at returned with drops falls small
        · obtain ⟨rfl, rfl⟩ := returned
          have lower := kept (drops.trans (neg_nonpos.mpr accepted.tolerance.le))
          exact ⟨params + delta, sos, moved, found, lower, nofun, by simp⟩
        · obtain ⟨rfl, rfl⟩ := returned
          exact ⟨params + delta, sos, moved, found, kept falls, nofun, by simp⟩
        · obtain ⟨rfl, rfl⟩ := returned
          exact ⟨params, start, restored, started, le_rfl, nofun, by simp⟩
        · obtain ⟨rfl, rfl⟩ := returned
          exact ⟨params, start, restored, started, le_rfl, fun _ => rfl, nofun⟩
  · obtain ⟨rfl, rfl⟩ := returned
    exact ⟨params, start, standing, started, le_rfl, fun _ => rfl, nofun⟩

theorem trials {ending : State ℚ × Status}
    (returned : Returns (trials (problem.host steps) config equations outer start limit inner
      damping) before ending after) :
    ∃ reached sos, stands reached reached after.problem ∧ landscape.sos reached = some sos ∧
      sos ≤ start ∧ (ending.2 = .bad → reached = params) := by
  induction limit generalizing before inner damping with
  | zero => exact absurd returned not_returns_trials_zero
  | succ limit ih =>
      obtain ⟨found, middle, tried, rest⟩ := returns_trials_succ.mp returned
      obtain ⟨reached, sos, moved, evaluates, lower, undone, sound⟩ :=
        tracks.attempt standing started nonneg accepted tried
      cases found with
      | some final =>
          obtain ⟨rfl, rfl⟩ := rest
          exact ⟨reached, sos, moved, evaluates, lower, fun bad => absurd bad (sound _ rfl)⟩
      | none =>
          obtain rfl := undone rfl
          simp only at rest
          split at rest
          · obtain ⟨rfl, rfl⟩ := rest
            exact ⟨reached, sos, moved, evaluates, lower, fun _ => rfl⟩
          · exact ih moved rest

end Trials

/-- An iteration ends at a column that slips, with figures from one step forward;
or else with the figures of the place it leaves, not above those of its start. -/
theorem iterate {state : State ℚ} {ending : State ℚ × Status}
    (returned : Returns (iterate (problem.host steps) config state) before ending after) :
    (∃ j, landscape.Slips steps params j ∧ ending.2 = .bad ∧
        stands params (params + Pi.single j (steps.get j)) after.problem) ∨
      ∃ reached sos, stands reached reached after.problem ∧ landscape.sos reached = some sos ∧
        sos ≤ start ∧
        (ending.2 = .bad → reached = params ∧ ∀ j, ¬ landscape.Slips steps params j) := by
  obtain rfl := accepted.pointCount
  obtain rfl := accepted.paramCount
  have evaluates : (landscape.sos params).isSome := by rw [started]; rfl
  obtain ⟨value, standing⟩ := tracks.evaluate standing
  rw [if_pos evaluates] at standing
  have began : ((problem.host steps).evaluate before).value = some start := value.trans started
  simp only [Solver.iterate, returns_iterateWithin, began, hasFailed_eq, Option.isNone_some,
    Bool.false_eq_true, ↓reduceIte, Option.some.injEq, exists_eq_left'] at returned
  obtain ⟨built, middle, building, rest⟩ := returned
  rcases tracks.buildJacobian standing evaluates building with
    ⟨rfl, all, standing⟩ | ⟨rfl, j, earlier, failing, standing⟩
  · obtain ⟨jacobian, residuals, gathered, gathering, tried⟩ := rest
    obtain ⟨reached, sos, moved, evaluates, lower, stays⟩ := tracks.trials
      (tracks.gather standing gathering) started nonneg accepted tried
    exact .inr ⟨reached, sos, moved, evaluates, lower,
      fun bad => ⟨stays bad, fun j slips => slips.not_measurable (all j)⟩⟩
  · obtain ⟨rfl, rfl⟩ := rest
    rcases Landscape.slips_or_astray_eq earlier failing with slips | ⟨steady, same⟩
    · exact .inl ⟨j, slips, rfl, slips.astray_eq ▸ standing⟩
    · rw [same] at standing
      refine .inr ⟨params, start, standing, started, le_rfl, fun _ => ⟨rfl, fun i slips => ?_⟩⟩
      exact steady (slips.eq_of_first earlier failing ▸ slips)

end Iteration

end Problem.Tracks

end OpticTune.Solver
