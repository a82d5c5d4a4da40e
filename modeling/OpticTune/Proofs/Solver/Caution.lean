import OpticTune.Proofs.Linear.Heavier
import OpticTune.Proofs.Solver.Boosts
import OpticTune.Proofs.Solver.Watched
import OpticTune.Proofs.Stops

namespace OpticTune.Solver

open Act (Keeps Returns Stops)
open Linear (MoreCautious NormalEquations magnitude)
open scoped Matrix

/-! The steps one iteration tries become shorter and shorter.

Every trial is damped more heavily than the one before it, and is made from the same
parameters. This is read off the changes a watched host is asked for, so it holds of
iterations that are stopped as well.
-/

section Changes

variable {α σ : Type}

/-- The change a request is for, if it is for one. -/
def Request.change? : Request α → Option (List α)
  | nudge delta => some delta
  | _ => none

/-- The changes among what a host was asked for. -/
def changes (requests : List (Request α)) : List (List α) :=
  requests.filterMap Request.change?

/-- Steps and the changes they are sent as: every step is taken back before the next
one is sent, the last may stand. -/
inductive Sent [Neg α] : (steps changes : List (List α)) → Prop where
  | none : Sent [] []
  | standing {step} : Sent [step] [step]
  | undone {step steps changes} : Sent steps changes →
      Sent (step :: steps) (step :: step.map Neg.neg :: changes)

theorem changes_append_nudges {requests : List (Request α)} (sent : List (List α))
    (quiet : ∀ request ∈ requests, request.change? = none) :
    changes (requests ++ sent.map Request.nudge) = sent := by
  have asked : sent.filterMap (Request.change? ∘ Request.nudge) = sent := List.filterMap_some
  rw [changes, List.filterMap_append, List.filterMap_eq_nil_iff.mpr quiet, List.filterMap_map,
    asked, List.nil_append]

/-- No change was asked for yet. -/
def Quiet (watched : Watched σ (Request α)) : Prop :=
  ∀ request ∈ watched.sights, request.change? = none

theorem Quiet.changes_eq_nil {watched : Watched σ (Request α)} (quiet : Quiet watched) :
    changes watched.sights = [] :=
  List.filterMap_eq_nil_iff.mpr quiet

theorem quiet_watching {β : Type} {sight : β → σ → Request α} {action : Act α σ β}
    (silent : ∀ value state, (sight value state).change? = none) :
    Keeps Quiet (watching sight action) := by
  intro watched quiet
  have always : Keeps (fun _ : σ => True) action := fun _ _ => trivial
  exact (keeps_watching sight always (fun state _ => silent _ _) ⟨trivial, quiet⟩).2

theorem quiet_requested {β : Type} {request : Request α} (action : ExceptT Fault (Act α σ) β)
    (silent : request.change? = none) : Keeps Quiet (requested request action).run := by
  have watched : Keeps Quiet (watching (fun _ _ => request) action.run) :=
    quiet_watching fun _ _ => silent
  exact watched

variable (host : Host α σ)

theorem quiet_evaluate : Keeps Quiet host.watched.evaluate :=
  quiet_watching fun _ _ => rfl

theorem quiet_buildJacobian : Keeps Quiet host.watched.buildJacobian.run :=
  quiet_requested host.buildJacobian rfl

theorem quiet_gather (m n : ℕ) : Keeps Quiet (host.watched.gather m n).run :=
  keeps_gather (fun _ _ _ _ => quiet_requested _ rfl) fun _ _ => quiet_requested _ rfl

end Changes

section Attempt

variable {α σ : Type} [Scalar α] {host : Host α σ} {config : Config α} {before : σ} {n : ℕ}
  {equations : NormalEquations α n} {outer inner : ℕ} {start damping : α}

/-- An attempt leaves its step standing or taken back, also if it is stopped. -/
theorem left_by_attempt (usable : (equations.step damping).isUsable = true) :
    let delta := (equations.step damping).delta.toList
    let moved := (host.nudge delta before).state
    let attempted := ((attempt host config equations outer start inner damping).run before).state
    attempted = moved ∨ attempted = (host.nudge (delta.map Neg.neg) moved).state := by
  unfold attempt
  simp only [usable, Bool.not_true, Bool.false_eq_true, ↓reduceIte]
  rw [Act.state_liftM_bind]
  cases judged : judge config.tolerance
      (host.nudge (equations.step damping).delta.toList before).value start with
  | error fault => exact .inl rfl
  | ok verdict =>
      cases verdict with
      | down | level => exact .inl rfl
      | negligible | rejected => exact .inr rfl

/-- An attempt that calls for another has taken its step back. -/
theorem left_by_rejected (usable : (equations.step damping).isUsable = true) {after : σ}
    (returned : Returns (attempt host config equations outer start inner damping) before none
      after) :
    let delta := (equations.step damping).delta.toList
    after = (host.nudge (delta.map Neg.neg) (host.nudge delta before).state).state := by
  have inverted := returns_attempt.mp returned
  simp only [usable, ↓reduceIte] at inverted
  obtain ⟨verdict, -, ends⟩ := inverted
  cases verdict with
  | down | level | negligible => exact nomatch ends.1
  | rejected => exact ends.2

end Attempt

section Trials

variable {σ : Type} {host : Host ℚ σ} {config : Config ℚ} {n outer inner : ℕ}
  {equations : NormalEquations ℚ n} {start damping : ℚ} {earlier later : List (Request ℚ)}

/-- What trials ask for beside what was asked earlier: the steps for a damping that is
boosted after every one of them. -/
def Sends (config : Config ℚ) (equations : NormalEquations ℚ n) (damping : ℚ)
    (earlier later : List (Request ℚ)) : Prop :=
  ∃ steps sent, later = earlier ++ sent.map Request.nudge ∧ Sent steps sent ∧
    ∀ k (made : k < steps.length), steps[k] =
      (equations.step (damping * config.boost ^ k)).delta.toList

theorem sends_none : Sends config equations damping earlier earlier :=
  ⟨[], [], (List.append_nil _).symm, .none, nofun⟩

theorem sends_standing : Sends config equations damping earlier
    (earlier ++ [.nudge (equations.step damping).delta.toList]) := by
  refine ⟨[_], [_], rfl, .standing, fun k made => ?_⟩
  obtain rfl : k = 0 := by simpa using made
  rw [pow_zero, mul_one]
  rfl

/-- The steps for the boosted damping follow one that was taken back. -/
theorem Sends.boosted (sends : Sends config equations (damping * config.boost)
      (earlier ++ [.nudge (equations.step damping).delta.toList] ++
        [.nudge ((equations.step damping).delta.toList.map Neg.neg)]) later) :
    Sends config equations damping earlier later := by
  obtain ⟨steps, sent, rfl, undone, damped⟩ := sends
  let delta := (equations.step damping).delta.toList
  refine ⟨delta :: steps, delta :: delta.map Neg.neg :: sent, ?_, .undone undone, fun k made => ?_⟩
  · rw [List.append_assoc, List.append_assoc]
    rfl
  · cases k with
    | zero => rw [pow_zero, mul_one]; rfl
    | succ k =>
        rw [pow_succ', ← mul_assoc]
        exact damped k (Nat.lt_of_succ_lt_succ made)

theorem sends_attempt (usable : (equations.step damping).isUsable = true)
    {watched after : Watched σ (Request ℚ)}
    (left : ((attempt host.watched config equations outer start inner damping).run
      watched).state = after) :
    Sends config equations damping watched.sights after.sights := by
  subst left
  rcases left_by_attempt usable with standing | undone
  · rw [standing]
    exact sends_standing
  · rw [undone]
    exact .boosted sends_none

theorem sends_trials {m : ℕ} {jacobian : Table ℚ m n} {residuals : Vector ℚ m}
    (grows : 1 < config.boost) (limit inner : ℕ) (positive : 0 < damping)
    (watched : Watched σ (Request ℚ)) :
    Sends config (.ofJacobian jacobian residuals) damping watched.sights
      ((trials host.watched config (.ofJacobian jacobian residuals) outer start limit inner
        damping).run watched).state.sights := by
  induction limit generalizing inner damping watched with
  | zero => exact sends_none
  | succ limit ih =>
      have usable := (NormalEquations.step_ofJacobian jacobian residuals positive).1
      rw [trials]
      rcases Act.returns_or_stops (attempt host.watched config (.ofJacobian jacobian residuals)
        outer start (inner + 1) damping) watched with ⟨found, middle, returned⟩ | ⟨error, stopped⟩
      · rw [returned.state_bind]
        cases found with
        | some ending => exact sends_attempt usable returned.2
        | none =>
            simp only
            split
            · exact sends_attempt usable returned.2
            · -- the step was taken back, so the rest is sent as by a first attempt
              have boosted : 0 < damping * config.boost := mul_pos positive (by linarith)
              refine .boosted ?_
              have left := left_by_rejected usable returned
              have rest := ih (inner + 1) boosted middle
              rw [left] at rest ⊢
              exact rest
      · rw [stopped.state_bind]
        exact sends_attempt usable rfl

end Trials

section Lengths

variable {m n : ℕ} {jacobian : Table ℚ m n} {residuals : Vector ℚ m} {boost damping : ℚ}
  {steps : List (List ℚ)}

theorem magnitude_toList (vector : Vector ℚ n) :
    magnitude vector.toList.get = magnitude vector.get := by
  have same : vector.toList.get ⬝ᵥ vector.toList.get = vector.get ⬝ᵥ vector.get := by
    refine Fintype.sum_equiv (finCongr Vector.length_toList) _ _ fun place => ?_
    simp only [List.get_eq_getElem, Vector.getElem_toList]
    rfl
  rw [magnitude, magnitude, same]

variable (grows : 1 < boost) (positive : 0 < damping)
  (damped : ∀ k (made : k < steps.length), steps[k] =
    ((NormalEquations.ofJacobian jacobian residuals).step (damping * boost ^ k)).delta.toList)

include grows positive damped

/-- Steps for a damping that is boosted become shorter, where there is a slope. -/
theorem shorter_of_damped (slope : jacobian.toMatrixᵀ *ᵥ residuals.get ≠ 0) :
    steps.Pairwise fun earlier later => magnitude later.get < magnitude earlier.get := by
  refine List.pairwise_iff_getElem.mpr fun j k before after further => ?_
  have lighter : 0 < damping * boost ^ j := mul_pos positive (pow_pos (by linarith) j)
  have heavier : damping * boost ^ j < damping * boost ^ k :=
    mul_lt_mul_of_pos_left (pow_lt_pow_right₀ grows further) positive
  rw [damped j before, damped k after, magnitude_toList, magnitude_toList]
  exact ((Linear.moreCautious_step jacobian residuals lighter heavier).strict slope).1

theorem zero_of_damped (flat : jacobian.toMatrixᵀ *ᵥ residuals.get = 0) :
    ∀ step ∈ steps, step = List.replicate n 0 := by
  intro step member
  obtain ⟨k, made, rfl⟩ := List.getElem_of_mem member
  have lighter : 0 < damping * boost ^ k := mul_pos positive (pow_pos (by linarith) k)
  obtain ⟨_, solves⟩ := NormalEquations.step_ofJacobian jacobian residuals lighter
  have still := (solves.eq_zero_iff lighter).mpr flat
  have zero : ((NormalEquations.ofJacobian jacobian residuals).step (damping * boost ^ k)).delta =
      Vector.replicate n 0 := by
    ext place inside
    rw [Vector.getElem_replicate]
    exact congrFun still ⟨place, inside⟩
  rw [damped k made, zero, Vector.toList_replicate]

end Lengths

section Iteration

variable {σ : Type}

/-- The steps one iteration tries. They are sent in their order, those that are not kept
are taken back, and nothing else is sent. -/
inductive Shortening (host : Host ℚ σ) (config : Config ℚ) (state : State ℚ) (before : σ) :
    (changes : List (List ℚ)) → Prop where
  | nothing : Shortening host config state before []
  | steps {middle jacobian residuals gathered steps changes} :
      Returns host.buildJacobian (host.evaluate before).state true middle →
      Returns (host.gather config.pointCount config.paramCount) middle (jacobian, residuals)
        gathered →
      (∀ k (made : k < steps.length), steps[k] =
        ((NormalEquations.ofJacobian jacobian residuals).step
          (state.damping * config.boost ^ k)).delta.toList) →
      (jacobian.toMatrixᵀ *ᵥ residuals.get ≠ 0 →
        steps.Pairwise fun earlier later => magnitude later.get < magnitude earlier.get) →
      (jacobian.toMatrixᵀ *ᵥ residuals.get = 0 →
        ∀ step ∈ steps, step = List.replicate config.paramCount 0) →
      Sent steps changes →
      Shortening host config state before changes

variable {host : Host ℚ σ} {config : Config ℚ} {state : State ℚ} {before : σ}

theorem Quiet.shortening {watched : Watched σ (Request ℚ)} (quiet : Quiet watched) :
    Shortening host config state before (changes watched.sights) := by
  rw [quiet.changes_eq_nil]
  exact .nothing

variable (grows : 1 < config.boost) (positive : 0 < state.damping)

include grows positive

theorem Sends.shortening {middle gathered : σ}
    {jacobian : Table ℚ config.pointCount config.paramCount}
    {residuals : Vector ℚ config.pointCount} {earlier later : List (Request ℚ)}
    (builds : Returns host.buildJacobian (host.evaluate before).state true middle)
    (fetches : Returns (host.gather config.pointCount config.paramCount) middle
      (jacobian, residuals) gathered)
    (quiet : ∀ request ∈ earlier, request.change? = none)
    (sends : Sends config (.ofJacobian jacobian residuals) state.damping earlier later) :
    Shortening host config state before (changes later) := by
  obtain ⟨steps, sent, rfl, taken, damped⟩ := sends
  rw [changes_append_nudges sent quiet]
  exact .steps builds fetches damped (shorter_of_damped grows positive damped)
    (zero_of_damped grows positive damped) taken

/-- What is sent once the Jacobian is built. -/
theorem fetched_shortens {watched : Watched σ (Request ℚ)} {outer limit : ℕ} {start : ℚ}
    (quiet : Quiet watched)
    (builds : Returns host.buildJacobian (host.evaluate before).state true watched.state) :
    Shortening host config state before
      (changes ((do
        let (jacobian, residuals) ← host.watched.gather config.pointCount config.paramCount
        trials host.watched config (.ofJacobian jacobian residuals) outer start limit 0
          state.damping : ExceptT Fault (Act ℚ _) _).run watched).state.sights) := by
  have silent := quiet_gather host config.pointCount config.paramCount
  rcases Act.returns_or_stops (host.watched.gather config.pointCount config.paramCount) watched
    with ⟨⟨jacobian, residuals⟩, gathered, fetching⟩ | ⟨error, stopped⟩
  · obtain ⟨_, fetches, rfl⟩ := (host.agrees_watched.gather _ _).of_returns
      (rfl : watched.state = watched.state) fetching
    have quiet := silent.of_returns fetching quiet
    rw [fetching.state_bind]
    exact (sends_trials grows limit 0 positive gathered).shortening grows positive builds fetches
      quiet
  · rw [stopped.state_bind]
    exact (silent quiet).shortening

variable (host before) in
theorem iterate_shortens :
    Shortening host config state before
      (changes ((iterate host.watched config state).run ⟨before, []⟩).state.sights) := by
  have quiet : Quiet (host.watched.evaluate ⟨before, []⟩).state := quiet_evaluate host nofun
  have silent := quiet_buildJacobian host
  unfold iterate iterateWithin iterateWithin.failed
  rw [Act.state_liftM_bind]
  cases (host.watched.evaluate ⟨before, []⟩).value with
  | none => exact quiet.shortening
  | some start =>
      simp only
      split
      · exact quiet.shortening
      · rcases Act.returns_or_stops host.watched.buildJacobian
          (host.watched.evaluate ⟨before, []⟩).state with
            ⟨built, middle, building⟩ | ⟨error, stopped⟩
        · have quiet := silent.of_returns building quiet
          rw [building.state_bind]
          cases built with
          | false => exact quiet.shortening
          | true =>
              obtain ⟨_, builds, rfl⟩ := host.agrees_watched.buildJacobian.of_returns
                (rfl : (host.watched.evaluate ⟨before, []⟩).state.state = _) building
              exact fetched_shortens grows positive quiet builds
        · rw [stopped.state_bind]
          exact (silent quiet).shortening

end Iteration

/-- Heavier damping makes a step shorter and what is foretold for it less good, never
worse than to stay. So the steps of an iteration become shorter from trial to trial,
against any host and also if it is stopped. -/
theorem damping_shortens {σ : Type} {paramCount pointCount : ℤ} {tolerance boost shrink : ℚ}
    {range : DampingRange ℚ} {config : Config ℚ}
    (made : Config.make paramCount pointCount tolerance range boost shrink = .ok config)
    {state : State ℚ} (positive : 0 < state.damping) (host : Host ℚ σ) (before : σ) :
    (∀ (m n : ℕ) (jacobian : Table ℚ m n) (residuals : Vector ℚ m) (lighter heavier : ℚ),
      0 < lighter → lighter < heavier →
        let equations := NormalEquations.ofJacobian jacobian residuals
        (equations.step lighter).isUsable = true ∧ (equations.step heavier).isUsable = true ∧
          MoreCautious jacobian.toMatrix residuals.get (equations.step lighter).delta.get
            (equations.step heavier).delta.get) ∧
      let plain := (iterate host config state).run before
      let watched := (iterate host.watched config state).run ⟨before, []⟩
      watched.value = plain.value ∧ watched.state.state = plain.state ∧
        Shortening host config state before (changes watched.state.sights) := by
  have grows : 1 < config.boost := by
    obtain ⟨_, _, _, _, _, ⟨_, grows⟩, rfl⟩ := Config.make_eq_ok.mp made
    exact of_decide_eq_true grows
  constructor
  · intro m n jacobian residuals lighter heavier lighterPositive more
    have heavierPositive := lighterPositive.trans more
    exact ⟨(NormalEquations.step_ofJacobian jacobian residuals lighterPositive).1,
      (NormalEquations.step_ofJacobian jacobian residuals heavierPositive).1,
      Linear.moreCautious_step jacobian residuals lighterPositive more⟩
  · obtain ⟨same, leaves⟩ := host.agrees_watched.iterate config state
      (rfl : (⟨before, []⟩ : Watched σ (Request ℚ)).state = before)
    exact ⟨same, leaves, iterate_shortens host before grows positive⟩

theorem damping_shortens_hesitant :
    Config.make 1 1 (1 / 2) ⟨1, 100⟩ 2 (1 / 2) = .ok hesitantConfig ∧
    0 < (State.initial hesitantConfig).damping ∧
    changes ((iterate hesitant.host.watched hesitantConfig (.initial hesitantConfig)).run
      ⟨hesitant.start, []⟩).state.sights = [[-1 / 2], [1 / 2], [-1 / 3]] ∧
    Shortening hesitant.host hesitantConfig (.initial hesitantConfig) hesitant.start
      [[-1 / 2], [1 / 2], [-1 / 3]] ∧
    MoreCautious (Table.mk #v[#v[(1 : ℚ)]]).toMatrix #v[(1 : ℚ)].get #v[(-1 / 2 : ℚ)].get
      #v[(-1 / 3 : ℚ)].get := by
  have made : Config.make 1 1 (1 / 2) ⟨1, 100⟩ 2 (1 / 2) = .ok hesitantConfig := by
    with_unfolding_all rfl
  have positive : 0 < (State.initial hesitantConfig).damping := by decide +kernel
  have sent : changes ((iterate hesitant.host.watched hesitantConfig
      (.initial hesitantConfig)).run ⟨hesitant.start, []⟩).state.sights =
        [[-1 / 2], [1 / 2], [-1 / 3]] := by
    with_unfolding_all rfl
  obtain ⟨cautious, _, _, shortens⟩ :=
    damping_shortens made positive hesitant.host hesitant.start
  rw [sent] at shortens
  obtain ⟨_, _, cautious⟩ :=
    cautious 1 1 ⟨#v[#v[1]]⟩ #v[1] 1 2 (by decide +kernel) (by decide +kernel)
  have light : ((NormalEquations.ofJacobian ⟨#v[#v[(1 : ℚ)]]⟩ #v[1]).step 1).delta =
      #v[-1 / 2] := by
    with_unfolding_all rfl
  have heavy : ((NormalEquations.ofJacobian ⟨#v[#v[(1 : ℚ)]]⟩ #v[1]).step 2).delta =
      #v[-1 / 3] := by
    with_unfolding_all rfl
  rw [light, heavy] at cautious
  exact ⟨made, positive, sent, shortens, cautious⟩

end OpticTune.Solver
