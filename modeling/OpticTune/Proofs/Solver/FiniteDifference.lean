import OpticTune.Proofs.Linear.Exchange
import OpticTune.Proofs.Returns
import OpticTune.Proofs.Solver.Landscape
import OpticTune.Solver.Iteration

namespace OpticTune.Solver

open Act (Returns)

/-! Central differences on a landscape: what they measure, and that they leave the
parameters where they were. -/

section Reading

variable {α σ β : Type} {count : ℕ}

/-- Reads that leave the state alone can be made in a row. -/
theorem returns_readOn {read : ℕ → ExceptT Fault (Act α σ) β} {values : Fin count → β} {state : σ}
    (reads : ∀ i : Fin count, Returns (read i) state (values i) state) :
    ∀ {done left : ℕ} (full : done + left = count),
      Returns (readOn read (Vector.ofFn fun i : Fin done => values (i.castLE (by omega))) left full)
        state (Vector.ofFn values) state := by
  intro done left full
  induction left generalizing done with
  | zero =>
      subst full
      exact Act.returns_pure.mpr ⟨rfl, rfl⟩
  | succ left ih =>
      rw [readOn, Act.returns_bind]
      refine ⟨_, _, reads ⟨done, by omega⟩, ?_⟩
      have pushed : (Vector.ofFn fun i : Fin done => values (i.castLE (by omega))).push
          (values ⟨done, by omega⟩) =
          Vector.ofFn fun i : Fin (done + 1) => values (i.castLE (by omega)) := by
        ext i inside
        rw [Vector.getElem_push]
        split
        · simp
        · have last : i = done := by omega
          simp [last]
      rw [pushed]
      exact ih (by omega)

theorem returns_readEach {read : ℕ → ExceptT Fault (Act α σ) β} {values : Fin count → β}
    {state : σ} (reads : ∀ i : Fin count, Returns (read i) state (values i) state) :
    Returns (readEach count read) state (Vector.ofFn values) state :=
  returns_readOn reads (Nat.zero_add count)

theorem insidePlace_natCast (i : Fin count) : insidePlace count i = some i := by
  simp [insidePlace]

theorem read_natCast {m n : ℕ} (table : Table α m n) (i : Fin m) (j : Fin n) :
    table.read i j = .ok (table.get i j) := by
  simp only [Table.read, readPlace, insidePlace_natCast]
  rfl

theorem readNearest_ofFn (values : Fin count → α) (i : Fin count) :
    readNearest (List.ofFn values) i = .ok (values i) := by
  have inside := insidePlace_natCast (i.cast (List.length_ofFn (f := values)).symm)
  simp only [Fin.val_cast] at inside
  rw [readNearest, inside]
  simp

end Reading

section Column

variable {α σ : Type} [Scalar α] {m n : ℕ} {problem : Problem α σ} {steps : Vector α n}

/-- All that can become of a column. -/
theorem returns_measureColumn {j : Fin n} {before after : σ} {column : Option (Vector α m)} :
    Returns (problem.measureColumn m steps j) before column after ↔
      let forward := problem.nudge (Problem.single n j (steps.get j)) before
      let ahead := problem.residuals forward.state
      let backward := problem.nudge (Problem.single n j (-(steps.get j + steps.get j))) ahead.state
      let behind := problem.residuals backward.state
      let restored := problem.nudge (Problem.single n j (steps.get j)) behind.state
      if hasFailed forward.value then
        column = none ∧
          after = (problem.apply (Problem.single n j (-steps.get j)) forward.state).state
      else if hasFailed backward.value then
        column = none ∧ after = (problem.apply (Problem.single n j (steps.get j)) backward.state).state
      else ∃ found, Problem.differences m ahead.value behind.value (steps.get j) = .ok found ∧
        column = (if hasFailed restored.value then none else some found) ∧
          after = restored.state := by
  unfold Problem.measureColumn
  simp only [Act.returns_liftM_bind]
  split
  · rw [Act.returns_note_bind, Act.returns_liftM_bind, Act.returns_pure]
  · simp only [Act.returns_liftM_bind]
    split
    · rw [Act.returns_note_bind, Act.returns_liftM_bind, Act.returns_pure]
    · simp only [Act.returns_liftM_bind, Act.returns_ofExcept_bind]
      refine exists_congr fun found => and_congr_right fun _ => ?_
      split
      · exact Act.returns_note_bind.trans Act.returns_pure
      · exact Act.returns_pure

theorem returns_buildJacobian {before after : Measured α σ m n} {built : Bool} :
    Returns (problem.buildJacobian steps) before built after ↔
      ∃ measured middle,
        Returns (problem.measureColumns steps (List.finRange n) Table.zeros) before.problem measured
          middle ∧
        match measured with
        | some jacobian => built = true ∧ after = { jacobian, problem := middle }
        | none => built = false ∧ after = { before with problem := middle } := by
  rw [Problem.buildJacobian, Act.returns_bind]
  constructor
  · rintro ⟨measured, _, inside, rest⟩
    obtain ⟨middle, returned, rfl⟩ := Act.returns_within.mp inside
    refine ⟨measured, middle, returned, ?_⟩
    cases measured with
    | some jacobian => exact Act.returns_pure.mp (Act.returns_modify_bind.mp rest)
    | none => exact Act.returns_pure.mp rest
  · rintro ⟨measured, middle, returned, rest⟩
    refine ⟨measured, _, Act.returns_within.mpr ⟨middle, returned, rfl⟩, ?_⟩
    cases measured with
    | some jacobian => exact Act.returns_modify_bind.mpr (Act.returns_pure.mpr rest)
    | none => exact Act.returns_pure.mpr rest

section Measuring

variable {holds : σ → Prop}
  (column : ∀ ⦃state⦄, holds state → ∀ j, ∃ (found : Option (Vector α m)) (after : σ),
    Returns (problem.measureColumn m steps j) state found after ∧ holds after)

include column

theorem exists_measureColumns {before : σ} (held : holds before) (columns : List (Fin n))
    (jacobian : Table α m n) :
    ∃ measured after, Returns (problem.measureColumns steps columns jacobian) before measured after ∧
      holds after := by
  induction columns generalizing before jacobian with
  | nil => exact ⟨_, before, Act.returns_pure.mpr ⟨rfl, rfl⟩, held⟩
  | cons j rest ih =>
      obtain ⟨found, middle, first, held⟩ := column held j
      cases found with
      | none =>
          exact ⟨none, middle,
            Act.returns_bind.mpr ⟨none, middle, first, Act.returns_pure.mpr ⟨rfl, rfl⟩⟩, held⟩
      | some found =>
          obtain ⟨measured, after, others, held⟩ := ih held (jacobian.setColumn j found)
          exact ⟨measured, after, Act.returns_bind.mpr ⟨some found, middle, first, others⟩, held⟩

/-- Where the measuring of a column always returns, so does that of a Jacobian. -/
theorem exists_buildJacobian {before : Measured α σ m n} (held : holds before.problem) :
    ∃ built after, Returns (problem.buildJacobian steps) before built after ∧
      holds after.problem := by
  obtain ⟨measured, middle, returned, held⟩ :=
    exists_measureColumns column held (List.finRange n) Table.zeros
  cases measured with
  | none => exact ⟨false, _, returns_buildJacobian.mpr ⟨none, middle, returned, rfl, rfl⟩, held⟩
  | some jacobian =>
      exact ⟨true, { jacobian, problem := middle },
        returns_buildJacobian.mpr ⟨some jacobian, middle, returned, rfl, rfl⟩, held⟩

end Measuring

section Host

variable {before after : Measured α σ m n} {entry : α}

theorem returns_fetchJacobian {i : Fin m} {j : Fin n} :
    Returns ((problem.host steps).fetchJacobian i j) before entry after ↔
      entry = before.jacobian.get i j ∧ after = before := by
  refine Act.returns_get_bind.trans (Act.returns_mapError.trans (and_congr_left' ?_))
  rw [read_natCast, Except.ok.injEq, eq_comm]

theorem returns_fetchResidual {row : Int} :
    Returns ((problem.host steps : Host α (Measured α σ m n)).fetchResidual row) before entry after ↔
      readNearest (problem.residuals before.problem).value row = .ok entry ∧
        after = { before with problem := (problem.residuals before.problem).state } :=
  Act.returns_lift_bind.trans Act.returns_mapError

end Host

end Column

namespace Problem

theorem single_eq {n : ℕ} (j : Fin n) (amount : ℚ) :
    single n j amount = List.ofFn (Pi.single j amount) := by
  rw [single, Vector.toList_ofFn]
  congr 1
  funext k
  rw [Pi.single_apply]

/-- All that can become of a column, in exact arithmetic. -/
theorem returns_measureColumn_ofFn {σ : Type} {m n : ℕ} {problem : Problem ℚ σ}
    {steps : Vector ℚ n} {j : Fin n} {side : Fin n → ℚ} (sideIs : Pi.single j (steps.get j) = side)
    {before after : σ} {column : Option (Vector ℚ m)} :
    Returns (problem.measureColumn m steps j) before column after ↔
      let forward := problem.nudge (List.ofFn side) before
      let ahead := problem.residuals forward.state
      let backward := problem.nudge (List.ofFn (-(side + side))) ahead.state
      let behind := problem.residuals backward.state
      let restored := problem.nudge (List.ofFn side) behind.state
      if forward.value.isNone then
        column = none ∧ after = (problem.apply (List.ofFn (-side)) forward.state).state
      else if backward.value.isNone then
        column = none ∧ after = (problem.apply (List.ofFn side) backward.state).state
      else ∃ found, differences m ahead.value behind.value (steps.get j) = .ok found ∧
        column = (if restored.value.isNone then none else some found) ∧ after = restored.state := by
  have ahead : single n j (steps.get j) = List.ofFn side := by rw [single_eq, sideIs]
  have back : single n j (-steps.get j) = List.ofFn (-side) := by
    rw [single_eq, Pi.single_neg, sideIs]
  have across : single n j (-(steps.get j + steps.get j)) = List.ofFn (-(side + side)) := by
    rw [single_eq, Pi.single_neg, Pi.single_add, sideIs]
  simp only [returns_measureColumn, ahead, back, across, hasFailed_eq]

theorem differences_ofFn {m : ℕ} (forward backward : Fin m → ℚ) (step : ℚ) :
    differences m (List.ofFn forward) (List.ofFn backward) step =
      .ok (Vector.ofFn fun i => (forward i - backward i) / (2 * step)) := by
  have paired : pair (List.ofFn forward) (List.ofFn backward) =
      .ok (List.ofFn fun i => (forward i, backward i)) := by
    unfold pair
    rw [if_pos (by simp)]
    congr 1
    apply List.ext_getElem <;> simp
  rw [differences, paired]
  change column m _ = _
  rw [column, dif_pos (by simp)]
  congr 1
  ext i inside
  simp [exactVector, two_mul]

end Problem

section Landscape

variable {m n : ℕ} (landscape : Landscape ℚ m n) (steps : Vector ℚ n) (params : Fin n → ℚ)

/-- Both sides of a parameter can be evaluated. -/
def Landscape.Measurable (j : Fin n) : Prop :=
  (landscape.sos (params + Pi.single j (steps.get j))).isSome ∧
    (landscape.sos (params - Pi.single j (steps.get j))).isSome

/-- The Jacobian of central differences. -/
def Landscape.jacobian : Matrix (Fin m) (Fin n) ℚ :=
  Matrix.of fun i j =>
    (landscape.residuals (params + Pi.single j (steps.get j)) i -
      landscape.residuals (params - Pi.single j (steps.get j)) i) / (2 * steps.get j)

/-- Where a column is measured: ahead, behind, and again where it started. -/
def columnPlaces (j : Fin n) : List (Fin n → ℚ) :=
  [params + Pi.single j (steps.get j), params - Pi.single j (steps.get j), params]

/-- The landscape can be evaluated at every one of the places. -/
def Landscape.Clear (places : List (Fin n → ℚ)) : Prop :=
  ∀ place ∈ places, (landscape.sos place).isSome

/-- The places that are reached in their order, up to the first that cannot be
evaluated. -/
def Landscape.reached : List (Fin n → ℚ) → List (Fin n → ℚ)
  | [] => []
  | place :: rest => place :: if (landscape.sos place).isSome then reached rest else []

variable {landscape}

theorem Landscape.clear_append {first second : List (Fin n → ℚ)} :
    landscape.Clear (first ++ second) ↔ landscape.Clear first ∧ landscape.Clear second := by
  simp [Clear, or_imp, forall_and]

theorem Landscape.reached_append {first : List (Fin n → ℚ)} (clear : landscape.Clear first)
    (second : List (Fin n → ℚ)) :
    landscape.reached (first ++ second) = first ++ landscape.reached second := by
  induction first with
  | nil => rfl
  | cons place rest ih =>
      obtain ⟨evaluates, clear⟩ := List.forall_mem_cons.mp clear
      rw [List.cons_append, reached, if_pos evaluates, ih clear, List.cons_append]

/-- Places of which one fails are left at the first that does. -/
theorem Landscape.exists_failing {places : List (Fin n → ℚ)} (blocked : ¬ landscape.Clear places) :
    ∃ passed failing left, places = passed ++ failing :: left ∧ landscape.Clear passed ∧
      landscape.sos failing = none ∧ ∀ more,
        landscape.reached (places ++ more) = passed ++ [failing] := by
  induction places with
  | nil => exact absurd nofun blocked
  | cons place rest ih =>
      by_cases evaluates : (landscape.sos place).isSome
      · obtain ⟨passed, failing, left, rfl, clear, fails, reached⟩ :=
          ih fun clear => blocked (List.forall_mem_cons.mpr ⟨evaluates, clear⟩)
        refine ⟨place :: passed, failing, left, rfl,
          List.forall_mem_cons.mpr ⟨evaluates, clear⟩, fails, fun more => ?_⟩
        rw [List.cons_append, Landscape.reached, if_pos evaluates, reached, List.cons_append]
      · refine ⟨[], place, rest, rfl, nofun, by simpa using evaluates, fun more => ?_⟩
        rw [List.cons_append, Landscape.reached, if_neg evaluates]
        rfl

theorem Landscape.clear_columnPlaces (evaluates : (landscape.sos params).isSome) (j : Fin n) :
    landscape.Clear (columnPlaces steps params j) ↔ landscape.Measurable steps params j := by
  simp [Clear, columnPlaces, Measurable, evaluates]

end Landscape

namespace Problem

variable {σ : Type} {m n : ℕ} {problem : Problem ℚ σ} {landscape : Landscape ℚ m n}
  {steps : Vector ℚ n} {params : Fin n → ℚ} {state : σ}

section Visits

variable {stands : (Fin n → ℚ) → List (Fin n → ℚ) → σ → Prop}

/-- A column is measured if all three of its places can be evaluated; else it is
left at the first that cannot, with the parameter moved back. -/
theorem Visits.measureColumn (visits : problem.Visits landscape stands)
    (visited : List (Fin n → ℚ)) (standing : stands params visited state) (steps : Vector ℚ n)
    (j : Fin n) :
    (landscape.Clear (columnPlaces steps params j) ∧ ∃ after,
      problem.Fresh landscape (fun place => stands place (visited ++ columnPlaces steps params j))
        params after ∧
      Returns (problem.measureColumn m steps j) state
        (some (Vector.ofFn fun i => landscape.jacobian steps params i j)) after) ∨
    (¬ landscape.Clear (columnPlaces steps params j) ∧ ∃ after,
      stands params (visited ++ landscape.reached (columnPlaces steps params j)) after ∧
      Returns (problem.measureColumn m steps j) state none after) := by
  obtain ⟨side, sideIs⟩ : ∃ side : Fin n → ℚ, Pi.single j (steps.get j) = side := ⟨_, rfl⟩
  have there : params + side + -(side + side) = params - side := by abel
  obtain ⟨forward, forwardIs, forwardValue, forwardStands, forwardFresh⟩ :=
    visits.nudged visited standing (rfl : params + side = _)
  simp only [columnPlaces, sideIs, returns_measureColumn_ofFn sideIs, Landscape.Clear,
    Landscape.reached, List.forall_mem_cons, forwardIs, forwardValue]
  cases front : landscape.sos (params + side) with
  | none =>
      have restored := visits.apply forwardStands (-side)
      rw [add_neg_cancel_right] at restored
      exact .inr ⟨by simp, _, restored, trivial, rfl⟩
  | some aheadSos =>
      have forwardFresh := forwardFresh (by simp [front])
      obtain ⟨backward, backwardIs, backwardValue, backwardStands, backwardFresh⟩ :=
        visits.nudged _ forwardStands there
      simp only [forwardFresh.still, forwardFresh.residuals, backwardIs, backwardValue]
      cases behind : landscape.sos (params - side) with
      | none =>
          have restored := visits.apply backwardStands side
          rw [sub_add_cancel, List.append_assoc] at restored
          exact .inr ⟨by simp, _, restored, trivial, rfl⟩
      | some behindSos =>
          have backwardFresh := backwardFresh (by simp [behind])
          obtain ⟨restored, restoredIs, restoredValue, restoredStands, restoredFresh⟩ :=
            visits.nudged _ backwardStands (sub_add_cancel params side)
          simp only [backwardFresh.still, backwardFresh.residuals, restoredIs, restoredValue,
            differences_ofFn, Except.ok.injEq, exists_eq_left']
          rw [List.append_assoc, List.append_assoc] at restoredStands restoredFresh
          cases home : landscape.sos params with
          | none => exact .inr ⟨by simp, _, restoredStands, rfl, rfl⟩
          | some homeSos =>
              refine .inl ⟨by simp, _, restoredFresh (by simp [home]), ?_, rfl⟩
              simp only [Landscape.jacobian, sideIs, Matrix.of_apply]
              rfl

/-- The columns are measured in their order, each at its three places, up to the
first place that cannot be evaluated. -/
theorem Visits.measureColumns (visits : problem.Visits landscape stands)
    (visited : List (Fin n → ℚ)) (standing : stands params visited state) (steps : Vector ℚ n)
    (columns : List (Fin n)) (table : Table ℚ m n) :
    (landscape.Clear (columns.flatMap (columnPlaces steps params)) ∧ ∃ measured after,
      stands params (visited ++ columns.flatMap (columnPlaces steps params)) after ∧
      (if columns = [] then after = state else problem.Fresh landscape
        (fun place => stands place (visited ++ columns.flatMap (columnPlaces steps params)))
        params after) ∧
      Returns (problem.measureColumns steps columns table) state (some measured) after ∧
      ∀ i j, measured.get i j =
        if j ∈ columns then landscape.jacobian steps params i j else table.get i j) ∨
    (¬ landscape.Clear (columns.flatMap (columnPlaces steps params)) ∧ ∃ after,
      stands params (visited ++ landscape.reached (columns.flatMap (columnPlaces steps params)))
        after ∧
      Returns (problem.measureColumns steps columns table) state none after) := by
  induction columns generalizing visited state table with
  | nil =>
      refine .inl ⟨nofun, table, state, ?_, rfl, Act.returns_pure.mpr ⟨rfl, rfl⟩, by simp⟩
      rwa [List.flatMap_nil, List.append_nil]
  | cons j rest ih =>
      simp only [List.flatMap_cons, Landscape.clear_append]
      obtain ⟨clear, middle, fresh, column⟩ | ⟨blocked, after, standing, column⟩ :=
        visits.measureColumn visited standing steps j
      · rw [Landscape.reached_append clear, ← List.append_assoc, ← List.append_assoc]
        obtain ⟨others, measured, after, standing, ending, returned, entries⟩ |
            ⟨blocked, after, standing, returned⟩ :=
          ih _ fresh.stands (table.setColumn j (Vector.ofFn fun i =>
            landscape.jacobian steps params i j))
        · refine .inl ⟨⟨clear, others⟩, measured, after, standing, ?_,
            Act.returns_bind.mpr ⟨_, _, column, returned⟩, ?_⟩
          · rw [if_neg (List.cons_ne_nil j rest)]
            split at ending
            · rename_i last
              subst last ending
              rwa [List.flatMap_nil, List.append_nil]
            · exact ending
          · intro i k
            rw [entries, Table.get_setColumn]
            by_cases same : k = j
            · subst same
              simp
            · simp [same]
        · exact .inr ⟨fun both => blocked both.2, after, standing,
            Act.returns_bind.mpr ⟨_, _, column, returned⟩⟩
      · refine .inr ⟨fun both => blocked both.1, after, ?_,
          Act.returns_bind.mpr ⟨_, _, column, Act.returns_pure.mpr ⟨rfl, rfl⟩⟩⟩
        obtain ⟨passed, failing, _, _, _, _, reached⟩ := Landscape.exists_failing blocked
        have alone := reached []
        rw [List.append_nil] at alone
        rwa [reached, ← alone]

end Visits

variable {stands : (Fin n → ℚ) → σ → Prop}

theorem measureColumns_spec (follows : problem.Follows landscape stands)
    (fresh : problem.Fresh landscape stands params state) (steps : Vector ℚ n) (columns : List (Fin n))
    (table : Table ℚ m n) :
    ((∀ j ∈ columns, landscape.Measurable steps params j) ∧ ∃ measured after,
      problem.Fresh landscape stands params after ∧
      Returns (problem.measureColumns steps columns table) state (some measured) after ∧
      ∀ i j, measured.get i j =
        if j ∈ columns then landscape.jacobian steps params i j else table.get i j) ∨
    ((∃ j ∈ columns, ¬ landscape.Measurable steps params j) ∧ ∃ after, stands params after ∧
      Returns (problem.measureColumns steps columns table) state none after) := by
  have clear : landscape.Clear (columns.flatMap (columnPlaces steps params)) ↔
      ∀ j ∈ columns, landscape.Measurable steps params j := by
    simp only [← Landscape.clear_columnPlaces steps params fresh.evaluates]
    simp only [Landscape.Clear, List.mem_flatMap]
    exact ⟨fun all j member place inside => all place ⟨j, member, inside⟩,
      fun all place ⟨j, member, inside⟩ => all j member place inside⟩
  obtain ⟨all, measured, after, _, ending, returned, entries⟩ | ⟨blocked, after, standing, returned⟩ :=
    follows.visits.measureColumns [] fresh.stands steps columns table
  · refine .inl ⟨clear.mp all, measured, after, ?_, returned, entries⟩
    split at ending
    · exact ending ▸ fresh
    · exact ending
  · rw [clear] at blocked
    push Not at blocked
    exact .inr ⟨blocked, after, standing, returned⟩

section Host

variable {before : Measured ℚ σ m n}

/-- The Jacobian is rebuilt if every column can be measured; otherwise only the
parameters are certain to be what they were. -/
theorem buildJacobian_spec (follows : problem.Follows landscape stands)
    (fresh : problem.Fresh landscape stands params before.problem) (steps : Vector ℚ n) :
    ((∀ j, landscape.Measurable steps params j) ∧ ∃ after : Measured ℚ σ m n,
      problem.Fresh landscape stands params after.problem ∧
      after.jacobian.toMatrix = landscape.jacobian steps params ∧
      Returns (problem.buildJacobian steps) before true after) ∨
    ((∃ j, ¬ landscape.Measurable steps params j) ∧ ∃ after : Measured ℚ σ m n,
      stands params after.problem ∧
      Returns (problem.buildJacobian steps) before false after) := by
  rcases measureColumns_spec follows fresh steps (List.finRange n) Table.zeros with
    ⟨all, measured, after, fresh, returned, entries⟩ | ⟨failing, after, standing, returned⟩
  · refine .inl ⟨fun j => all j (List.mem_finRange j), ⟨measured, after⟩, fresh, ?_, ?_⟩
    · ext i j
      rw [Table.toMatrix_apply, entries, if_pos (List.mem_finRange j)]
    · exact returns_buildJacobian.mpr ⟨some measured, after, returned, rfl, rfl⟩
  · obtain ⟨j, _, failing⟩ := failing
    exact .inr ⟨⟨j, failing⟩, { before with problem := after }, standing,
      returns_buildJacobian.mpr ⟨none, after, returned, rfl, rfl⟩⟩

/-- What is gathered is the Jacobian last measured and the latest residuals. -/
theorem gather_spec (fresh : problem.Fresh landscape stands params before.problem) :
    Returns ((problem.host steps).gather m n) before
      (before.jacobian, Vector.ofFn (landscape.residuals params)) before := by
  have rows : (⟨Vector.ofFn fun i => Vector.ofFn fun j => before.jacobian.get i j⟩ : Table ℚ m n) =
      before.jacobian :=
    Table.ext_get fun i j => Table.get_ofFn _ i j
  have residual (i : Fin m) : Returns ((problem.host steps).fetchResidual i) before
      (landscape.residuals params i) before := by
    rw [returns_fetchResidual, fresh.residuals, readNearest_ofFn, fresh.still]
    exact ⟨rfl, rfl⟩
  refine Act.returns_bind.mpr ⟨_, before, returns_readEach fun i => returns_readEach fun j =>
    returns_fetchJacobian.mpr ⟨rfl, rfl⟩, ?_⟩
  refine Act.returns_bind.mpr ⟨_, before, returns_readEach residual, ?_⟩
  rw [Act.returns_pure, rows]
  exact ⟨rfl, rfl⟩

end Host

end Problem

end OpticTune.Solver
