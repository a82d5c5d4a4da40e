import OpticTune.Proofs.Keeps
import OpticTune.Solver.FiniteDifference
import OpticTune.Solver.Fit

namespace OpticTune.Solver

open Act (Keeps)
open Linear (NormalEquations)

/-! What every action of a host keeps, an iteration keeps, wherever it ends.

An iteration sends only changes that have an entry for every parameter and reads
only at places there are, so it is enough that these keep it.
-/

variable {α σ : Type} {holds : σ → Prop} {m n : Nat}

structure Host.KeptBy (host : Host α σ) (holds : σ → Prop) : Prop where
  evaluate : Keeps holds host.evaluate
  nudge : ∀ delta, Keeps holds (host.nudge delta)
  buildJacobian : Keeps holds host.buildJacobian.run
  fetchJacobian : ∀ row column, Keeps holds (host.fetchJacobian row column).run
  fetchResidual : ∀ row, Keeps holds (host.fetchResidual row).run

/-- What is kept as long as changes are of the right length and reads are inside. -/
structure Host.KeptWithin (host : Host α σ) (m n : Nat) (holds : σ → Prop) : Prop where
  evaluate : Keeps holds host.evaluate
  nudge : ∀ delta : List α, delta.length = n → Keeps holds (host.nudge delta)
  buildJacobian : Keeps holds host.buildJacobian.run
  fetchJacobian : ∀ row < m, ∀ column < n, Keeps holds (host.fetchJacobian row column).run
  fetchResidual : ∀ row < m, Keeps holds (host.fetchResidual row).run

section Reading

variable {ε β : Type} {read : Nat → ExceptT ε (Act α σ) β} {count : Nat}

theorem keeps_readOn (keeps : ∀ place < count, Keeps holds (read place).run) {done left : Nat}
    (values : Vector β done) (full : done + left = count) :
    Keeps holds (readOn read values left full).run := by
  induction left generalizing done with
  | zero => exact Act.keeps_return _
  | succ left ih => exact (keeps done (by omega)).andThen fun value => ih _ _

theorem keeps_readEach (keeps : ∀ place < count, Keeps holds (read place).run) :
    Keeps holds (readEach count read).run :=
  keeps_readOn keeps _ _

theorem keeps_gather {host : Host α σ}
    (jacobian : ∀ row < m, ∀ column < n, Keeps holds (host.fetchJacobian row column).run)
    (residual : ∀ row < m, Keeps holds (host.fetchResidual row).run) :
    Keeps holds (host.gather m n).run := by
  have rows : Keeps holds
      (readEach m fun i => readEach n fun j => host.fetchJacobian i j).run :=
    keeps_readEach fun i inside => keeps_readEach (jacobian i inside)
  have residuals : Keeps holds (readEach m fun i => host.fetchResidual i).run :=
    keeps_readEach residual
  exact rows.andThen fun rows => residuals.andThen fun residuals => Act.keeps_return _

end Reading

namespace Host.KeptWithin

variable {host : Host α σ}

theorem gather (kept : host.KeptWithin m n holds) : Keeps holds (host.gather m n).run :=
  keeps_gather kept.fetchJacobian kept.fetchResidual

variable [Scalar α] (config : Config α)

theorem attempt (kept : host.KeptWithin m n holds) (equations : NormalEquations α n) (outer : Nat)
    (start : α) (inner : Nat) (damping : α) :
    Keeps holds (attempt host config equations outer start inner damping).run := by
  unfold Solver.attempt
  simp only
  split
  · exact (Act.keeps_note _).andThen fun _ => Act.keeps_return _
  · refine (kept.nudge _ Vector.length_toList).lift.andThen fun sos => ?_
    refine (Act.keeps_ofExcept _).andThen fun verdict => ?_
    refine (Act.keeps_note _).andThen fun _ => ?_
    cases verdict with
    | down | level => exact Act.keeps_return _
    | negligible | rejected =>
        have back := kept.nudge ((equations.step damping).delta.toList.map Neg.neg)
          ((List.length_map _).trans Vector.length_toList)
        exact Keeps.andThen (back.bind fun _ => Act.keeps_pure _) fun _ => Act.keeps_return _

theorem trials (kept : host.KeptWithin m n holds) (equations : NormalEquations α n) (outer : Nat)
    (start : α) (limit inner : Nat) (damping : α) :
    Keeps holds (trials host config equations outer start limit inner damping).run := by
  induction limit generalizing inner damping with
  | zero => exact Act.keeps_throw _
  | succ limit ih =>
      refine (kept.attempt config equations outer start _ damping).andThen fun ending => ?_
      cases ending with
      | some ending => exact Act.keeps_return _
      | none =>
          simp only
          split
          · exact (Act.keeps_note _).andThen fun _ => Act.keeps_return _
          · exact ih _ _

variable {config} (kept : host.KeptWithin config.pointCount config.paramCount holds)

include kept

theorem iterate (state : State α) : Keeps holds (iterate host config state).run := by
  unfold Solver.iterate iterateWithin iterateWithin.failed
  refine kept.evaluate.lift.andThen fun sos => ?_
  have stopped (record : Log.Record α) (answer : State α × Status) :
      Keeps holds (do Act.note record; return answer : ExceptT Fault (Act α σ) _).run :=
    (Act.keeps_note _).andThen fun _ => Act.keeps_return _
  cases sos with
  | none => exact stopped _ _
  | some start =>
      simp only
      split
      · exact stopped _ _
      · refine kept.buildJacobian.andThen fun built => ?_
        split
        · exact kept.gather.andThen fun _ => kept.trials config _ _ _ _ _ _
        · exact stopped _ _

theorem fit :
    Keeps (fun fit => holds fit.host) (Fit.iterate host config).run := by
  refine Act.keeps_get.andThen fun fit => ?_
  have onHost := (kept.iterate fit.solver).within Fit.host
    (fun (fit : Fit α σ) host => { fit with host }) (fun _ held => held) fun _ _ _ held => held
  refine Keeps.andThen onHost fun _ => ?_
  refine (Act.keeps_set ?_).andThen fun _ => Act.keeps_return _
  exact fun _ held => held

end Host.KeptWithin

namespace Host.KeptBy

variable {host : Host α σ} (kept : host.KeptBy holds)

include kept

theorem within (m n : Nat) : host.KeptWithin m n holds where
  evaluate := kept.evaluate
  nudge delta _ := kept.nudge delta
  buildJacobian := kept.buildJacobian
  fetchJacobian row _ column _ := kept.fetchJacobian row column
  fetchResidual row _ := kept.fetchResidual row

variable [Scalar α] (config : Config α)

theorem iterate (state : State α) : Keeps holds (iterate host config state).run :=
  (kept.within _ _).iterate state

theorem fit : Keeps (fun fit => holds fit.host) (Fit.iterate host config).run :=
  (kept.within _ _).fit

end Host.KeptBy

structure Problem.KeptBy (problem : Problem α σ) (holds : σ → Prop) : Prop where
  apply : ∀ delta, Keeps holds (problem.apply delta)
  evaluate : Keeps holds problem.evaluate
  residuals : Keeps holds problem.residuals

structure Problem.KeptWithin (problem : Problem α σ) (n : Nat) (holds : σ → Prop) : Prop where
  apply : ∀ delta : List α, delta.length = n → Keeps holds (problem.apply delta)
  evaluate : Keeps holds problem.evaluate
  residuals : Keeps holds problem.residuals

theorem Problem.length_single [Scalar α] (j : Fin n) (amount : α) :
    (single n j amount).length = n :=
  Vector.length_toList

theorem Problem.keeps_onProblem {β : Type} {action : Act α σ β} (keeps : Keeps holds action) :
    Keeps (fun state : Measured α σ m n => holds state.problem) (onProblem action) :=
  keeps.within _ _ (fun _ held => held) fun _ _ _ held => held

namespace Problem.KeptWithin

variable {problem : Problem α σ} (kept : problem.KeptWithin n holds)

include kept

theorem nudge {delta : List α} (length : delta.length = n) : Keeps holds (problem.nudge delta) :=
  (kept.apply delta length).bind fun _ => kept.evaluate

variable [Scalar α]

theorem measureColumn (steps : Vector α n) (j : Fin n) :
    Keeps holds (problem.measureColumn m steps j).run := by
  have failed (record : Log.Record α) (amount : α) : Keeps holds (do
      Act.note record
      problem.apply (single n j amount)
      return none : ExceptT Fault (Act α σ) (Option (Vector α m))).run :=
    (Act.keeps_note _).andThen fun _ =>
      (kept.apply _ (length_single j amount)).lift.andThen fun _ => Act.keeps_return _
  unfold Problem.measureColumn
  refine (kept.nudge (length_single j _)).lift.andThen fun ahead => ?_
  split
  · exact failed _ _
  · refine kept.residuals.lift.andThen fun forward => ?_
    refine (kept.nudge (length_single j _)).lift.andThen fun behind => ?_
    split
    · exact failed _ _
    · refine kept.residuals.lift.andThen fun backward => ?_
      refine (Act.keeps_ofExcept _).andThen fun column => ?_
      refine (kept.nudge (length_single j _)).lift.andThen fun restored => ?_
      split
      · exact (Act.keeps_note _).andThen fun _ => Act.keeps_return _
      · exact Act.keeps_return _

theorem measureColumns (steps : Vector α n) (columns : List (Fin n)) (jacobian : Table α m n) :
    Keeps holds (problem.measureColumns steps columns jacobian).run := by
  induction columns generalizing jacobian with
  | nil => exact Act.keeps_return _
  | cons j rest ih =>
      refine (kept.measureColumn steps j).andThen fun column => ?_
      cases column with
      | some column => exact ih _
      | none => exact Act.keeps_return _

theorem buildJacobian (steps : Vector α n) :
    Keeps (fun state : Measured α σ m n => holds state.problem) (problem.buildJacobian steps).run := by
  refine Keeps.andThen (keeps_onProblem (kept.measureColumns steps _ _)) fun measured => ?_
  cases measured with
  | some jacobian =>
      refine (Act.keeps_set ?_).andThen fun _ => Act.keeps_return _
      exact fun _ held => held
  | none => exact Act.keeps_return _

theorem host (steps : Vector α n) :
    (problem.host steps : Host α (Measured α σ m n)).KeptWithin m n
      fun state => holds state.problem where
  evaluate := keeps_onProblem kept.evaluate
  nudge _ length := keeps_onProblem (kept.nudge length)
  buildJacobian := kept.buildJacobian steps
  fetchJacobian _ _ _ _ := Act.keeps_get.andThen fun _ => Act.keeps_ofExcept _
  fetchResidual _ _ :=
    (keeps_onProblem kept.residuals).lift.andThen fun _ => Act.keeps_ofExcept _

end Problem.KeptWithin

namespace Problem.KeptBy

variable {problem : Problem α σ} (kept : problem.KeptBy holds)

include kept

theorem within (n : Nat) : problem.KeptWithin n holds where
  apply delta _ := kept.apply delta
  evaluate := kept.evaluate
  residuals := kept.residuals

theorem nudge (delta : List α) : Keeps holds (problem.nudge delta) :=
  (kept.within delta.length).nudge rfl

theorem host [Scalar α] (steps : Vector α n) :
    (problem.host steps : Host α (Measured α σ m n)).KeptBy fun state => holds state.problem where
  evaluate := keeps_onProblem kept.evaluate
  nudge delta := keeps_onProblem (kept.nudge delta)
  buildJacobian := (kept.within n).buildJacobian steps
  fetchJacobian _ _ := Act.keeps_get.andThen fun _ => Act.keeps_ofExcept _
  fetchResidual _ := (keeps_onProblem kept.residuals).lift.andThen fun _ => Act.keeps_ofExcept _

end Problem.KeptBy

end OpticTune.Solver
