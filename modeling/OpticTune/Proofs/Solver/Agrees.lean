import OpticTune.Proofs.Agrees
import OpticTune.Solver.FiniteDifference
import OpticTune.Solver.Iteration

namespace OpticTune.Solver

open Linear (NormalEquations)

/-! Hosts that answer alike make iterations that do. -/

variable {α σ τ : Type} {rel : σ → τ → Prop}

/-- Every action of one host answers as the other's, from related states. -/
structure Host.Agrees (first : Host α σ) (second : Host α τ) (rel : σ → τ → Prop) : Prop where
  evaluate : Act.Agrees rel first.evaluate second.evaluate
  nudge : ∀ delta, Act.Agrees rel (first.nudge delta) (second.nudge delta)
  buildJacobian : Act.Agrees rel first.buildJacobian.run second.buildJacobian.run
  fetchJacobian : ∀ row column,
    Act.Agrees rel (first.fetchJacobian row column).run (second.fetchJacobian row column).run
  fetchResidual : ∀ row,
    Act.Agrees rel (first.fetchResidual row).run (second.fetchResidual row).run

section Reading

variable {ε β : Type} {read : Nat → ExceptT ε (Act α σ) β} {other : Nat → ExceptT ε (Act α τ) β}

theorem agrees_readOn (agrees : ∀ place, Act.Agrees rel (read place).run (other place).run)
    {count done left : Nat} (values : Vector β done) (full : done + left = count) :
    Act.Agrees rel (readOn read values left full).run (readOn other values left full).run := by
  induction left generalizing done with
  | zero => exact Act.agrees_return _
  | succ left ih => exact (agrees done).andThen fun value => ih _ _

theorem agrees_readEach (agrees : ∀ place, Act.Agrees rel (read place).run (other place).run)
    (count : Nat) : Act.Agrees rel (readEach count read).run (readEach count other).run :=
  agrees_readOn agrees _ _

end Reading

namespace Host.Agrees

variable {first : Host α σ} {second : Host α τ} (agrees : first.Agrees second rel)

include agrees

theorem gather (pointCount paramCount : Nat) :
    Act.Agrees rel (first.gather pointCount paramCount).run
      (second.gather pointCount paramCount).run := by
  have row (i : Nat) : Act.Agrees rel
      (readEach paramCount fun j => first.fetchJacobian i j).run
      (readEach paramCount fun j => second.fetchJacobian i j).run :=
    agrees_readEach (fun j => agrees.fetchJacobian i j) paramCount
  have residual (i : Nat) : Act.Agrees rel (first.fetchResidual i).run
      (second.fetchResidual i).run := agrees.fetchResidual i
  exact (agrees_readEach row pointCount).andThen fun rows =>
    (agrees_readEach residual pointCount).andThen fun residuals => Act.agrees_return _

variable [Scalar α] (config : Config α)

theorem attempt {n : Nat} (equations : NormalEquations α n) (outer : Nat) (start : α) (inner : Nat)
    (damping : α) : Act.Agrees rel (attempt first config equations outer start inner damping).run
      (Solver.attempt second config equations outer start inner damping).run := by
  unfold Solver.attempt
  simp only
  split
  · exact (Act.agrees_note _ _).andThen fun _ => Act.agrees_return _
  · refine (agrees.nudge _).lift.andThen fun sos => ?_
    refine (Act.agrees_ofExcept _).andThen fun verdict => ?_
    refine (Act.agrees_note _ _).andThen fun _ => ?_
    cases verdict with
    | down | level => exact Act.agrees_return _
    | negligible | rejected =>
        exact (agrees.nudge _).discard.andThen fun _ => Act.agrees_return _

theorem trials {n : Nat} (equations : NormalEquations α n) (outer : Nat) (start : α)
    (limit inner : Nat) (damping : α) :
    Act.Agrees rel (trials first config equations outer start limit inner damping).run
      (Solver.trials second config equations outer start limit inner damping).run := by
  induction limit generalizing inner damping with
  | zero => exact Act.agrees_throw _
  | succ limit ih =>
      refine (agrees.attempt config equations outer start _ damping).andThen fun ending => ?_
      cases ending with
      | some ending => exact Act.agrees_return _
      | none =>
          simp only
          split
          · exact (Act.agrees_note _ _).andThen fun _ => Act.agrees_return _
          · exact ih _ _

theorem iterate (state : State α) :
    Act.Agrees rel (iterate first config state).run (Solver.iterate second config state).run := by
  unfold Solver.iterate iterateWithin iterateWithin.failed
  refine agrees.evaluate.lift.andThen fun sos => ?_
  have stopped (record : Log.Record α) (answer : State α × Status) : Act.Agrees rel
      (do Act.note record; return answer : ExceptT Fault (Act α σ) _).run
      (do Act.note record; return answer : ExceptT Fault (Act α τ) _).run :=
    (Act.agrees_note _ _).andThen fun _ => Act.agrees_return _
  cases sos with
  | none => exact stopped _ _
  | some start =>
      simp only
      split
      · exact stopped _ _
      · refine agrees.buildJacobian.andThen fun built => ?_
        split
        · exact (agrees.gather _ _).andThen fun _ => agrees.trials config _ _ _ _ _ _
        · exact stopped _ _

end Host.Agrees

structure Problem.Agrees (first : Problem α σ) (second : Problem α τ) (rel : σ → τ → Prop) :
    Prop where
  apply : ∀ delta, Act.Agrees rel (first.apply delta) (second.apply delta)
  evaluate : Act.Agrees rel first.evaluate second.evaluate
  residuals : Act.Agrees rel first.residuals second.residuals

/-- The same Jacobian was measured last, and the problems are in related states. -/
def Measured.Related {m n : Nat} (rel : σ → τ → Prop) (left : Measured α σ m n)
    (right : Measured α τ m n) : Prop :=
  left.jacobian = right.jacobian ∧ rel left.problem right.problem

namespace Problem.Agrees

variable {first : Problem α σ} {second : Problem α τ} {m n : Nat}
  (agrees : first.Agrees second rel)

include agrees

theorem nudge (delta : List α) : Act.Agrees rel (first.nudge delta) (second.nudge delta) :=
  (agrees.apply delta).bind fun _ => agrees.evaluate

variable [Scalar α]

theorem measureColumn (steps : Vector α n) (j : Fin n) :
    Act.Agrees rel (first.measureColumn m steps j).run (second.measureColumn m steps j).run := by
  have failed (record : Log.Record α) (delta : List α) : Act.Agrees rel
      (do
        Act.note record
        first.apply delta
        return none : ExceptT Fault (Act α σ) (Option (Vector α m))).run
      (do
        Act.note record
        second.apply delta
        return none : ExceptT Fault (Act α τ) (Option (Vector α m))).run :=
    (Act.agrees_note _ _).andThen fun _ =>
      (agrees.apply delta).lift.andThen fun _ => Act.agrees_return _
  unfold Problem.measureColumn
  refine (agrees.nudge _).lift.andThen fun ahead => ?_
  split
  · exact failed _ _
  · refine agrees.residuals.lift.andThen fun forward => ?_
    refine (agrees.nudge _).lift.andThen fun behind => ?_
    split
    · exact failed _ _
    · refine agrees.residuals.lift.andThen fun backward => ?_
      refine (Act.agrees_ofExcept _).andThen fun column => ?_
      refine (agrees.nudge _).lift.andThen fun restored => ?_
      split
      · exact (Act.agrees_note _ _).andThen fun _ => Act.agrees_return _
      · exact Act.agrees_return _

theorem measureColumns (steps : Vector α n) (columns : List (Fin n)) (jacobian : Table α m n) :
    Act.Agrees rel (first.measureColumns steps columns jacobian).run
      (second.measureColumns steps columns jacobian).run := by
  induction columns generalizing jacobian with
  | nil => exact Act.agrees_return _
  | cons j rest ih =>
      refine (agrees.measureColumn steps j).andThen fun column => ?_
      cases column with
      | some column => exact ih _
      | none => exact Act.agrees_return _

theorem host (steps : Vector α n) :
    (first.host steps : Host α (Measured α σ m n)).Agrees (second.host steps)
      (Measured.Related rel) := by
  have inside {β : Type} {action : Act α σ β} {other : Act α τ β}
      (agrees : Act.Agrees rel action other) :
      Act.Agrees (Measured.Related rel) (onProblem action : Act α (Measured α σ m n) β)
        (onProblem other) :=
    agrees.within (fun _ _ related => related.2) fun _ _ _ _ related inner => ⟨related.1, inner⟩
  constructor
  · exact inside agrees.evaluate
  · exact fun delta => inside (agrees.nudge delta)
  · refine Act.Agrees.andThen (inside (agrees.measureColumns steps _ _)) fun measured => ?_
    cases measured with
    | some jacobian =>
        refine (Act.agrees_set ?_).andThen fun _ => Act.agrees_return _
        exact fun _ _ related => ⟨rfl, related.2⟩
    | none => exact Act.agrees_return _
  · intro row column left right related
    change ((left.jacobian.read row column).mapError Fault.unread) =
        ((right.jacobian.read row column).mapError Fault.unread) ∧ _
    exact ⟨by rw [related.1], related⟩
  · exact fun row => (inside agrees.residuals).lift.andThen fun _ => Act.agrees_ofExcept _

end Problem.Agrees

end OpticTune.Solver
