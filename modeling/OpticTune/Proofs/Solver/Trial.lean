import OpticTune.Linear.NormalEquations
import OpticTune.Solver.Trial

namespace OpticTune.Solver

open Linear (NormalEquations)

/-! What a damped step consists of, and how its trial is judged, whatever the
arithmetic. -/

variable {α : Type} [Scalar α]

/-- The verdict on an evaluated trial and its rise. -/
def Verdict.ofRise (tolerance : α) (sos : Option α) (rise : α) : Verdict :=
  if hasFailed sos then .rejected
  else if Scalar.le rise (-tolerance) then .down
  else if Scalar.le rise 0 then .level
  else if Scalar.lt rise tolerance then .negligible
  else .rejected

theorem judge_eq (tolerance : α) (sos : Option α) (start : α) :
    judge tolerance sos start =
      (relativeRise (sos.getD 0) start).map (Verdict.ofRise tolerance sos) := by
  unfold judge Verdict.ofRise
  cases relativeRise (sos.getD 0) start with
  | error fault => rfl
  | ok rise =>
      change (if _ then _ else _) = _
      repeat' split
      all_goals simp_all [Except.map, pure, Except.pure]

theorem judge_eq_ok {tolerance start : α} {sos : Option α} {verdict : Verdict} :
    judge tolerance sos start = .ok verdict ↔
      ∃ rise, relativeRise (sos.getD 0) start = .ok rise ∧
        Verdict.ofRise tolerance sos rise = verdict := by
  rw [judge_eq]
  cases relativeRise (sos.getD 0) start <;> simp [Except.map]

theorem Verdict.ofRise_eq_level {tolerance rise : α} {sos : Option α}
    (judged : ofRise tolerance sos rise = .level) :
    hasFailed sos = false ∧ Scalar.le rise 0 = true := by
  unfold ofRise at judged
  repeat' split at judged
  all_goals simp_all

theorem Verdict.ofRise_eq_negligible {tolerance rise : α} {sos : Option α}
    (judged : ofRise tolerance sos rise = .negligible) :
    hasFailed sos = false ∧ Scalar.le rise 0 = false := by
  unfold ofRise at judged
  repeat' split at judged
  all_goals simp_all

theorem not_hasFailed {sos : Option α} (evaluated : hasFailed sos = false) :
    ∃ value, sos = some value ∧ Scalar.isFinite value = true := by
  cases sos with
  | none => contradiction
  | some value => exact ⟨value, rfl, by simpa [hasFailed] using evaluated⟩

variable {n : Nat}

/-- A step that overflows is not sent; what is sent is finite throughout. -/
theorem isFinite_of_mem_step (finiteZero : Scalar.isFinite (0 : α) = true)
    (equations : NormalEquations α n) (damping : α) :
    ∀ change ∈ (equations.step damping).delta.toList, Scalar.isFinite change = true := by
  intro change member
  unfold NormalEquations.step at member
  simp only at member
  split at member
  · have zeros : change ∈ List.replicate n (0 : α) := by
      simpa [Linear.Step.unusable] using member
    rw [List.eq_of_mem_replicate zeros]
    exact finiteZero
  · rename_i usable
    simp only [Bool.or_eq_true, Bool.not_eq_true', not_or, Bool.not_eq_false] at usable
    exact Vector.all_eq_true_iff_forall_mem.mp usable.2 change (Vector.mem_toList_iff.mp member)

end OpticTune.Solver
