import OpticTune.Linear.NormalEquations
import OpticTune.Proofs.Linear.Pivot
import OpticTune.Proofs.Scalar.Extended

namespace OpticTune.Linear

/-! Normal equations with an entry that is not finite have no usable step.

The first pivot of the elimination is not finite then, and neither is any product
of pivots from there on. A zero pivot that follows ends the elimination, which
makes the step unusable as well.
-/

variable {n : ℕ}

section Pivot

variable (work : Table Extended n n)

theorem search_not_finite {places : List (Fin n × Fin n)} {start : Fin n × Fin n}
    (spoiled : ∃ place ∈ start :: places,
      Scalar.isFinite (work.get place.1 place.2) = false) :
    let found := places.foldl
      (fun best place =>
        if Scalar.outranks (Scalar.abs (work.get place.1 place.2))
            (Scalar.abs (work.get best.1 best.2)) then place else best)
      start
    Scalar.isFinite (work.get found.1 found.2) = false := by
  induction places generalizing start with
  | nil =>
      obtain ⟨place, member, notFinite⟩ := spoiled
      cases List.mem_singleton.mp member
      exact notFinite
  | cons first places ih =>
      rw [List.foldl_cons]
      apply ih
      obtain ⟨place, member, notFinite⟩ := spoiled
      rcases List.mem_cons.mp member with rfl | member
      · -- the lead can only go to what is not finite either
        refine ⟨_, List.mem_cons_self, ?_⟩
        split
        · rename_i outranks
          exact Extended.not_finite_of_outranks notFinite outranks
        · exact notFinite
      · rcases List.mem_cons.mp member with rfl | member
        · refine ⟨_, List.mem_cons_self, ?_⟩
          cases lead : Scalar.isFinite (work.get start.1 start.2) with
          | true => rw [if_pos (Extended.outranks_of_not_finite notFinite lead), notFinite]
          | false =>
              split
              · exact notFinite
              · exact lead
        · exact ⟨place, List.mem_cons_of_mem _ member, notFinite⟩

theorem pivot_not_finite (first : Fin n) (least : ∀ i, first ≤ i)
    (spoiled : ∃ i j, Scalar.isFinite (work.get i j) = false) :
    Scalar.isFinite
      (work.get (pivotPlace work first).1 (pivotPlace work first).2) = false := by
  obtain ⟨i, j, notFinite⟩ := spoiled
  have member : (i, j) ∈ remainingPlaces first :=
    mem_remainingPlaces.mpr ⟨least i, least j⟩
  exact search_not_finite work ⟨(i, j), List.mem_cons_of_mem _ member, notFinite⟩

end Pivot

section Elimination

variable {e next : Elimination Extended n}

theorem determinant_of_step {k : Fin n} (stepped : e.step k = some next) :
    next.determinant =
      e.determinant * e.work.get (pivotPlace e.work k).1 (pivotPlace e.work k).2 := by
  simp only [Elimination.step] at stepped
  split at stepped
  · contradiction
  · cases stepped
    rfl

theorem foldlM_not_finite {passes : List (Fin n)}
    (spoiled : Scalar.isFinite e.determinant = false)
    (ran : passes.foldlM Elimination.step e = some next) :
    Scalar.isFinite next.determinant = false := by
  induction passes generalizing e with
  | nil =>
      cases ran
      exact spoiled
  | cons k passes ih =>
      obtain ⟨middle, stepped, rest⟩ := Option.bind_eq_some_iff.mp ran
      refine ih ?_ rest
      rw [determinant_of_step stepped, Extended.isFinite_mul, spoiled, Bool.false_and]

theorem run_not_finite {matrix : Table Extended n n}
    (spoiled : ∃ i j, Scalar.isFinite (matrix.get i j) = false)
    (ran : Elimination.run matrix n = some e) : Scalar.isFinite e.determinant = false := by
  cases n with
  | zero =>
      obtain ⟨i, _⟩ := spoiled
      exact i.elim0
  | succ n =>
      rw [Elimination.run, List.take_of_length_le (by simp), List.finRange_succ] at ran
      obtain ⟨middle, stepped, rest⟩ := Option.bind_eq_some_iff.mp ran
      refine foldlM_not_finite ?_ rest
      have pivot : Scalar.isFinite
          ((Elimination.start matrix).work.get (pivotPlace (Elimination.start matrix).work 0).1
            (pivotPlace (Elimination.start matrix).work 0).2) = false :=
        pivot_not_finite matrix 0 Fin.zero_le spoiled
      rw [determinant_of_step stepped, Extended.isFinite_mul, pivot, Bool.and_false]

/-- The determinant of what is not finite throughout is zero or not finite. -/
theorem invert_not_finite {matrix : Table Extended n n}
    (spoiled : ∃ i j, Scalar.isFinite (matrix.get i j) = false) :
    (Scalar.isZero (invert matrix).determinant ||
      !Scalar.isFinite (invert matrix).determinant) = true := by
  unfold invert
  cases ran : Elimination.run matrix n with
  | none => rfl
  | some e => simp [run_not_finite spoiled ran]

end Elimination

namespace NormalEquations

variable {m : ℕ}

/-- An entry of the equations, or the damping, is not finite. -/
def Spoiled (equations : NormalEquations Extended n) (damping : Extended) : Prop :=
  (∃ i j, Scalar.isFinite (equations.curvature.get i j) = false) ∨
    (∃ i, Scalar.isFinite (equations.downhill.get i) = false) ∨
    Scalar.isFinite damping = false

theorem damped_not_finite (params : 0 < n) {equations : NormalEquations Extended n}
    {damping : Extended}
    (spoiled : (∃ i j, Scalar.isFinite (equations.curvature.get i j) = false) ∨
      Scalar.isFinite damping = false) :
    ∃ i j, Scalar.isFinite ((equations.damped damping).get i j) = false := by
  rcases spoiled with ⟨i, j, entry⟩ | damping
  · exact ⟨i, j, by simp [damped, entry]⟩
  · exact ⟨⟨0, params⟩, ⟨0, params⟩, by simp [damped, damping]⟩

/-- Spoiled equations have no usable step: it is zero, and so is its determinant. -/
theorem step_of_spoiled (params : 0 < n) {equations : NormalEquations Extended n}
    {damping : Extended} (spoiled : equations.Spoiled damping) :
    equations.step damping = Step.unusable := by
  have unusable : (Scalar.isZero (invert (equations.damped damping)).determinant ||
      !Scalar.isFinite (invert (equations.damped damping)).determinant) = true ∨
      ∃ j, Scalar.isFinite (Scalar.sum fun i => equations.downhill.get i *
        (invert (equations.damped damping)).matrix.get i j) = false := by
    rcases spoiled with entry | ⟨i, entry⟩ | damping
    · exact .inl (invert_not_finite (damped_not_finite params (.inl entry)))
    · refine .inr ⟨⟨0, params⟩, Bool.eq_false_iff.mpr fun finite => ?_⟩
      have term := (Extended.isFinite_sum _).mp finite i
      rw [Extended.isFinite_mul, entry] at term
      exact Bool.false_ne_true term
    · exact .inl (invert_not_finite (damped_not_finite params (.inr damping)))
  unfold step
  rw [if_pos]
  rcases unusable with determinant | ⟨j, entry⟩
  · rw [determinant, Bool.true_or]
  · have overflows : (Vector.ofFn fun j => Scalar.sum fun i => equations.downhill.get i *
        (invert (equations.damped damping)).matrix.get i j).all Scalar.isFinite = false := by
      rw [Bool.eq_false_iff]
      intro all
      have finite := Vector.all_eq_true.mp all j j.isLt
      rw [Vector.getElem_ofFn, entry] at finite
      exact Bool.false_ne_true finite
    rw [overflows, Bool.not_false, Bool.or_true]

/-- What is not finite in the Jacobian or in the residuals spoils the equations,
whatever the damping. -/
theorem spoiled_ofJacobian (params : 0 < n) {jacobian : Table Extended m n}
    {residuals : Vector Extended m}
    (spoiled : (∃ i j, Scalar.isFinite (jacobian.get i j) = false) ∨
      ∃ i, Scalar.isFinite (residuals.get i) = false) (damping : Extended) :
    (ofJacobian jacobian residuals).Spoiled damping := by
  rcases spoiled with ⟨i, j, entry⟩ | ⟨i, entry⟩
  · refine .inl ⟨j, j, Bool.eq_false_iff.mpr fun finite => ?_⟩
    simp only [ofJacobian, Table.get_ofFn] at finite
    have square := (Extended.isFinite_sum _).mp finite i
    rw [Extended.isFinite_mul, entry] at square
    exact Bool.false_ne_true square
  · refine .inr (.inl ⟨⟨0, params⟩, Bool.eq_false_iff.mpr fun finite => ?_⟩)
    simp only [ofJacobian, vector_get_ofFn, Extended.isFinite_neg] at finite
    have product := (Extended.isFinite_sum _).mp finite i
    rw [Extended.isFinite_mul, entry, Bool.and_false] at product
    exact Bool.false_ne_true product

end NormalEquations

end OpticTune.Linear
