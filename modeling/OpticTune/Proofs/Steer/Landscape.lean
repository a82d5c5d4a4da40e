import Mathlib.Algebra.Order.Ring.Rat
import OpticTune.Proofs.Steer.Law

namespace OpticTune.Steer

open Optics
open Solver (Landscape)

/-! What the steering of a ray finds around its start, in exact arithmetic.

The place of a ray is how far each of its steered columns has moved from where
they started; a column that is listed twice moves by both. -/

variable {τ : Type} {S R : ℕ}

section Row

variable {adjusted : List RayAttribute} (row : Vector ℚ RayAttribute.columnCount)

theorem get_moveRow (adjusted : List RayAttribute) (delta : List ℚ)
    (row : Vector ℚ RayAttribute.columnCount) (j : Fin RayAttribute.columnCount) :
    (moveRow adjusted delta row).get j = row.get j +
      ∑ k : Fin adjusted.length, if (adjusted.get k).column = j then delta.getD k 0 else 0 := by
  induction adjusted generalizing delta row with
  | nil => simp [moveRow]
  | cons start rest ih =>
      cases delta with
      | nil => simp [moveRow]
      | cons amount delta =>
          have moved : moveRow (start :: rest) (amount :: delta) row =
              moveRow rest delta (nudgeEntry row start.column amount) := rfl
          have entry : (nudgeEntry row start.column amount).get j =
              row.get j + if start.column = j then amount else 0 := by
            rw [get_nudgeEntry]
            by_cases here : j = start.column
            · simp [here]
            · simp [here, Ne.symm here]
          rw [moved, ih, entry, add_assoc]
          congr 1
          exact (Fin.sum_univ_succ fun k : Fin (rest.length + 1) =>
            if ((start :: rest).get k).column = j then (amount :: delta).getD k 0 else 0).symm

theorem moveRow_moveRow (place delta : Fin adjusted.length → ℚ) :
    moveRow adjusted (List.ofFn delta) (moveRow adjusted (List.ofFn place) row) =
      moveRow adjusted (List.ofFn (place + delta)) row := by
  refine Vector.ext fun j inside => ?_
  change (moveRow adjusted _ _).get ⟨j, inside⟩ = (moveRow adjusted _ _).get ⟨j, inside⟩
  simp only [get_moveRow, add_assoc, ← Finset.sum_add_distrib]
  congr 1
  refine Finset.sum_congr rfl fun k _ => ?_
  split <;> simp

theorem moveRow_zero :
    moveRow adjusted (List.ofFn (0 : Fin adjusted.length → ℚ)) row = row := by
  refine Vector.ext fun j inside => ?_
  change (moveRow adjusted _ _).get ⟨j, inside⟩ = row.get ⟨j, inside⟩
  simp [get_moveRow]

end Row

section Around

variable (law : Law ℚ S) (aim : Aim ℚ) (surfaces : Table ℚ S Surface.columnCount)
  (row : Vector ℚ RayAttribute.columnCount)

/-- How far the ray misses its goals at a place, if it traces there. -/
def Law.missesAt (place : Fin aim.adjusted.length → ℚ) : Option (List ℚ) :=
  (law surfaces (moveRow aim.adjusted (List.ofFn place) row)).map (aim.misses S)

def Law.around : Landscape ℚ aim.goals.length aim.adjusted.length where
  sos place := (law.missesAt aim surfaces row place).map Scalar.sumOfSquares
  residuals place i := ((law.missesAt aim surfaces row place).getD []).getD i 0

end Around

theorem eq_ofFn_getD {values : List ℚ} {count : ℕ} (length : values.length = count) :
    values = List.ofFn fun i : Fin count => values.getD i 0 := by
  subst length
  exact List.ext_getElem (by simp) fun i _ inside => by simp [List.getD]

theorem length_misses {aim : Aim ℚ} (count : aim.values.length = aim.goals.length)
    (outputs : ℤ → TraceAttribute → ℚ) : (aim.misses S outputs).length = aim.goals.length := by
  simp [Aim.misses, count]

variable {tracer : Tracer ℚ τ S R} {law : Fin R → Law ℚ S} {ray : Fin R} {aim : Aim ℚ}

/-- Under a law the steering of a ray follows what is around its start. -/
theorem follows_problem (governed : Governed tracer law) (aimed : aim.ray = ray)
    (count : aim.values.length = aim.goals.length) (surfaces : Table ℚ S Surface.columnCount)
    (row : Vector ℚ RayAttribute.columnCount) :
    (problem tracer aim).Follows ((law ray).around aim surfaces row) fun place course =>
      course.world.system.surfaces = surfaces ∧
        course.world.system.rays.row ray = moveRow aim.adjusted (List.ofFn place) row where
  apply := by
    rintro place course ⟨same, stands⟩ delta
    obtain ⟨moved, movedRow⟩ := moved_moveRay aimed (List.ofFn delta) course.world.system
    refine ⟨moved.surfaces.trans same, movedRow.trans ?_⟩
    rw [stands, moveRow_moveRow]
  evaluate := by
    rintro place course ⟨same, stands⟩
    obtain ⟨value, bench, state⟩ := evaluate_of_law governed aimed course
    rw [Law.seen, same, stands] at value
    rw [problem, state]
    exact ⟨⟨same, stands⟩, value⟩
  residuals := by
    rintro place course ⟨same, stands⟩ traces
    obtain ⟨-, bench, state⟩ := evaluate_of_law governed aimed course
    rw [Law.seen, same, stands] at state
    refine ⟨?_, rfl⟩
    change (evaluate tracer aim course).state.residuals = _
    rw [state]
    simp only [Law.around, Law.missesAt, Option.isSome_map] at traces ⊢
    obtain ⟨outputs, seen⟩ := Option.isSome_iff_exists.mp traces
    rw [seen, Option.map_some, Option.getD_some]
    exact eq_ofFn_getD (length_misses count outputs)

end OpticTune.Steer
