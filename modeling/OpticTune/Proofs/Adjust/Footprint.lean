import Mathlib.Order.Bounds.Basic
import OpticTune.Proofs.Adjust.Bench
import OpticTune.Proofs.Adjust.Steps
import OpticTune.Proofs.Scalar.Rational

namespace OpticTune

open Act (Returns)

/-! Steps are positive, and every adjustable is measured at its own surface.

The size of a system is checked whether it was given or not, and a footprint too small
to divide by gives way to half the size. So whatever column is adjusted, all that is
divided by is positive. What a surface was measured for before makes no difference to
a tracer whose answers are fixed.
-/

namespace Optics

section Size

theorem size_pos {surfaces rays : Option (Sheet ℚ)} {size : Option ℚ} {S R : ℕ}
    {system : OpticalSystem ℚ S R}
    (made : OpticalSystem.ofSheets? surfaces rays size = .ok ⟨S, R, system⟩) :
    0 < system.size := by
  unfold OpticalSystem.ofSheets? at made
  split at made
  · unfold OpticalSystem.make at made
    simp only [bind, Except.bind, pure, Except.pure, throw, throwThe, MonadExceptOf.throw] at made
    split at made
    · exact nomatch made
    split at made
    · exact nomatch made
    split at made
    · split at made
      · exact nomatch made
      split at made
      · rename_i positive
        cases made
        exact of_decide_eq_true positive
      · exact nomatch made
    · exact nomatch made
  · exact nomatch made

end Size

section Step

variable {userStep size : ℚ}

/-- The radius a surface is given, be it measured or half the size. -/
theorem radius_pos (sized : 0 < size) (radius : ℚ) :
    0 < if Scalar.lt radius leastFootprint then 0.5 * size else radius := by
  have half : (0 : ℚ) < 0.5 := by decide +kernel
  have least : (0 : ℚ) < leastFootprint := by decide +kernel
  split
  · exact mul_pos half sized
  · rename_i enough
    have enough : leastFootprint ≤ radius := by simpa using enough
    exact least.trans_le enough

theorem exists_quotient {x y : ℚ} (above : 0 < x) (below : 0 < y) :
    ∃ result, quotient x y = .ok result ∧ 0 < result := by
  refine ⟨x / y, ?_, div_pos above below⟩
  simp [quotient, below.ne']

theorem exists_surfaceStep (positive : 0 < userStep) (sized : 0 < size) (column : ℤ) (radius : ℚ) :
    ∃ step, surfaceStep column userStep size radius = .ok step ∧ 0 < step := by
  have angle : (0 : ℚ) < angleFactor := by decide +kernel
  have zernike : (0 : ℚ) < zernikeFactor := by decide +kernel
  have edge := radius_pos sized radius
  unfold surfaceStep
  generalize (if Scalar.lt radius leastFootprint then 0.5 * size else radius) = radius at edge ⊢
  simp only []
  split
  · exact ⟨_, rfl, mul_pos zernike positive⟩
  split
  · exact ⟨_, rfl, mul_pos positive sized⟩
  split
  · exact ⟨_, rfl, mul_pos angle positive⟩
  split
  · exact exists_quotient positive edge
  split
  · have order : (0 : ℚ) < ((Surface.polynomialOrder column : ℤ) : ℚ) := by
      exact_mod_cast (by omega : 0 < Surface.polynomialOrder column)
    exact exists_quotient positive (mul_pos order (pow_pos edge _))
  · exact ⟨_, rfl, positive⟩

theorem rayStep_pos (positive : 0 < userStep) (sized : 0 < size) (column : ℤ) :
    0 < rayStep column userStep size := by
  rw [rayStep]
  split
  · exact mul_pos positive sized
  · exact positive

end Step

section Fixed

variable {τ : Type} {S R : ℕ} {tracer : Tracer ℚ τ S R} {good : ℤ → Bool}
  {output : ℤ → ℤ → TraceAttribute → ℚ}

/-- Which rays are good, and where they meet the surfaces, whenever it is asked. -/
structure Tracer.Answers (tracer : Tracer ℚ τ S R) (good : ℤ → Bool)
    (output : ℤ → ℤ → TraceAttribute → ℚ) : Prop where
  isGood : ∀ ray system bench, (tracer.isGood ray system bench).1 = good ray
  rayOutput : ∀ ray surface entry system bench,
    (tracer.rayOutput ray surface entry system bench).1 = output ray surface entry

theorem Query.DecidedBy.of_fixed {β : Type} {query : Query ℚ τ S R β} {answer : β}
    (fixed : ∀ system bench, (query system bench).1 = answer) :
    query.DecidedBy fun _ => () :=
  ⟨fun _ _ => answer, fun system bench => Prod.ext (fixed system bench).symm rfl⟩

variable [Planar ℚ]

/-- How far from the axis the good rays among the first ones meet a surface. -/
def distances (good : ℤ → Bool) (output : ℤ → ℤ → TraceAttribute → ℚ) (rayCount : ℕ)
    (surface : ℤ) : Set ℚ :=
  {distance | ∃ ray : ℕ, ray < rayCount ∧ good ray = true ∧
    distance = Planar.hypot (output ray surface .xl) (output ray surface .yl)}

/-- The largest distance, or zero if no ray is good. -/
def IsFootprint (good : ℤ → Bool) (output : ℤ → ℤ → TraceAttribute → ℚ) (rayCount : ℕ)
    (surface : ℤ) (radius : ℚ) : Prop :=
  (∀ ray : ℕ, ray < rayCount → good ray = false) ∧ radius = 0 ∨
    IsGreatest (distances good output rayCount surface) radius

variable (answers : tracer.Answers good output)

include answers

/-- The distances of the good rays are compared one after another. -/
theorem value_foldlM_widen (surface : ℤ) (rays : List ℕ) (radius : ℚ) (world : World ℚ τ S R) :
    (rays.foldlM (fun radius ray => footprintRadius.widen tracer surface ray radius) radius
      world).value =
      ((rays.filter fun ray : ℕ => good ray).map fun ray : ℕ =>
        Planar.hypot (output ray surface .xl) (output ray surface .yl)).foldl max radius := by
  induction rays generalizing radius world with
  | nil => rfl
  | cons ray rest ih =>
      rw [List.foldlM_cons, Act.value_bind, ih]
      have asked : (footprintRadius.widen tracer surface ray radius world).value =
          if good ray then
            max radius (Planar.hypot (output ray surface .xl) (output ray surface .yl))
          else radius := by
        rw [footprintRadius.widen, Act.value_bind, World.value_ask, answers.isGood]
        split
        · simp only [Act.value_bind, World.value_ask, answers.rayOutput, Act.pure_apply,
            Rational.max_eq]
        · rfl
      rw [asked, List.filter_cons]
      split
      · rw [List.map_cons, List.foldl_cons]
      · rfl

theorem isFootprint_footprintRadius (nonneg : ∀ x y : ℚ, 0 ≤ Planar.hypot x y) (surface : ℤ)
    (rayCount : ℕ) (world : World ℚ τ S R) :
    IsFootprint good output rayCount surface
      (footprintRadius tracer surface rayCount world).value := by
  rw [footprintRadius, value_foldlM_widen answers, List.foldl_max]
  cases largest : (((List.range rayCount).filter fun ray : ℕ => good ray).map fun ray : ℕ =>
      Planar.hypot (output ray surface .xl) (output ray surface .yl)).max? with
  | none =>
      left
      simpa using largest
  | some radius =>
      right
      obtain ⟨met, most⟩ := List.max?_eq_some_iff.mp largest
      simp only [List.mem_map, List.mem_filter, List.mem_range] at met most
      obtain ⟨ray, ⟨inside, isGood⟩, rfl⟩ := met
      rw [Option.getD_some, max_eq_right (nonneg _ _)]
      refine ⟨⟨ray, inside, isGood, rfl⟩, ?_⟩
      rintro _ ⟨other, within, otherGood, rfl⟩
      exact most _ ⟨other, ⟨within, otherGood⟩, rfl⟩

end Fixed

end Optics

namespace Adjust

open Optics

section Own

variable {τ : Type} {S R : ℕ} [Planar ℚ] {good : ℤ → Bool}
  {output : ℤ → ℤ → TraceAttribute → ℚ}

/-- One step for every adjustable, surfaces before rays: each is by the footprint at its
own surface, and none is zero, nor is the distance between its two sides. -/
structure OwnSteps (good : ℤ → Bool) (output : ℤ → ℤ → TraceAttribute → ℚ) (rayCount : ℕ)
    (size userStep : ℚ) (surfaces rays : List Adjustable) (steps : List ℚ) : Prop where
  count : steps.length = surfaces.length + rays.length
  surface : ∀ j (adjusted : j < surfaces.length), ∃ radius step,
    IsFootprint good output rayCount surfaces[j].record radius ∧
      surfaceStep surfaces[j].column userStep size radius = .ok step ∧ steps[j]? = some step
  ray : ∀ j (adjusted : j < rays.length),
    steps[surfaces.length + j]? = some (rayStep rays[j].column userStep size)
  positive : ∀ step ∈ steps, 0 < step
  apart : ∀ step ∈ steps, step + step ≠ 0

/-- Steps are always found for a system that was accepted, in the order of the
adjustables, and whatever is shared between them. -/
theorem adjustmentSteps_own {sheet starts : Option (Sheet ℚ)} {size : Option ℚ}
    {system : OpticalSystem ℚ S R}
    (made : OpticalSystem.ofSheets? sheet starts size = .ok ⟨S, R, system⟩)
    (nonneg : ∀ x y : ℚ, 0 ≤ Planar.hypot x y) {tracer : Tracer ℚ τ S R}
    (answers : tracer.Answers good output) {userStep : ℚ} (positive : 0 < userStep)
    (surfaces rays : List Adjustable) (bench : τ) :
    ∃ steps measured,
      Returns (adjustmentSteps tracer surfaces rays userStep) ⟨system, bench⟩ steps measured ∧
        OwnSteps good output R system.size userStep surfaces rays steps := by
  have sized := size_pos made
  let first : World ℚ τ S R := ⟨system, bench⟩
  choose step stepped above using fun adjustable : Adjustable =>
    exists_surfaceStep positive sized adjustable.column (footprint tracer first adjustable.record)
  let steps := surfaces.map step ++ rays.map fun ray => rayStep ray.column userStep system.size
  have own : List.Forall₂ (IsStep tracer first userStep) surfaces (surfaces.map step) :=
    List.forall₂_map_right_iff.mpr (List.forall₂_same.mpr fun adjustable _ => stepped adjustable)
  have alike : World.Alike (fun _ => ()) first first := ⟨rfl, rfl⟩
  obtain ⟨measured, returned⟩ := (exists_returns_adjustmentSteps
    (fun ray => .of_fixed (answers.isGood ray))
    (fun ray surface entry => .of_fixed (answers.rayOutput ray surface entry)) alike).mpr
      ⟨_, own, rfl⟩
  have allPositive : ∀ step ∈ steps, 0 < step := by
    intro found member
    rcases List.mem_append.mp member with ofSurface | ofRay
    · obtain ⟨adjustable, _, rfl⟩ := List.mem_map.mp ofSurface
      exact above adjustable
    · obtain ⟨ray, _, rfl⟩ := List.mem_map.mp ofRay
      exact rayStep_pos positive sized ray.column
  refine ⟨steps, measured, returned, ?_, ?_, ?_, allPositive, ?_⟩
  · simp [steps]
  · intro j adjusted
    refine ⟨_, _, isFootprint_footprintRadius answers nonneg surfaces[j].record R first,
      stepped surfaces[j], ?_⟩
    rw [List.getElem?_append_left (by simpa using adjusted), List.getElem?_map,
      List.getElem?_eq_getElem adjusted]
    rfl
  · intro j adjusted
    rw [List.getElem?_append_right (by simp), List.length_map, Nat.add_sub_cancel_left,
      List.getElem?_map, List.getElem?_eq_getElem adjusted]
    rfl
  · exact fun step member => (add_pos (allPositive step member) (allPositive step member)).ne'

end Own

section Counting

/-- Counts what it is asked. All rays meet the first surface beside its axis and the
others on it. -/
def countingTracer {S R : ℕ} : Tracer ℚ ℕ S R where
  buildRays _ _ asked := (R, asked + 1)
  isGood _ _ asked := (true, asked + 1)
  runOneRay _ _ asked := (true, asked + 1)
  rayOutput _ surface entry _ asked := (if surface = 0 ∧ entry = .xl then 3 else 0, asked + 1)
  updateOrientations _ asked := ((), asked + 1)

/-- A surface off the axis, of which nothing but its place is given. -/
def decentred : Sheet ℚ :=
  ⟨1, 2, ⟨#v[#v[1, -2]]⟩, false⟩

def straightRay : Sheet ℚ :=
  ⟨1, 6, Table.zeros, false⟩

def decentredSurfaces : Table ℚ 1 Surface.columnCount :=
  Table.ofFn fun i j =>
    if inside : j.val < decentred.columnCount then decentred.table.get i ⟨j.val, inside⟩ else 0

def decentredSystem : OpticalSystem ℚ 1 1 :=
  ⟨decentredSurfaces, Table.zeros, OpticalSystem.defaultSize decentredSurfaces⟩

theorem make_decentred :
    OpticalSystem.ofSheets? (some decentred) (some straightRay) none =
      .ok ⟨1, 1, decentredSystem⟩ := by
  have columns : straightRay.columnCount = RayAttribute.columnCount := rfl
  have sized : Scalar.lt 0 (OpticalSystem.defaultSize decentredSurfaces) = true := by
    decide +kernel
  simp only [OpticalSystem.ofSheets?, OpticalSystem.make, bind, Except.bind, pure, Except.pure,
    throw, throwThe, MonadExceptOf.throw]
  rw [if_neg (by decide), if_neg (by decide), dif_pos columns, if_neg (by decide)]
  exact if_pos sized

/-- The second adjustable shares its surface with the first. -/
def sharedSurfaces : List Adjustable :=
  [⟨6, 0, []⟩, ⟨11, 0, []⟩, ⟨6, 1, []⟩, ⟨0, 0, []⟩]

/-- Each surface is measured once, with three questions. -/
theorem adjustmentSteps_decentred :
    letI := axial
    let done := (adjustmentSteps countingTracer sharedSurfaces [⟨3, 0, []⟩] (1 / 2)).run
      ⟨decentredSystem, 0⟩
    done.value = .ok [1 / 6, 1 / 12, 1 / 2, 1, 1 / 2] ∧ done.state.bench = 6 := by
  decide +kernel

theorem adjustmentSteps_own_counting :
    letI := axial
    OpticalSystem.ofSheets? (some decentred) (some straightRay) none =
        .ok ⟨1, 1, decentredSystem⟩ ∧
      (∀ x y : ℚ, 0 ≤ Planar.hypot x y) ∧ (0 : ℚ) < 1 / 2 ∧
      ∃ measured, measured.bench = 6 ∧
        Returns (adjustmentSteps countingTracer sharedSurfaces [⟨3, 0, []⟩] (1 / 2))
          ⟨decentredSystem, 0⟩ [1 / 6, 1 / 12, 1 / 2, 1, 1 / 2] measured ∧
        OwnSteps (fun _ => true)
          (fun _ surface entry => if surface = 0 ∧ entry = .xl then 3 else 0) 1 2 (1 / 2)
          sharedSurfaces [⟨3, 0, []⟩] [1 / 6, 1 / 12, 1 / 2, 1, 1 / 2] := by
  let := axial
  have nonneg (x y : ℚ) : 0 ≤ Planar.hypot x y := add_nonneg (abs_nonneg x) (abs_nonneg y)
  have positive : (0 : ℚ) < 1 / 2 := by decide +kernel
  have size : decentredSystem.size = 2 := by decide +kernel
  have answers : (countingTracer : Tracer ℚ ℕ 1 1).Answers (fun _ => true)
      (fun _ surface entry => if surface = 0 ∧ entry = .xl then 3 else 0) :=
    ⟨fun _ _ _ => rfl, fun _ _ _ _ _ => rfl⟩
  obtain ⟨steps, measured, returned, own⟩ :=
    adjustmentSteps_own make_decentred nonneg answers positive sharedSurfaces [⟨3, 0, []⟩] 0
  obtain ⟨found, asked⟩ := adjustmentSteps_decentred
  obtain rfl := Except.ok.inj (returned.1.symm.trans found)
  rw [returned.2] at asked
  rw [size] at own
  exact ⟨make_decentred, nonneg, positive, measured, asked, returned, own⟩

end Counting

end Adjust

end OpticTune
