import OpticTune.Optics.Unicode
import OpticTune.Proofs.Adjust.Displacement
import OpticTune.Proofs.Adjust.Session
import OpticTune.Proofs.Optics.Tag

namespace OpticTune.Adjust

open Act (Keeps)
open Optics
open Solver (Problem)

/-! Ganged cells stay in lockstep.

Whatever changes are made of the parameters, a linked cell has gone as far as its
master, or as far the other way. The one exception is meant: a SHAPE adjustable
takes ASPHER of its master's surface along, so that what a cell of the ASPHER
column has gone is counted without what it was taken along by.
-/

variable {τ : Type} {S R : ℕ}

section Shift

variable (base system : OpticalSystem ℚ S R)

def surfaceShift (i : Fin S) (c : Fin Surface.columnCount) : ℚ :=
  system.surfaces.get i c - base.surfaces.get i c

def rayShift (i : Fin R) (c : Fin RayAttribute.columnCount) : ℚ :=
  system.rays.get i c - base.rays.get i c

def shapeColumn : Fin Surface.columnCount := ⟨8, by decide⟩

def aspherColumn : Fin Surface.columnCount := ⟨9, by decide⟩

/-- How far the ASPHER of a surface was taken along by its SHAPE, if that is an
adjustable. -/
def carriedShift (surfaces : List Adjustable) (i : Fin S) : ℚ :=
  if ∃ adjustable ∈ surfaces, adjustable.column = Surface.shape ∧ adjustable.record = i then
    surfaceShift base system i shapeColumn
  else 0

structure Lockstep (surfaces rays : List Adjustable) : Prop where
  surface : ∀ adjustable ∈ surfaces, ∀ link ∈ adjustable.links, ∀ (master linked : Fin S)
    (c : Fin Surface.columnCount), (master : ℤ) = adjustable.record → (linked : ℤ) = link.record →
    (c : ℤ) = adjustable.column → c ≠ aspherColumn →
    surfaceShift base system linked c = link.sign * surfaceShift base system master c
  aspher : ∀ adjustable ∈ surfaces, ∀ link ∈ adjustable.links, ∀ master linked : Fin S,
    (master : ℤ) = adjustable.record → (linked : ℤ) = link.record →
    adjustable.column = Surface.aspher →
    surfaceShift base system linked aspherColumn - carriedShift base system surfaces linked =
      link.sign * (surfaceShift base system master aspherColumn -
        carriedShift base system surfaces master)
  ray : ∀ adjustable ∈ rays, ∀ link ∈ adjustable.links, ∀ (master linked : Fin R)
    (c : Fin RayAttribute.columnCount), (master : ℤ) = adjustable.record →
    (linked : ℤ) = link.record → (c : ℤ) = adjustable.column →
    rayShift base system linked c = link.sign * rayShift base system master c

end Shift

section Reach

variable {adjustables : List Adjustable} (exclusive : Exclusive adjustables)
  {adjustable other : Adjustable} (member : adjustable ∈ adjustables)
  (otherMember : other ∈ adjustables)

include exclusive member otherMember

/-- Every adjustable moves a linked cell as it moves the master. -/
theorem reach_link_eq {link : Link} (linked : link ∈ adjustable.links) :
    other.reach link.record adjustable.column =
      link.sign * other.reach adjustable.record adjustable.column := by
  have once := exclusive.once adjustable member
  by_cases same : other = adjustable
  · subst other
    rw [Adjustable.reach_link once linked, Adjustable.reach_master once, mul_one]
  · by_cases sameColumn : other.column = adjustable.column
    · have apart := exclusive.apart adjustable member other otherMember same sameColumn
      have notMaster : adjustable.record ∉ other.claims :=
        fun claimed => apart claimed List.mem_cons_self
      have notLinked : link.record ∉ other.claims :=
        fun claimed => apart claimed (List.mem_cons_of_mem _ (List.mem_map_of_mem linked))
      rw [Adjustable.reach_unclaimed notMaster, Adjustable.reach_unclaimed notLinked, mul_zero]
    · rw [Adjustable.reach_other_column (Ne.symm sameColumn),
        Adjustable.reach_other_column (Ne.symm sameColumn), mul_zero]

/-- At the master of a SHAPE adjustable, what is taken along is what SHAPE moves. -/
theorem carriedReach_eq (shape : adjustable.column = Surface.shape) :
    other.carriedReach adjustable.record Surface.aspher =
      other.reach adjustable.record Surface.shape := by
  have once := exclusive.once adjustable member
  by_cases same : other = adjustable
  · subst other
    rw [← shape, Adjustable.reach_master once, Adjustable.carriedReach, if_pos ⟨shape, rfl, rfl⟩]
  · by_cases sameColumn : other.column = adjustable.column
    · have apart := exclusive.apart adjustable member other otherMember same sameColumn
      have notMaster : adjustable.record ∉ other.claims :=
        fun claimed => apart claimed List.mem_cons_self
      have differs : adjustable.record ≠ other.record :=
        fun equal => notMaster (equal ▸ List.mem_cons_self)
      rw [Adjustable.reach_unclaimed notMaster, Adjustable.carriedReach,
        if_neg fun taken => differs taken.2.1]
    · have otherColumn : other.column ≠ Surface.shape := shape ▸ sameColumn
      rw [Adjustable.reach_other_column (Ne.symm otherColumn), Adjustable.carriedReach,
        if_neg fun taken => otherColumn taken.1]

end Reach

section Displaced

variable {surfaces rays : List Adjustable} {base : OpticalSystem ℚ S R}
  {place : Fin (surfaces.length + rays.length) → ℚ}

theorem surfaceShift_displaced (i : Fin S) (c : Fin Surface.columnCount) :
    surfaceShift base (displaced surfaces rays base place) i c =
      ∑ j : Fin surfaces.length, place (j.castAdd rays.length) * (surfaces.get j).surfaceReach i c := by
  simp [surfaceShift, displaced]

theorem rayShift_displaced (i : Fin R) (c : Fin RayAttribute.columnCount) :
    rayShift base (displaced surfaces rays base place) i c =
      ∑ j : Fin rays.length, place (j.natAdd surfaces.length) * (rays.get j).reach i c := by
  simp [rayShift, displaced]

theorem surfaceReach_of_ne_aspher {adjustable : Adjustable} {record column : ℤ}
    (other : column ≠ Surface.aspher) :
    adjustable.surfaceReach record column = adjustable.reach record column := by
  rw [Adjustable.surfaceReach, Adjustable.carriedReach, if_neg fun taken => other taken.2.2,
    add_zero]

/-- Without what it was taken along by, a cell of the ASPHER column has gone where
the adjustables of that column took it. -/
theorem aspherShift_displaced (exclusive : Exclusive surfaces) (i : Fin S) :
    surfaceShift base (displaced surfaces rays base place) i aspherColumn -
        carriedShift base (displaced surfaces rays base place) surfaces i =
      ∑ j : Fin surfaces.length,
        place (j.castAdd rays.length) * (surfaces.get j).reach i Surface.aspher := by
  have carried : carriedShift base (displaced surfaces rays base place) surfaces i =
      ∑ j : Fin surfaces.length,
        place (j.castAdd rays.length) * (surfaces.get j).carriedReach i Surface.aspher := by
    by_cases mastered : ∃ adjustable ∈ surfaces,
        adjustable.column = Surface.shape ∧ adjustable.record = i
    · rw [carriedShift, if_pos mastered, surfaceShift_displaced]
      obtain ⟨adjustable, member, shape, here⟩ := mastered
      refine Finset.sum_congr rfl fun j _ => ?_
      have moved := carriedReach_eq exclusive member (List.get_mem surfaces j) shape
      rw [here] at moved
      rw [moved, surfaceReach_of_ne_aspher (by decide)]
      rfl
    · rw [carriedShift, if_neg mastered, Finset.sum_eq_zero]
      intro j _
      rw [Adjustable.carriedReach, if_neg, mul_zero]
      rintro ⟨shape, here, _⟩
      exact mastered ⟨surfaces.get j, List.get_mem surfaces j, shape, here.symm⟩
  rw [surfaceShift_displaced, carried, ← Finset.sum_sub_distrib]
  refine Finset.sum_congr rfl fun j _ => ?_
  change _ * (_ + (surfaces.get j).carriedReach i Surface.aspher) - _ = _
  rw [mul_add, add_sub_cancel_right]
  rfl

/-- Tables an adjustment can reach are in lockstep. -/
theorem lockstep_displaced (exclusiveSurfaces : Exclusive surfaces)
    (exclusiveRays : Exclusive rays) :
    Lockstep base (displaced surfaces rays base place) surfaces rays where
  surface := by
    intro adjustable member link linked master other c masterIs otherIs column notAspher
    have aspher : (c : ℤ) ≠ Surface.aspher := by
      intro same
      exact notAspher (Fin.ext (Int.ofNat_inj.mp same))
    rw [surfaceShift_displaced, surfaceShift_displaced, Finset.mul_sum]
    refine Finset.sum_congr rfl fun j _ => ?_
    rw [surfaceReach_of_ne_aspher aspher, surfaceReach_of_ne_aspher aspher, masterIs, otherIs,
      column, reach_link_eq exclusiveSurfaces member (List.get_mem surfaces j) linked]
    ring
  aspher := by
    intro adjustable member link linked master other masterIs otherIs column
    rw [aspherShift_displaced exclusiveSurfaces, aspherShift_displaced exclusiveSurfaces,
      Finset.mul_sum]
    refine Finset.sum_congr rfl fun j _ => ?_
    rw [masterIs, otherIs, ← column,
      reach_link_eq exclusiveSurfaces member (List.get_mem surfaces j) linked]
    ring
  ray := by
    intro adjustable member link linked master other c masterIs otherIs column
    rw [rayShift_displaced, rayShift_displaced, Finset.mul_sum]
    refine Finset.sum_congr rfl fun j _ => ?_
    rw [masterIs, otherIs, column,
      reach_link_eq exclusiveRays member (List.get_mem rays j) linked]
    ring

end Displaced

/-- A change sent to a problem, with or without an evaluation after it. -/
inductive Move where
  | apply (delta : List ℚ)
  | nudge (delta : List ℚ)

def Move.perform {σ : Type} (problem : Problem ℚ σ) : Move → Act ℚ σ Unit
  | .apply delta => problem.apply delta
  | .nudge delta => do discard <| problem.nudge delta

def performAll {σ : Type} (problem : Problem ℚ σ) : List Move → Act ℚ σ Unit
  | [] => pure ()
  | move :: rest => do
      move.perform problem
      performAll problem rest

theorem keeps_performAll {σ : Type} {problem : Problem ℚ σ} {holds : σ → Prop}
    (kept : problem.KeptBy holds) (moves : List Move) : Keeps holds (performAll problem moves) := by
  induction moves with
  | nil => exact Act.keeps_pure ()
  | cons move rest ih =>
      refine Keeps.bind ?_ fun _ => ih
      cases move with
      | apply delta => exact kept.apply delta
      | nudge delta => exact (kept.nudge delta).bind fun _ => Act.keeps_pure ()

/-- Adjustables read from tags keep their gangs in lockstep, through every list of
changes and through every tick, whatever the tracer and the builder answer. -/
theorem lockstep_tags (alphabet : Alphabet) {surfaceTags rayTags : List (ℤ × List String)}
    (distinctSurfaces : (surfaceTags.map Prod.fst).Nodup)
    (distinctRays : (rayTags.map Prod.fst).Nodup)
    (fitSurfaces : ∀ entry ∈ surfaceTags,
      0 ≤ entry.1 ∧ entry.1 < Surface.columnCount ∧ entry.2.length ≤ S)
    (fitRays : ∀ entry ∈ rayTags,
      0 ≤ entry.1 ∧ entry.1 < RayAttribute.columnCount ∧ entry.2.length ≤ R)
    (tracer : Tracer ℚ τ S R) (builder : ResidualBuilder ℚ τ S R) :
    let surfaces := adjustablesOfTags alphabet surfaceTags
    let rays := adjustablesOfTags alphabet rayTags
    (∀ (goodCount : ℕ) (moves : List Move) (store : Store ℚ τ S R),
      Lockstep store.world.system
        (performAll (problem tracer builder surfaces rays goodCount) moves
          store).state.world.system surfaces rays) ∧
    ∀ {plan : Plan ℚ} (session : Session ℚ τ S R plan), plan.surfaces = surfaces →
      plan.rays = rays → ∀ ticks,
        Lockstep session.system (session.after tracer builder ticks).system surfaces rays := by
  intro surfaces rays
  have insideSurfaces := inside_tags alphabet fitSurfaces
  have insideRays := inside_tags alphabet fitRays
  have locked {base system : OpticalSystem ℚ S R}
      (reached : ∃ place : Fin (surfaces.length + rays.length) → ℚ,
        system = shifted surfaces rays (List.ofFn place) base) :
      Lockstep base system surfaces rays := by
    obtain ⟨place, rfl⟩ := reached
    rw [shifted_eq_displaced insideSurfaces insideRays]
    exact lockstep_displaced (exclusive_tags alphabet distinctSurfaces)
      (exclusive_tags alphabet distinctRays)
  have moved (base : OpticalSystem ℚ S R) (delta : List ℚ) (system : OpticalSystem ℚ S R)
      (reached : ∃ place : Fin (surfaces.length + rays.length) → ℚ,
        system = shifted surfaces rays (List.ofFn place) base) :
      ∃ place : Fin (surfaces.length + rays.length) → ℚ,
        shifted surfaces rays delta system = shifted surfaces rays (List.ofFn place) base := by
    obtain ⟨place, rfl⟩ := reached
    exact ⟨_, shifted_shifted delta base place⟩
  constructor
  · intro goodCount moves store
    have kept := kept_problem tracer builder goodCount (moved store.world.system)
    exact locked (keeps_performAll kept moves ⟨0, (shifted_zero _).symm⟩)
  · intro plan session surfacesAre raysAre ticks
    have kept := moved session.system
    rw [← surfacesAre, ← raysAre] at kept
    have reached := Session.after_kept tracer builder kept session ⟨0, (shifted_zero _).symm⟩
      ticks
    rw [surfacesAre, raysAre] at reached
    exact locked reached

/-- A tracer that traces every ray. -/
def stillTracer (S R : ℕ) : Tracer ℚ Unit S R where
  buildRays _ _ bench := (R, bench)
  isGood _ _ bench := (true, bench)
  runOneRay _ _ bench := (true, bench)
  rayOutput _ _ _ _ bench := (0, bench)
  updateOrientations _ bench := ((), bench)

def stillBuilder (S R : ℕ) : ResidualBuilder ℚ Unit S R where
  goalCount _ bench := (1, bench)
  pointCount _ bench := (R, bench)
  residuals _ bench := (List.replicate R 0, bench)
  sos _ bench := (0, bench)
  rms _ bench := (0, bench)
  compute _ bench := ((), bench)

def flatStore (S R : ℕ) : Store ℚ Unit S R :=
  .initial ⟨{ surfaces := Table.zeros, rays := Table.zeros, size := 1 }, ()⟩

/-- SHAPE of the first surface can be adjusted, and both surfaces are ganged in
ASPHER. -/
def crossedTags : List (ℤ × List String) := [(8, ["?", ""]), (9, ["A", "A"])]

def crossedRayTags : List (ℤ × List String) := [(3, ["b", "B"])]

def crossedProblem : Problem ℚ (Store ℚ Unit 2 2) :=
  problem (stillTracer 2 2) (stillBuilder 2 2) (adjustablesOfTags .unicode crossedTags)
    (adjustablesOfTags .unicode crossedRayTags) 2

theorem lockstep_crossedTags :
    (crossedTags.map Prod.fst).Nodup ∧
    (∀ entry ∈ crossedTags,
      0 ≤ entry.1 ∧ entry.1 < Surface.columnCount ∧ entry.2.length ≤ 2) ∧
    Lockstep (flatStore 2 2).world.system
      (performAll crossedProblem [.apply [1, 0], .nudge [0, 2, -3]]
        (flatStore 2 2)).state.world.system
      (adjustablesOfTags .unicode crossedTags) (adjustablesOfTags .unicode crossedRayTags) := by
  have distinct : (crossedTags.map Prod.fst).Nodup := by decide
  have fits : ∀ entry ∈ crossedTags,
      0 ≤ entry.1 ∧ entry.1 < Surface.columnCount ∧ entry.2.length ≤ 2 := by decide
  have distinctRays : (crossedRayTags.map Prod.fst).Nodup := by decide
  have locked := lockstep_tags .unicode distinct distinctRays fits (by decide) (stillTracer 2 2)
    (stillBuilder 2 2)
  exact ⟨distinct, fits, locked.1 2 _ _⟩

/-- Moved by one, the SHAPE adjustable takes ASPHER of the first surface along and
leaves the linked one behind. -/
theorem crossedTags_not_lockstep :
    ¬ ∀ adjustable ∈ adjustablesOfTags .unicode crossedTags, ∀ link ∈ adjustable.links,
      ∀ (master linked : Fin 2) (c : Fin Surface.columnCount), (master : ℤ) = adjustable.record →
        (linked : ℤ) = link.record → (c : ℤ) = adjustable.column →
        let moved := (performAll crossedProblem [.apply [1, 0]] (flatStore 2 2)).state.world.system
        surfaceShift (flatStore 2 2).world.system moved linked c =
          link.sign * surfaceShift (flatStore 2 2).world.system moved master c := by
  intro locked
  have ganged : (⟨9, 0, [⟨1, 1⟩]⟩ : Adjustable) ∈ adjustablesOfTags .unicode crossedTags := by
    decide +kernel
  have behind := locked _ ganged ⟨1, 1⟩ List.mem_cons_self 0 1 aspherColumn rfl rfl rfl
  exact absurd behind (by decide +kernel)

end OpticTune.Adjust
