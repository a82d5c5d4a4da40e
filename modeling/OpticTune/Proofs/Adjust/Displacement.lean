import Mathlib.Algebra.BigOperators.Fin
import Mathlib.Tactic.Ring
import OpticTune.Proofs.Adjust.Problem
import OpticTune.Proofs.Optics.Adjustable
import OpticTune.Proofs.Scalar.Rational
import OpticTune.Proofs.Solver.KeptSteps

namespace OpticTune

open Optics

/-! Where an adjustment can take the tables.

A change adds to every cell what each adjustable lands there, times its entry. So
changes add up, and tables that were changed any number of times differ from the
initial ones by the sums of the entries times what the adjustables land. An
adjustable inside the table lands its reach.
-/

namespace Optics.Adjustable

variable {m n : ℕ}

/-- What an adjustable adds to a cell of a table when it moves by one. Records and
columns are places that are written, so some may be nowhere. -/
def landing (adjustable : Adjustable) (a : Fin m) (b : Fin n) : ℚ :=
  if writtenPlace n adjustable.column = some b then
    (if writtenPlace m adjustable.record = some a then 1 else 0) +
      (adjustable.links.map fun link =>
        if writtenPlace m link.record = some a then (link.sign : ℚ) else 0).sum
  else 0

def surfaceLanding (adjustable : Adjustable) (a : Fin m) (b : Fin n) : ℚ :=
  adjustable.landing a b +
    if adjustable.column = Surface.shape ∧ writtenPlace m adjustable.record = some a ∧
      writtenPlace n Surface.aspher = some b then 1 else 0

section Inside

theorem writtenPlace_eq_iff {place : ℤ} (inside : 0 ≤ place ∧ place < n) (k : Fin n) :
    writtenPlace n place = some k ↔ (k : ℤ) = place := by
  obtain ⟨low, high⟩ := inside
  rw [writtenPlace, fromEnd, if_neg (not_lt.mpr low), kept_of_inside (by omega) high, insidePlace,
    dif_pos ⟨low, high⟩, Option.some.injEq, Fin.ext_iff]
  simp only
  omega

variable {adjustable : Adjustable}

/-- An adjustable inside the table lands its reach. -/
theorem Inside.landing_eq (inside : adjustable.Inside m n) (a : Fin m) (b : Fin n) :
    adjustable.landing a b = adjustable.reach a b := by
  have linked : (adjustable.links.map fun link =>
      if writtenPlace m link.record = some a then (link.sign : ℚ) else 0).sum =
      linkReach adjustable.links a := by
    refine congrArg List.sum (List.map_congr_left fun link member => ?_)
    simp only [writtenPlace_eq_iff (inside.links link member)]
  simp only [landing, reach, linked, writtenPlace_eq_iff inside.column,
    writtenPlace_eq_iff inside.record]

theorem Inside.surfaceLanding_eq (inside : adjustable.Inside m Surface.columnCount) (a : Fin m)
    (b : Fin Surface.columnCount) :
    adjustable.surfaceLanding a b = adjustable.surfaceReach a b := by
  have aspher : 0 ≤ Surface.aspher ∧ Surface.aspher < Surface.columnCount := by decide
  simp only [surfaceLanding, surfaceReach, carriedReach, inside.landing_eq,
    writtenPlace_eq_iff inside.record, writtenPlace_eq_iff aspher]

end Inside

end Optics.Adjustable

section Table

variable {m n : ℕ} (table : Table ℚ m n)

theorem Table.get_add (i j : ℤ) (amount : ℚ) (a : Fin m) (b : Fin n) :
    (table.add i j amount).get a b =
      table.get a b +
        if writtenPlace m i = some a ∧ writtenPlace n j = some b then amount else 0 := by
  unfold add
  cases writtenPlace m i with
  | none => simp
  | some row =>
      cases writtenPlace n j with
      | none => simp
      | some column =>
          simp only [get_set, Option.some.injEq]
          by_cases here : row = a ∧ column = b
          · obtain ⟨rfl, rfl⟩ := here
            simp
          · have elsewhere : ¬ (a = row ∧ b = column) :=
              fun same => here ⟨same.1.symm, same.2.symm⟩
            rw [if_neg here, if_neg elsewhere, add_zero]

/-- What an adjustable of the rays does to their table. -/
def Table.gang (adjustable : Adjustable) (amount : ℚ) : Table ℚ m n :=
  adjustable.links.foldl
    (fun table link => table.add link.record adjustable.column (Adjust.carried link amount))
    (table.add adjustable.record adjustable.column amount)

theorem Table.get_gang (adjustable : Adjustable) (amount : ℚ) (a : Fin m) (b : Fin n) :
    (table.gang adjustable amount).get a b =
      table.get a b + amount * adjustable.landing a b := by
  obtain ⟨column, record, links⟩ := adjustable
  have linked (start : Table ℚ m n) : (links.foldl
      (fun table link => table.add link.record column (Adjust.carried link amount)) start).get a b =
      start.get a b + if writtenPlace n column = some b then
        amount * (links.map fun link =>
          if writtenPlace m link.record = some a then (link.sign : ℚ) else 0).sum
      else 0 := by
    induction links generalizing start with
    | nil => simp
    | cons link rest ih =>
        rw [List.foldl_cons, ih, start.get_add, Adjust.carried, List.map_cons, List.sum_cons]
        by_cases here : writtenPlace n column = some b
        · by_cases same : writtenPlace m link.record = some a
          · simp only [here, same, and_self, ↓reduceIte]
            ring
          · simp [here, same]
        · simp [here]
  rw [gang, linked, table.get_add, Adjustable.landing]
  by_cases here : writtenPlace n column = some b
  · by_cases same : writtenPlace m record = some a
    · simp only [here, same, and_self, ↓reduceIte]
      ring
    · simp [here, same]
  · simp [here]

/-- What an adjustable of the surfaces does to theirs. -/
def Table.gangSurface (adjustable : Adjustable) (amount : ℚ) : Table ℚ m n :=
  let ganged := table.gang adjustable amount
  if adjustable.column = Surface.shape then ganged.add adjustable.record Surface.aspher amount
  else ganged

theorem Table.get_gangSurface (adjustable : Adjustable) (amount : ℚ) (a : Fin m) (b : Fin n) :
    (table.gangSurface adjustable amount).get a b =
      table.get a b + amount * adjustable.surfaceLanding a b := by
  rw [Adjustable.surfaceLanding, mul_add, ← add_assoc, ← table.get_gang]
  by_cases shape : adjustable.column = Surface.shape
  · simp only [gangSurface, shape, ↓reduceIte, get_add, true_and, mul_ite, mul_one, mul_zero]
  · simp [gangSurface, shape]

/-- Adjustables that move one after another. -/
theorem Table.get_foldl {move : Table ℚ m n → Adjustable → ℚ → Table ℚ m n}
    {lands : Adjustable → ℚ} {a : Fin m} {b : Fin n}
    (moves : ∀ (table : Table ℚ m n) (adjustable : Adjustable) (amount : ℚ),
      (move table adjustable amount).get a b = table.get a b + amount * lands adjustable)
    (adjustables : List Adjustable) (delta : List ℚ) :
    ((adjustables.zip delta).foldl (fun table moved => move table moved.1 moved.2) table).get a b =
      table.get a b +
        ∑ j : Fin adjustables.length, delta.getD j 0 * lands (adjustables.get j) := by
  induction adjustables generalizing delta table with
  | nil => simp
  | cons adjustable rest ih =>
      cases delta with
      | nil => simp
      | cons amount delta =>
          rw [List.zip_cons_cons, List.foldl_cons, ih, moves, add_assoc]
          congr 1
          exact (Fin.sum_univ_succ
            (fun j : Fin (rest.length + 1) => (amount :: delta).getD j 0 *
              lands ((adjustable :: rest).get j))).symm

end Table

namespace Adjust

open Solver (amounts)

variable {S R : ℕ} {surfaces rays : List Adjustable}

section Moves

variable (system : OpticalSystem ℚ S R) (delta : List ℚ)

theorem foldl_withSurfaces {β : Type} (items : List β)
    (change : Table ℚ S Surface.columnCount → β → Table ℚ S Surface.columnCount) :
    items.foldl (fun system item => { system with surfaces := change system.surfaces item }) system =
      { system with surfaces := items.foldl change system.surfaces } := by
  induction items generalizing system with
  | nil => rfl
  | cons item rest ih => exact ih _

theorem foldl_withRays {β : Type} (items : List β)
    (change : Table ℚ R RayAttribute.columnCount → β → Table ℚ R RayAttribute.columnCount) :
    items.foldl (fun system item => { system with rays := change system.rays item }) system =
      { system with rays := items.foldl change system.rays } := by
  induction items generalizing system with
  | nil => rfl
  | cons item rest ih => exact ih _

theorem moveSurface_eq (adjustable : Adjustable) (amount : ℚ) :
    moveSurface system adjustable amount =
      { system with surfaces := system.surfaces.gangSurface adjustable amount } := by
  have ganged := foldl_withSurfaces (system.nudgeSurface adjustable.record adjustable.column amount)
    adjustable.links
    fun table link => table.add link.record adjustable.column (carried link amount)
  unfold moveSurface
  simp only [OpticalSystem.nudgeSurface] at ganged ⊢
  rw [ganged, Table.gangSurface, Table.gang]
  split <;> rfl

theorem moveRay_eq (adjustable : Adjustable) (amount : ℚ) :
    moveRay system adjustable amount =
      { system with rays := system.rays.gang adjustable amount } :=
  foldl_withRays (system.nudgeRay adjustable.record adjustable.column amount) adjustable.links
    fun table link => table.add link.record adjustable.column (carried link amount)

theorem moveSurfaces_eq :
    moveSurfaces surfaces delta system =
      { system with
        surfaces := (surfaces.zip delta).foldl
          (fun table moved => table.gangSurface moved.1 moved.2) system.surfaces } := by
  simp only [moveSurfaces, moveSurface_eq]
  exact foldl_withSurfaces system _ fun table (moved : Adjustable × ℚ) =>
    table.gangSurface moved.1 moved.2

theorem moveRays_eq :
    moveRays rays delta system =
      { system with
        rays := (rays.zip delta).foldl (fun table moved => table.gang moved.1 moved.2)
          system.rays } := by
  simp only [moveRays, moveRay_eq]
  exact foldl_withRays system _ fun table (moved : Adjustable × ℚ) => table.gang moved.1 moved.2

end Moves

section Shifted

variable (delta : List ℚ) (system : OpticalSystem ℚ S R)

theorem get_shifted_surfaces (i : Fin S) (c : Fin Surface.columnCount) :
    (shifted surfaces rays delta system).surfaces.get i c = system.surfaces.get i c +
      ∑ j : Fin surfaces.length, amounts (surfaces.length + rays.length) delta (j.castAdd _) *
        (surfaces.get j).surfaceLanding i c := by
  rw [shifted, moveRays_eq, moveSurfaces_eq]
  exact Table.get_foldl _ (fun table adjustable amount =>
    table.get_gangSurface adjustable amount i c) surfaces delta

theorem get_shifted_rays (i : Fin R) (c : Fin RayAttribute.columnCount) :
    (shifted surfaces rays delta system).rays.get i c = system.rays.get i c +
      ∑ j : Fin rays.length, amounts (surfaces.length + rays.length) delta (j.natAdd _) *
        (rays.get j).landing i c := by
  have entry (j : Fin rays.length) :
      amounts (surfaces.length + rays.length) delta (j.natAdd _) =
        (delta.drop surfaces.length).getD j 0 := by
    simp only [amounts, Fin.val_natAdd, List.getD, List.getElem?_drop]
  simp only [entry]
  rw [shifted, moveRays_eq, moveSurfaces_eq]
  exact Table.get_foldl _ (fun table adjustable amount =>
    table.get_gang adjustable amount i c) rays _

theorem size_shifted : (shifted surfaces rays delta system).size = system.size := by
  rw [shifted, moveRays_eq, moveSurfaces_eq]

theorem systems_ext {first second : OpticalSystem ℚ S R}
    (surfacesAgree : ∀ i c, first.surfaces.get i c = second.surfaces.get i c)
    (raysAgree : ∀ i c, first.rays.get i c = second.rays.get i c)
    (sizesAgree : first.size = second.size) : first = second := by
  obtain ⟨_, _, _⟩ := first
  obtain ⟨_, _, _⟩ := second
  cases Table.ext_get surfacesAgree
  cases Table.ext_get raysAgree
  cases sizesAgree
  rfl

theorem shifted_zero :
    shifted surfaces rays (List.ofFn (0 : Fin (surfaces.length + rays.length) → ℚ)) system =
      system := by
  refine systems_ext (fun i c => ?_) (fun i c => ?_) (size_shifted _ system)
  · simp [get_shifted_surfaces, Solver.amounts_ofFn]
  · simp [get_shifted_rays, Solver.amounts_ofFn]

/-- Changes add up. -/
theorem shifted_shifted (place : Fin (surfaces.length + rays.length) → ℚ) :
    shifted surfaces rays delta (shifted surfaces rays (List.ofFn place) system) =
      shifted surfaces rays (List.ofFn (place + amounts _ delta)) system := by
  refine systems_ext (fun i c => ?_) (fun i c => ?_) ?_
  · simp only [get_shifted_surfaces, Solver.amounts_ofFn, Pi.add_apply, add_mul,
      Finset.sum_add_distrib, add_assoc]
  · simp only [get_shifted_rays, Solver.amounts_ofFn, Pi.add_apply, add_mul,
      Finset.sum_add_distrib, add_assoc]
  · simp only [size_shifted]

end Shifted

/-- The tables after every adjustable has moved by its entry in `place`, the
surface adjustables first. -/
def displaced (surfaces rays : List Adjustable) (base : OpticalSystem ℚ S R)
    (place : Fin (surfaces.length + rays.length) → ℚ) : OpticalSystem ℚ S R where
  surfaces := Table.ofFn fun i c => base.surfaces.get i c +
    ∑ j : Fin surfaces.length, place (j.castAdd rays.length) * (surfaces.get j).surfaceReach i c
  rays := Table.ofFn fun i c => base.rays.get i c +
    ∑ j : Fin rays.length, place (j.natAdd surfaces.length) * (rays.get j).reach i c
  size := base.size

theorem shifted_eq_displaced
    (insideSurfaces : ∀ adjustable ∈ surfaces, adjustable.Inside S Surface.columnCount)
    (insideRays : ∀ adjustable ∈ rays, adjustable.Inside R RayAttribute.columnCount)
    (base : OpticalSystem ℚ S R) (place : Fin (surfaces.length + rays.length) → ℚ) :
    shifted surfaces rays (List.ofFn place) base = displaced surfaces rays base place := by
  refine systems_ext (fun i c => ?_) (fun i c => ?_) (size_shifted _ base)
  · rw [get_shifted_surfaces, Solver.amounts_ofFn, displaced, Table.get_ofFn]
    congr 1
    refine Finset.sum_congr rfl fun j _ => ?_
    rw [(insideSurfaces _ (List.get_mem surfaces j)).surfaceLanding_eq]
  · rw [get_shifted_rays, Solver.amounts_ofFn, displaced, Table.get_ofFn]
    congr 1
    refine Finset.sum_congr rfl fun j _ => ?_
    rw [(insideRays _ (List.get_mem rays j)).landing_eq]

section Unreached

variable {base : OpticalSystem ℚ S R} {place : Fin (surfaces.length + rays.length) → ℚ}

theorem surfaces_displaced_unreached {i : Fin S} {c : Fin Surface.columnCount}
    (unreached : ∀ adjustable ∈ surfaces, adjustable.surfaceReach i c = 0) :
    (displaced surfaces rays base place).surfaces.get i c = base.surfaces.get i c := by
  rw [displaced, Table.get_ofFn, Finset.sum_eq_zero, add_zero]
  intro j _
  rw [unreached _ (List.get_mem surfaces j), mul_zero]

theorem rays_displaced_unreached {i : Fin R} {c : Fin RayAttribute.columnCount}
    (unreached : ∀ adjustable ∈ rays, adjustable.reach i c = 0) :
    (displaced surfaces rays base place).rays.get i c = base.rays.get i c := by
  rw [displaced, Table.get_ofFn, Finset.sum_eq_zero, add_zero]
  intro j _
  rw [unreached _ (List.get_mem rays j), mul_zero]

end Unreached

end Adjust

end OpticTune
