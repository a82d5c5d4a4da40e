import Mathlib.Algebra.Order.BigOperators.Group.Finset
import Mathlib.Algebra.Order.Ring.Rat
import Mathlib.Data.Fintype.Powerset
import Mathlib.Tactic.Positivity
import OpticTune.Optics.Bench

namespace OpticTune.Optics

/-! Benches that answer by the tables.

What the tables are worth does not depend on the bench: which rays trace, and the
figures of the rays that are looked at. A bench remembers which rays were good at
the last full build and which tables its figures are of.
-/

variable {τ ρ β : Type} {S R : ℕ}

structure Appraisal (S R : ℕ) where
  goalCount : ℕ
  traces : OpticalSystem ℚ S R → Finset (Fin R)
  residuals : OpticalSystem ℚ S R → (rays : Finset (Fin R)) → List ℚ
  sos : OpticalSystem ℚ S R → (rays : Finset (Fin R)) → ℚ
  rms : OpticalSystem ℚ S R → (rays : Finset (Fin R)) → ℚ
  length_residuals : ∀ system rays, (residuals system rays).length = rays.card * goalCount
  sos_nonneg : ∀ system rays, 0 ≤ sos system rays
  rms_le : ∀ system other rays, sos system rays ≤ sos other rays → rms system rays ≤ rms other rays

structure Seen (S R : ℕ) where
  good : Finset (Fin R)
  /-- The tables the figures are of. -/
  figured : OpticalSystem ℚ S R

/-- As far as the bench is seen, a query answers and leaves what another does. -/
def Query.Shows (query : Query ℚ τ S R β) (seen : τ → ρ) (shown : Query ℚ ρ S R β) : Prop :=
  ∀ system bench, shown system (seen bench) = ((query system bench).1, seen (query system bench).2)

theorem Query.shows_id (query : Query ℚ τ S R β) : query.Shows id query :=
  fun _ _ => rfl

section Shows

variable {query : Query ℚ τ S R β} {seen : τ → ρ} {shown : Query ℚ ρ S R β}

theorem Query.Shows.answer (shows : query.Shows seen shown) (system : OpticalSystem ℚ S R)
    (bench : τ) : (query system bench).1 = (shown system (seen bench)).1 := by
  rw [shows]

theorem Query.Shows.leaves (shows : query.Shows seen shown) (system : OpticalSystem ℚ S R)
    (bench : τ) : seen (query system bench).2 = (shown system (seen bench)).2 := by
  rw [shows]

end Shows

namespace Appraisal

variable (appraisal : Appraisal S R)

/-- Only a full build says anew which rays are good. -/
def buildRays (all : Bool) : Query ℚ (Seen S R) S R ℕ := fun system seen =>
  let traced := appraisal.traces system
  if all then (traced.card, { seen with good := traced }) else ((seen.good ∩ traced).card, seen)

def builder : ResidualBuilder ℚ (Seen S R) S R where
  goalCount _ seen := (appraisal.goalCount, seen)
  pointCount _ seen := ((appraisal.residuals seen.figured seen.good).length, seen)
  residuals _ seen := (appraisal.residuals seen.figured seen.good, seen)
  sos _ seen := (appraisal.sos seen.figured seen.good, seen)
  rms _ seen := (appraisal.rms seen.figured seen.good, seen)
  compute system seen := ((), { seen with figured := system })

/-- The tracer and the builder of a bench answer by the tables. Questions about
single rays may be answered in any way. -/
structure Answers (tracer : Tracer ℚ τ S R) (builder : ResidualBuilder ℚ τ S R)
    (seen : τ → Seen S R) : Prop where
  buildRays : ∀ all, (tracer.buildRays all).Shows seen (appraisal.buildRays all)
  isGood : ∀ ray system bench, seen (tracer.isGood ray system bench).2 = seen bench
  rayOutput : ∀ ray surface entry system bench,
    seen (tracer.rayOutput ray surface entry system bench).2 = seen bench
  updateOrientations : ∀ system bench, seen (tracer.updateOrientations system bench).2 = seen bench
  goalCount : builder.goalCount.Shows seen appraisal.builder.goalCount
  pointCount : builder.pointCount.Shows seen appraisal.builder.pointCount
  residuals : builder.residuals.Shows seen appraisal.builder.residuals
  sos : builder.sos.Shows seen appraisal.builder.sos
  rms : builder.rms.Shows seen appraisal.builder.rms
  compute : builder.compute.Shows seen appraisal.builder.compute

end Appraisal

section Edge

/-- Where the ray aims, by its own direction and the SHAPE of all surfaces. -/
def aim (system : OpticalSystem ℚ S 1) (ray : Fin 1) : ℚ :=
  system.rays.get ray ⟨3, by decide⟩ + ∑ i, system.surfaces.get i ⟨Surface.shape.toNat, by decide⟩

/-- One ray is to aim at zero, and is lost below minus one half. -/
def edge : Appraisal S 1 where
  goalCount := 1
  traces system := {ray | -1 / 2 ≤ aim system ray}
  residuals system rays := ((List.finRange 1).filter (· ∈ rays)).map (aim system)
  sos system rays := ∑ ray ∈ rays, aim system ray ^ 2
  rms system rays := ∑ ray ∈ rays, |aim system ray|
  length_residuals := by
    intro system rays
    rw [List.length_map, mul_one]
    revert rays
    decide
  sos_nonneg _ _ := Finset.sum_nonneg fun _ _ => sq_nonneg _
  rms_le := by
    intro system other rays smaller
    rcases Finset.eq_empty_or_nonempty rays with rfl | ⟨ray, member⟩
    · rfl
    · obtain rfl : rays = {ray} := Finset.eq_singleton_iff_unique_mem.mpr
        ⟨member, fun _ _ => Subsingleton.elim _ _⟩
      simpa [sq_le_sq] using smaller

def edgeTracer : Tracer ℚ (Seen S 1) S 1 where
  buildRays := edge.buildRays
  isGood ray _ seen := (decide (∃ good ∈ seen.good, (good : ℤ) = ray), seen)
  runOneRay ray system seen := (decide (∃ traced ∈ edge.traces system, (traced : ℤ) = ray), seen)
  rayOutput _ _ _ _ seen := (0, seen)
  updateOrientations _ seen := ((), seen)

theorem edge_answers : (edge : Appraisal S 1).Answers edgeTracer edge.builder id where
  buildRays all := (edge.buildRays all).shows_id
  isGood _ _ _ := rfl
  rayOutput _ _ _ _ _ := rfl
  updateOrientations _ _ := rfl
  goalCount := edge.builder.goalCount.shows_id
  pointCount := edge.builder.pointCount.shows_id
  residuals := edge.builder.residuals.shows_id
  sos := edge.builder.sos.shows_id
  rms := edge.builder.rms.shows_id
  compute := edge.builder.compute.shows_id

end Edge

end OpticTune.Optics
