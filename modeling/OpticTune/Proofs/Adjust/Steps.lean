import Mathlib.Data.List.Forall2
import OpticTune.Proofs.Agrees
import OpticTune.Proofs.Adjust.Plan
import OpticTune.Proofs.Optics.Appraisal
import OpticTune.Scalar.Rational

namespace OpticTune

open Act (Agrees Keeps Returns)

/-! The steps of adjustables, on a bench that measures footprints by the tables.

However many surfaces were measured before and in whatever order, a surface has the
footprint it has; one that was measured before is remembered with that footprint.
So the step of an adjustable is its own, wherever it stands in the list.
-/

namespace Optics

variable {τ ρ β : Type} {S R : ℕ}

/-- A question that changes nothing that is seen of the bench, and that is answered
by the tables and by what is seen. -/
def Query.DecidedBy (query : Query ℚ τ S R β) (seen : τ → ρ) : Prop :=
  ∃ answer : OpticalSystem ℚ S R → ρ → β,
    query.Shows seen fun system shown => (answer system shown, shown)

/-- The same tables, and benches on which the same is seen. -/
def World.Alike (seen : τ → ρ) (one other : World ℚ τ S R) : Prop :=
  one.system = other.system ∧ seen one.bench = seen other.bench

variable {query : Query ℚ τ S R β} {seen : τ → ρ}

theorem Query.DecidedBy.leaves (decided : query.DecidedBy seen) (system : OpticalSystem ℚ S R)
    (bench : τ) : seen (query system bench).2 = seen bench := by
  obtain ⟨answer, shows⟩ := decided
  exact shows.leaves system bench

theorem Query.DecidedBy.agrees (decided : query.DecidedBy seen) :
    Agrees (World.Alike seen) (World.ask query) (World.ask query) := by
  intro one other alike
  have kept := decided.leaves
  obtain ⟨answer, shows⟩ := decided
  constructor
  · rw [World.value_ask, World.value_ask, shows.answer, shows.answer, alike.1, alike.2]
  · exact ⟨alike.1, (kept _ _).trans (alike.2.trans (kept _ _).symm)⟩

theorem Query.DecidedBy.keeps (decided : query.DecidedBy seen) (first : World ℚ τ S R) :
    Keeps (World.Alike seen first) (World.ask query) := by
  intro world alike
  exact ⟨alike.1, alike.2.trans (decided.leaves _ _).symm⟩

end Optics

namespace Adjust

open Optics

section Counted

theorem steps_eq_ok {α : Type} {n : ℕ} {found : List α} {steps : Vector α n} :
    Adjust.steps n found = .ok steps ↔ found = List.ofFn steps.get := by
  have whole : List.ofFn steps.get = steps.toList := by
    rw [← Vector.toList_ofFn]
    congr 1
    ext i inside
    simp [Vector.get]
  rw [whole, Adjust.steps]
  split
  · rename_i count
    rw [Except.ok.injEq, ← Vector.toList_inj]
    rfl
  · rename_i count
    constructor
    · exact nofun
    · rintro rfl
      exact absurd steps.length_toList count

theorem forall₂_ofFn {β γ : Type} {relates : β → γ → Prop} (items : List β)
    (values : Fin items.length → γ) :
    List.Forall₂ relates items (List.ofFn values) ↔ ∀ j, relates (items.get j) (values j) := by
  simp [List.forall₂_iff_get, Fin.forall_iff]

end Counted

section Lookup

variable {α τ : Type} {S R : ℕ} [Scalar α] [Planar α] {tracer : Tracer α τ S R}
  {world after : World α τ S R} {userStep : α} {adjustable : Adjustable} {rest : List Adjustable}
  {radii : List (ℤ × α)} {steps : List α}

theorem returns_surfaceSteps_known {radius : α}
    (found : radii.lookup adjustable.record = some radius) :
    Returns (surfaceSteps tracer userStep (adjustable :: rest) radii) world steps after ↔
      ∃ step more, surfaceStep adjustable.column userStep world.system.size radius = .ok step ∧
        Returns (surfaceSteps tracer userStep rest radii) world more after ∧
        steps = step :: more := by
  rw [surfaceSteps]
  simp only [found, Option.isSome_some, ↓reduceIte, pure_bind]
  rw [Act.returns_get_bind, Act.returns_ofExcept_bind]
  refine exists_congr fun step => ?_
  rw [Act.returns_bind, ← exists_and_left]
  refine exists_congr fun more => ?_
  constructor
  · rintro ⟨stepped, middle, returned, done⟩
    obtain ⟨rfl, rfl⟩ := Act.returns_pure.mp done
    exact ⟨stepped, returned, rfl⟩
  · rintro ⟨stepped, returned, rfl⟩
    exact ⟨stepped, after, returned, Act.returns_pure.mpr ⟨rfl, rfl⟩⟩

/-- A surface that was not measured before is measured, and then it is known. -/
theorem returns_surfaceSteps_unknown (missing : radii.lookup adjustable.record = none) :
    Returns (surfaceSteps tracer userStep (adjustable :: rest) radii) world steps after ↔
      Returns (surfaceSteps tracer userStep (adjustable :: rest)
        ((adjustable.record, (footprintRadius tracer adjustable.record R world).value) :: radii))
        (footprintRadius tracer adjustable.record R world).state steps after := by
  have found : ((adjustable.record, (footprintRadius tracer adjustable.record R world).value) ::
      radii).lookup adjustable.record =
      some (footprintRadius tracer adjustable.record R world).value := by
    simp
  rw [surfaceSteps, surfaceSteps]
  simp only [missing, found, Option.isSome_none, Option.isSome_some, Bool.false_eq_true,
    ↓reduceIte, pure_bind]
  exact Act.returns_liftM_bind

end Lookup

variable {τ ρ : Type} {S R : ℕ} [Planar ℚ] {tracer : Tracer ℚ τ S R} {seen : τ → ρ}
  {first world : World ℚ τ S R} {userStep : ℚ} {surfaces rays : List Adjustable}

/-- The footprint found on a surface by a first measurement. -/
def footprint (tracer : Tracer ℚ τ S R) (first : World ℚ τ S R) (surface : ℤ) : ℚ :=
  (footprintRadius tracer surface R first).value

/-- The step that is found for an adjustable of the surfaces. -/
def IsStep (tracer : Tracer ℚ τ S R) (first : World ℚ τ S R) (userStep : ℚ)
    (adjustable : Adjustable) (step : ℚ) : Prop :=
  surfaceStep adjustable.column userStep first.system.size
    (footprint tracer first adjustable.record) = .ok step

/-- Every adjustable has its own step. -/
structure Stepped (tracer : Tracer ℚ τ S R) (first : World ℚ τ S R) (userStep : ℚ)
    (surfaces rays : List Adjustable) (steps : Vector ℚ (surfaces.length + rays.length)) :
    Prop where
  surface : ∀ j : Fin surfaces.length,
    IsStep tracer first userStep (surfaces.get j) (steps.get (j.castAdd rays.length))
  ray : ∀ j : Fin rays.length,
    steps.get (j.natAdd surfaces.length) =
      rayStep (rays.get j).column userStep first.system.size

section Decided

variable (good : ∀ ray, (tracer.isGood ray).DecidedBy seen)
  (output : ∀ ray surface entry, (tracer.rayOutput ray surface entry).DecidedBy seen)

include good output

theorem agrees_footprintRadius (surface : ℤ) (rayCount : ℕ) :
    Agrees (World.Alike seen) (footprintRadius tracer surface rayCount)
      (footprintRadius tracer surface rayCount) := by
  have widens (ray : ℕ) (radius : ℚ) : Agrees (World.Alike seen)
      (footprintRadius.widen tracer surface ray radius)
      (footprintRadius.widen tracer surface ray radius) := by
    refine (good ray).agrees.bind fun isGood => ?_
    split
    · exact (output ray surface .xl).agrees.bind fun x =>
        (output ray surface .yl).agrees.bind fun y => Act.agrees_pure _
    · exact Act.agrees_pure _
  have folds (rays : List ℕ) (radius : ℚ) : Agrees (World.Alike seen)
      (rays.foldlM (fun radius ray => footprintRadius.widen tracer surface ray radius) radius)
      (rays.foldlM (fun radius ray => footprintRadius.widen tracer surface ray radius) radius) := by
    induction rays generalizing radius with
    | nil => exact Act.agrees_pure radius
    | cons ray rest ih => exact (widens ray radius).bind fun radius => ih radius
  exact folds _ _

theorem alike_footprintRadius (alike : World.Alike seen first world) (surface : ℤ) :
    (footprintRadius tracer surface R world).value = footprint tracer first surface ∧
      World.Alike seen first (footprintRadius tracer surface R world).state := by
  have keeps := keeps_footprintRadius (fun ray => (good ray).keeps first)
    (fun ray surface entry => (output ray surface entry).keeps first) surface R
  exact ⟨(agrees_footprintRadius good output surface R alike).1.symm, keeps alike⟩

/-- Surfaces measured earlier are remembered with their footprints. -/
theorem returns_surfaceSteps {radii : List (ℤ × ℚ)}
    (known : ∀ surface radius, radii.lookup surface = some radius →
      radius = footprint tracer first surface)
    (alike : World.Alike seen first world) {steps : List ℚ} :
    (∃ after, Returns (surfaceSteps tracer userStep surfaces radii) world steps after) ↔
      List.Forall₂ (IsStep tracer first userStep) surfaces steps := by
  induction surfaces generalizing radii world steps with
  | nil => simp [surfaceSteps, List.forall₂_nil_left_iff]
  | cons adjustable rest ih =>
      -- the rest of the steps, once the footprint is known
      have continues {world : World ℚ τ S R} {radii : List (ℤ × ℚ)}
          (known : ∀ surface radius, radii.lookup surface = some radius →
            radius = footprint tracer first surface)
          (alike : World.Alike seen first world)
          (found : radii.lookup adjustable.record =
            some (footprint tracer first adjustable.record)) :
          (∃ after, Returns (surfaceSteps tracer userStep (adjustable :: rest) radii) world steps
              after) ↔
            List.Forall₂ (IsStep tracer first userStep) (adjustable :: rest) steps := by
        simp only [returns_surfaceSteps_known found, ← alike.1]
        rw [List.forall₂_cons_left_iff]
        constructor
        · rintro ⟨_, step, more, stepped, returned, rfl⟩
          exact ⟨step, more, stepped, (ih known alike).mp ⟨_, returned⟩, rfl⟩
        · rintro ⟨step, more, stepped, further, rfl⟩
          obtain ⟨after, returned⟩ := (ih known alike).mpr further
          exact ⟨after, step, more, stepped, returned, rfl⟩
      cases found : radii.lookup adjustable.record with
      | some radius =>
          obtain rfl := known _ _ found
          exact continues known alike found
      | none =>
          obtain ⟨measured, alike⟩ := alike_footprintRadius good output alike adjustable.record
          simp only [returns_surfaceSteps_unknown found, measured]
          refine continues ?_ alike (by simp)
          intro surface radius found
          rw [List.lookup_cons] at found
          by_cases same : surface = adjustable.record
          · subst same
            simpa using found.symm
          · rw [beq_eq_false_iff_ne.mpr same] at found
            exact known surface radius found

theorem exists_returns_adjustmentSteps (alike : World.Alike seen first world) {found : List ℚ} :
    (∃ measured, Returns (adjustmentSteps tracer surfaces rays userStep) world found measured) ↔
      ∃ own, List.Forall₂ (IsStep tracer first userStep) surfaces own ∧
        found = own ++ rays.map fun ray => rayStep ray.column userStep first.system.size := by
  have keeps := keeps_surfaceSteps (fun ray => (good ray).keeps first)
    (fun ray surface entry => (output ray surface entry).keeps first) userStep surfaces []
  have unmeasured : ∀ surface radius, ([] : List (ℤ × ℚ)).lookup surface = some radius →
      radius = footprint tracer first surface := nofun
  simp only [← returns_surfaceSteps good output unmeasured alike]
  constructor
  · intro ⟨after, returned⟩
    obtain ⟨own, _, returned, rest⟩ := Act.returns_bind.mp returned
    rw [Act.returns_get_bind, Act.returns_pure] at rest
    obtain ⟨rfl, rfl⟩ := rest
    rename_i measured
    refine ⟨own, ⟨_, measured⟩, ?_⟩
    rw [(keeps.of_returns measured alike).1]
  · rintro ⟨own, ⟨after, returned⟩, rfl⟩
    refine ⟨after, Act.returns_bind.mpr ⟨own, after, returned, ?_⟩⟩
    rw [Act.returns_get_bind, Act.returns_pure, (keeps.of_returns returned alike).1]
    exact ⟨rfl, rfl⟩

end Decided

/-- Whatever order the adjustables are listed in, each is given its own step. -/
theorem exists_steps (good : ∀ ray, (tracer.isGood ray).DecidedBy seen)
    (output : ∀ ray surface entry, (tracer.rayOutput ray surface entry).DecidedBy seen)
    (alike : World.Alike seen first world)
    {steps : Vector ℚ (surfaces.length + rays.length)} :
    (∃ found measured, Returns (adjustmentSteps tracer surfaces rays userStep) world found
        measured ∧ Adjust.steps (surfaces.length + rays.length) found = .ok steps) ↔
      Stepped tracer first userStep surfaces rays steps := by
  have split : List.ofFn steps.get =
      (List.ofFn fun j => steps.get (j.castAdd rays.length)) ++
        List.ofFn fun j => steps.get (j.natAdd surfaces.length) :=
    List.ofFn_add
  have rayOwn : (rays.map fun ray => rayStep ray.column userStep first.system.size) =
      List.ofFn fun j => rayStep (rays.get j).column userStep first.system.size :=
    (List.ofFn_getElem_eq_map rays _).symm
  simp only [steps_eq_ok, exists_and_right, exists_returns_adjustmentSteps good output alike]
  constructor
  · rintro ⟨found, ⟨own, measured, rfl⟩, same⟩
    rw [split, rayOwn] at same
    obtain ⟨rfl, rays⟩ := List.append_inj same (by simp [← measured.length_eq])
    exact ⟨(forall₂_ofFn _ _).mp measured, fun j => (congrFun (List.ofFn_injective rays) j).symm⟩
  · intro stepped
    refine ⟨_, ⟨_, (forall₂_ofFn _ _).mpr stepped.surface, rfl⟩, ?_⟩
    rw [split, rayOwn]
    simp only [stepped.ray]

end Adjust

end OpticTune
