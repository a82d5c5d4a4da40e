import OpticTune.Proofs.Adjust.Bench
import OpticTune.Proofs.Adjust.Displacement
import OpticTune.Proofs.Solver.Uses

namespace OpticTune

open Act (Keeps)
open Optics
open Solver (Measured Problem Use)

/-! Orientations are taken over in time.

The tracer holds orientations of its own, which follow from the angles of the
surfaces and are taken over only when it is told. A diary kept on the bench tells
what it was asked for and in between which changes were made: whenever rays are
traced, the angles are those that were taken over last.
-/

variable {α τ β : Type} {S R : ℕ}

namespace Optics

inductive Sighting (α : Type) (S R : ℕ) where
  | traced (system : OpticalSystem α S R)
  | oriented (system : OpticalSystem α S R)
  | changed (delta : List α) (before after : OpticalSystem α S R)

def Sighting.isTraced : Sighting α S R → Bool
  | traced _ => true
  | _ => false

/-- A bench with its diary, the earliest entry first. -/
structure Noted (α τ : Type) (S R : ℕ) where
  bench : τ
  notes : List (Sighting α S R)

def Query.noted (query : Query α τ S R β)
    (sight : OpticalSystem α S R → List (Sighting α S R)) : Query α (Noted α τ S R) S R β :=
  fun system noted =>
    let answer := query system noted.bench
    (answer.1, { bench := answer.2, notes := noted.notes ++ sight system })

def Tracer.noted (tracer : Tracer α τ S R) : Tracer α (Noted α τ S R) S R where
  buildRays all := (tracer.buildRays all).noted fun system => [.traced system]
  isGood ray := (tracer.isGood ray).noted fun _ => []
  runOneRay ray := (tracer.runOneRay ray).noted fun system => [.traced system]
  rayOutput ray surface entry := (tracer.rayOutput ray surface entry).noted fun _ => []
  updateOrientations := tracer.updateOrientations.noted fun system => [.oriented system]

def ResidualBuilder.noted (builder : ResidualBuilder α τ S R) :
    ResidualBuilder α (Noted α τ S R) S R where
  goalCount := builder.goalCount.noted fun _ => []
  pointCount := builder.pointCount.noted fun _ => []
  residuals := builder.residuals.noted fun _ => []
  sos := builder.sos.noted fun _ => []
  rms := builder.rms.noted fun _ => []
  compute := builder.compute.noted fun _ => []

/-- TILT, PITCH and ROLL are the same at every surface. -/
def SameAngles (one other : OpticalSystem α S R) : Prop :=
  ∀ (i : Fin S) (c : Fin Surface.columnCount), (c : ℤ) ∈ Surface.angles →
    one.surfaces.get i c = other.surfaces.get i c

/-- The tables whose orientations were taken over last. -/
def lastOriented : OpticalSystem α S R → List (Sighting α S R) → OpticalSystem α S R
  | last, [] => last
  | _, .oriented system :: rest => lastOriented system rest
  | last, .traced _ :: rest => lastOriented last rest
  | last, .changed _ _ _ :: rest => lastOriented last rest

/-- Whenever rays are traced, the angles are those taken over last. -/
def Fresh : OpticalSystem α S R → List (Sighting α S R) → Prop
  | _, [] => True
  | _, .oriented system :: rest => Fresh system rest
  | last, .traced system :: rest => SameAngles system last ∧ Fresh last rest
  | last, .changed _ _ _ :: rest => Fresh last rest

theorem lastOriented_append (last : OpticalSystem α S R) (notes more : List (Sighting α S R)) :
    lastOriented last (notes ++ more) = lastOriented (lastOriented last notes) more := by
  induction notes generalizing last with
  | nil => rfl
  | cons sighting rest ih =>
      cases sighting with
      | traced | oriented | changed => exact ih _

theorem fresh_append (last : OpticalSystem α S R) (notes more : List (Sighting α S R)) :
    Fresh last (notes ++ more) ↔ Fresh last notes ∧ Fresh (lastOriented last notes) more := by
  induction notes generalizing last with
  | nil => exact (and_iff_right trivial).symm
  | cons sighting rest ih =>
      cases sighting with
      | traced system => exact (and_congr_right fun _ => ih last).trans and_assoc.symm
      | oriented | changed => exact ih _

namespace SameAngles

variable {one other third : OpticalSystem α S R}

theorem refl (system : OpticalSystem α S R) : SameAngles system system :=
  fun _ _ _ => rfl

theorem trans (first : SameAngles one other) (second : SameAngles other third) :
    SameAngles one third :=
  fun i c angle => (first i c angle).trans (second i c angle)

theorem foldl {step : OpticalSystem α S R → β → OpticalSystem α S R} {entries : List β}
    (each : ∀ entry ∈ entries, ∀ system, SameAngles (step system entry) system)
    (system : OpticalSystem α S R) : SameAngles (entries.foldl step system) system := by
  induction entries generalizing system with
  | nil => exact refl system
  | cons entry rest ih =>
      have further := ih (fun entry member => each entry (List.mem_cons_of_mem _ member))
        (step system entry)
      exact further.trans (each entry List.mem_cons_self system)

end SameAngles

end Optics

theorem Table.get_add_other_column [Add α] {m n : ℕ} (table : Table α m n) (i : ℤ) {j : ℤ}
    (inside : 0 ≤ j ∧ j < n) (amount : α) (a : Fin m) {b : Fin n} (other : (b : ℤ) ≠ j) :
    (table.add i j amount).get a b = table.get a b := by
  unfold add
  cases writtenPlace m i with
  | none => rfl
  | some row =>
      cases written : writtenPlace n j with
      | none => rfl
      | some column =>
          have named := (Adjustable.writtenPlace_eq_iff inside column).mp written
          have elsewhere : ¬ (a = row ∧ b = column) := fun same => other (same.2 ▸ named)
          exact (table.get_set row a column b _).trans (if_neg elsewhere)

namespace Adjust

section Moves

variable [Scalar α]

theorem sameAngles_nudgeSurface (system : OpticalSystem α S R) (record : ℤ) {column : ℤ}
    (inside : 0 ≤ column ∧ column < Surface.columnCount) (other : column ∉ Surface.angles)
    (amount : α) : SameAngles (system.nudgeSurface record column amount) system :=
  fun i _ angle => system.surfaces.get_add_other_column record inside amount i
    fun same => other (same ▸ angle)

/-- Neither the links nor the ASPHER that a SHAPE takes along turn a surface. -/
theorem sameAngles_moveSurface (system : OpticalSystem α S R) {adjustable : Adjustable}
    (inside : 0 ≤ adjustable.column ∧ adjustable.column < Surface.columnCount)
    (other : adjustable.column ∉ Surface.angles) (amount : α) :
    SameAngles (moveSurface system adjustable amount) system := by
  have moved := sameAngles_nudgeSurface system adjustable.record inside other amount
  have linked (link : Link) (_ : link ∈ adjustable.links) (system : OpticalSystem α S R) :
      SameAngles (system.nudgeSurface link.record adjustable.column (carried link amount)) system :=
    sameAngles_nudgeSurface system link.record inside other (carried link amount)
  have ganged := (SameAngles.foldl linked _).trans moved
  unfold moveSurface
  simp only
  split
  · exact (sameAngles_nudgeSurface _ _ (by decide) (by decide) _).trans ganged
  · exact ganged

theorem sameAngles_moveSurfaces {surfaces : List Adjustable}
    (inside : ∀ adjustable ∈ surfaces,
      0 ≤ adjustable.column ∧ adjustable.column < Surface.columnCount)
    (still : movesAngles surfaces = false) (delta : List α) (system : OpticalSystem α S R) :
    SameAngles (moveSurfaces surfaces delta system) system := by
  refine SameAngles.foldl (fun entry member system => ?_) system
  have adjusted := List.of_mem_zip member
  have other : entry.1.column ∉ Surface.angles := by
    simpa using List.any_eq_false.mp still entry.1 adjusted.1
  exact sameAngles_moveSurface system (inside _ adjusted.1) other entry.2

theorem surfaces_moveRays (rays : List Adjustable) (delta : List α) (system : OpticalSystem α S R) :
    (moveRays rays delta system).surfaces = system.surfaces := by
  have ray (adjustable : Adjustable) (amount : α) (system : OpticalSystem α S R) :
      (moveRay system adjustable amount).surfaces = system.surfaces := by
    obtain ⟨column, record, links⟩ := adjustable
    have linked (system : OpticalSystem α S R) : (links.foldl
        (fun system link => system.nudgeRay link.record column (carried link amount))
          system).surfaces = system.surfaces := by
      induction links generalizing system with
      | nil => rfl
      | cons link rest ih => exact ih _
    exact linked _
  unfold moveRays
  generalize rays.zip delta = entries
  induction entries generalizing system with
  | nil => rfl
  | cons entry rest ih => exact (ih _).trans (ray entry.1 entry.2 system)

/-- What the diary tells of one change. Orientations are taken over at most once,
when every surface has moved. -/
def changeNotes (surfaces rays : List Adjustable) (delta : List α)
    (before : OpticalSystem α S R) : List (Sighting α S R) :=
  (if movesAngles surfaces then [.oriented (moveSurfaces surfaces delta before)] else []) ++
    [.changed delta before (shifted surfaces rays delta before)]

section Noted

variable (tracer : Tracer α τ S R) (builder : ResidualBuilder α τ S R)
  (surfaces rays : List Adjustable) (goodCount : ℕ)

/-- Every change is entered in the diary once it is made. -/
def noting (delta : List α) (change : Act α (World α (Noted α τ S R) S R) Unit) :
    Act α (World α (Noted α τ S R) S R) Unit := fun world =>
  let changed := change world
  { changed with state := { changed.state with
      bench.notes := changed.state.bench.notes ++
        [.changed delta world.system changed.state.system] } }

def notedProblem : Problem α (Store α (Noted α τ S R) S R) :=
  { problem tracer.noted builder.noted surfaces rays goodCount with
    apply := fun delta => inWorld (noting delta (apply tracer.noted surfaces rays delta)) }

end Noted

/-- A store without its diary. -/
def Store.erased (store : Store α (Noted α τ S R) S R) : Store α τ S R :=
  { store with world := { system := store.world.system, bench := store.world.bench.bench } }

def Store.noted (store : Store α τ S R) : Store α (Noted α τ S R) S R :=
  { store with world := { system := store.world.system, bench := ⟨store.world.bench, []⟩ } }

section Runs

variable {tracer : Tracer α τ S R} {builder : ResidualBuilder α τ S R}
  {surfaces rays : List Adjustable} {goodCount : ℕ}

theorem state_apply_noted (delta : List α) (world : World α (Noted α τ S R) S R) :
    (noting delta (apply tracer.noted surfaces rays delta) world).state =
      { system := shifted surfaces rays delta world.system
        bench := {
          bench := (apply tracer surfaces rays delta ⟨world.system, world.bench.bench⟩).state.bench
          notes := world.bench.notes ++ changeNotes surfaces rays delta world.system } } := by
  simp only [noting, system_apply, bench_apply, changeNotes]
  cases movesAngles surfaces with
  | true => simp [Tracer.noted, Query.noted]
  | false => simp

/-- The diary changes nothing else. -/
theorem agrees_noted :
    (notedProblem tracer builder surfaces rays goodCount).Agrees
      (problem tracer builder surfaces rays goodCount) fun noted plain => noted.erased = plain := by
  have asks {β : Type} (query : Query α τ S R β)
      (sight : OpticalSystem α S R → List (Sighting α S R)) :
      Act.Agrees (fun (noted : Store α (Noted α τ S R) S R) plain => noted.erased = plain)
        (inWorld (World.ask (query.noted sight))) (inWorld (World.ask query)) := by
    intro noted plain erased
    cases erased
    exact ⟨rfl, rfl⟩
  constructor
  · intro delta noted plain erased
    cases erased
    refine ⟨rfl, ?_⟩
    change Store.erased { noted with
      world := (noting delta (apply tracer.noted surfaces rays delta) noted.world).state } =
      { noted.erased with world := (apply tracer surfaces rays delta noted.erased.world).state }
    rw [state_apply_noted]
    simp only [Store.erased, Store.mk.injEq, and_true]
    exact congrArg (World.mk · _) (system_apply tracer delta noted.erased.world).symm
  · refine (asks (tracer.buildRays false) _).bind fun traced => ?_
    split
    · exact Act.Agrees.bind (fun _ _ erased => ⟨rfl, erased⟩) fun _ => Act.agrees_pure _
    · refine (asks builder.compute _).bind fun _ => (asks builder.sos _).bind fun sos =>
        (asks builder.rms _).bind fun rms => ?_
      refine (Act.agrees_modify ?_).bind fun _ => Act.agrees_pure _
      intro noted plain erased
      cases erased
      rfl
  · exact asks builder.residuals _

/-- What the diary tells agrees with the tables at every moment. -/
structure Coherent (surfaces rays : List Adjustable) (start : OpticalSystem α S R)
    (world : World α (Noted α τ S R) S R) : Prop where
  last : SameAngles world.system (lastOriented start world.bench.notes)
  fresh : Fresh start world.bench.notes
  changes : ∃ changes : List (List α × OpticalSystem α S R),
    world.bench.notes.filter (fun sighting => !sighting.isTraced) =
      changes.flatMap fun (delta, before) => changeNotes surfaces rays delta before

namespace Coherent

variable {start : OpticalSystem α S R} {world : World α (Noted α τ S R) S R}

theorem asked {β : Type} (query : Query α τ S R β) (coherent : Coherent surfaces rays start world) :
    Coherent surfaces rays start (World.ask (query.noted fun _ => []) world).state := by
  have notes : (World.ask (query.noted fun _ => []) world).state.bench.notes = world.bench.notes :=
    List.append_nil _
  exact ⟨notes ▸ coherent.last, notes ▸ coherent.fresh, notes ▸ coherent.changes⟩

theorem traced {β : Type} (query : Query α τ S R β)
    (coherent : Coherent surfaces rays start world) :
    Coherent surfaces rays start
      (World.ask (query.noted fun system => [.traced system]) world).state where
  last := by
    change SameAngles world.system
      (lastOriented start (world.bench.notes ++ [.traced world.system]))
    rw [lastOriented_append]
    exact coherent.last
  fresh := (fresh_append _ _ _).mpr ⟨coherent.fresh, coherent.last, trivial⟩
  changes := by
    obtain ⟨changes, told⟩ := coherent.changes
    exact ⟨changes, (List.filter_append _ _).trans ((List.append_nil _).trans told)⟩

theorem changed (inside : ∀ adjustable ∈ surfaces,
      0 ≤ adjustable.column ∧ adjustable.column < Surface.columnCount)
    (delta : List α) (coherent : Coherent surfaces rays start world) :
    Coherent surfaces rays start
      (noting delta (apply tracer.noted surfaces rays delta) world).state := by
  rw [state_apply_noted]
  have rays_still : SameAngles (shifted surfaces rays delta world.system)
      (moveSurfaces surfaces delta world.system) := by
    intro i c _
    rw [shifted, surfaces_moveRays]
  constructor
  · simp only [lastOriented_append, changeNotes]
    cases turned : movesAngles surfaces with
    | true => exact rays_still
    | false =>
        exact rays_still.trans ((sameAngles_moveSurfaces inside turned _ _).trans coherent.last)
  · refine (fresh_append _ _ _).mpr ⟨coherent.fresh, ?_⟩
    unfold changeNotes
    split <;> exact trivial
  · obtain ⟨changes, told⟩ := coherent.changes
    refine ⟨changes ++ [(delta, world.system)], ?_⟩
    have whole : (changeNotes surfaces rays delta world.system).filter
        (fun sighting => !sighting.isTraced) = changeNotes surfaces rays delta world.system := by
      unfold changeNotes
      split <;> rfl
    rw [List.filter_append, told, whole, List.flatMap_append, List.flatMap_singleton]

end Coherent

theorem kept_noted (inside : ∀ adjustable ∈ surfaces,
      0 ≤ adjustable.column ∧ adjustable.column < Surface.columnCount)
    (start : OpticalSystem α S R) :
    (notedProblem tracer builder surfaces rays goodCount).KeptBy
      fun store => Coherent surfaces rays start store.world where
  apply delta := keeps_inWorld fun _ coherent => coherent.changed inside delta
  evaluate := by
    have asks {β : Type} (query : Query α τ S R β) :
        Keeps (fun store : Store α (Noted α τ S R) S R => Coherent surfaces rays start store.world)
          (inWorld (World.ask (query.noted fun _ => []))) :=
      keeps_inWorld fun _ coherent => coherent.asked query
    have traces : Keeps
        (fun store : Store α (Noted α τ S R) S R => Coherent surfaces rays start store.world)
        (inWorld (World.ask ((tracer.buildRays false).noted fun system => [.traced system]))) :=
      keeps_inWorld fun _ coherent => coherent.traced _
    refine traces.bind fun traced => ?_
    split
    · exact (Act.keeps_report _).bind fun _ => Act.keeps_pure _
    · refine (asks builder.compute).bind fun _ => (asks builder.sos).bind fun sos =>
        (asks builder.rms).bind fun rms => ?_
      refine (Act.keeps_modify ?_).bind fun _ => Act.keeps_pure _
      exact fun _ coherent => coherent
  residuals := keeps_inWorld fun _ coherent => coherent.asked builder.residuals

variable (tracer builder rays goodCount)

/-- However an adjustment is used, the rays are traced with the orientations of the
tables: the angles are those taken over last, be it at the start. Orientations are
taken over once for every change if an angle is adjusted, when all its surface cells
have moved, and at no other time. -/
theorem orientations_fresh
    (inside : ∀ adjustable ∈ surfaces,
      0 ≤ adjustable.column ∧ adjustable.column < Surface.columnCount)
    {m n : ℕ} (steps : Vector α n) (uses : List (Use α))
    (start : Measured α (Store α τ S R) m n) :
    let begun : Measured α (Store α (Noted α τ S R) S R) m n :=
      { jacobian := start.jacobian, problem := start.problem.noted }
    let noted :=
      ((notedProblem tracer builder surfaces rays goodCount).useAll steps uses begun).state
    let plain := ((problem tracer builder surfaces rays goodCount).useAll steps uses start).state
    let notes := noted.problem.world.bench.notes
    let first := start.problem.world.system
    plain = { jacobian := noted.jacobian, problem := noted.problem.erased } ∧
    (∀ earlier system later, notes = earlier ++ .traced system :: later →
      SameAngles system (lastOriented first earlier)) ∧
    ∃ changes : List (List α × OpticalSystem α S R),
      notes.filter (fun sighting => !sighting.isTraced) =
        changes.flatMap fun (delta, before) => changeNotes surfaces rays delta before := by
  intro begun noted plain notes first
  have related : Measured.Related (fun noted plain => noted.erased = plain) begun start :=
    ⟨rfl, rfl⟩
  obtain ⟨_, jacobian, erased⟩ := agrees_noted.useAll steps uses related
  have initial : Coherent surfaces rays first begun.problem.world :=
    ⟨.refl _, trivial, [], rfl⟩
  have coherent : Coherent surfaces rays first noted.problem.world :=
    (kept_noted inside first).useAll steps uses initial
  refine ⟨?_, ?_, coherent.changes⟩
  · exact (congrArg₂ Measured.mk jacobian erased).symm
  · intro earlier system later split
    have fresh := coherent.fresh
    rw [show noted.problem.world.bench.notes = notes from rfl, split, fresh_append] at fresh
    exact fresh.2.1

end Runs

end Moves

/-- TILT of the first of two surfaces, which takes the second the other way. -/
def gangedTilt : Adjustable :=
  ⟨3, 0, [⟨1, -1⟩]⟩

theorem orientations_fresh_edge :
    let start : Measured ℚ (Store ℚ (Seen 2 1) 2 1) 1 2 :=
      { jacobian := Table.zeros, problem := Store.initial (edgeWorld 1) }
    let begun : Measured ℚ (Store ℚ (Noted ℚ (Seen 2 1) 2 1) 2 1) 1 2 :=
      { jacobian := start.jacobian, problem := start.problem.noted }
    let uses : List (Use ℚ) := [.nudge [1, 1 / 4]]
    let noted := ((notedProblem edgeTracer edge.builder [gangedTilt] [⟨3, 0, []⟩] 1).useAll
      #v[1 / 8, 1 / 8] uses begun).state
    let notes := noted.problem.world.bench.notes
    notes.map Sighting.isTraced = [false, false, true] ∧
    ∀ earlier system later, notes = earlier ++ .traced system :: later →
      SameAngles system (lastOriented (edgeWorld 1).system earlier) := by
  intro start begun uses noted notes
  have inside : ∀ adjustable ∈ [gangedTilt],
      0 ≤ adjustable.column ∧ adjustable.column < Surface.columnCount := by decide
  obtain ⟨_, fresh, _⟩ :=
    orientations_fresh edgeTracer edge.builder [⟨3, 0, []⟩] 1 inside #v[1 / 8, 1 / 8] uses start
  exact ⟨by decide +kernel, fresh⟩

end Adjust

end OpticTune
