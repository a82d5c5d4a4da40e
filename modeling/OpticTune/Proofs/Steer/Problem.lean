import OpticTune.Proofs.Adjust.Displacement
import OpticTune.Proofs.Checked
import OpticTune.Proofs.Solver.Keeps
import OpticTune.Steer.Problem

namespace OpticTune

/-! What the steering of a ray does to the tables.

Only the ray's own row is moved, and in it only the columns that are steered;
the tracer, whatever it answers, has no part in it. -/

section Row

variable {α : Type} {m n : ℕ}

/-- A row with an amount added to one entry. -/
def nudgeEntry [Add α] (row : Vector α n) (j : Fin n) (amount : α) : Vector α n :=
  row.set j (row.get j + amount) j.isLt

theorem get_nudgeEntry [Add α] (row : Vector α n) (j b : Fin n) (amount : α) :
    (nudgeEntry row j amount).get b = if b = j then row.get j + amount else row.get b := by
  by_cases here : b = j
  · subst here
    exact (Vector.getElem_set_self b.isLt).trans (if_pos rfl).symm
  · rw [if_neg here]
    exact Vector.getElem_set_ne j.isLt b.isLt fun equal => here (Fin.ext equal.symm)

theorem writtenPlace_natCast (i : Fin n) : writtenPlace n i = some i :=
  (Optics.Adjustable.writtenPlace_eq_iff ⟨by omega, by omega⟩ i).mpr rfl

theorem Table.row_add [Add α] (table : Table α m n) (i a : Fin m) (j : Fin n) (amount : α) :
    (table.add i j amount).row a =
      if a = i then nudgeEntry (table.row i) j amount else table.row a := by
  simp only [add, writtenPlace_natCast]
  by_cases same : a = i
  · subst same
    exact (Vector.getElem_set_self a.isLt).trans (if_pos rfl).symm
  · rw [if_neg same]
    exact Vector.getElem_set_ne i.isLt a.isLt fun equal => same (Fin.ext equal.symm)

/-- The column of a start value. -/
def Optics.RayAttribute.column (start : RayAttribute) : Fin columnCount :=
  ⟨start.number, by cases start <;> decide⟩

end Row

namespace Steer

open Act (Checked Keeps)
open Optics

variable {α τ : Type} {S R : ℕ}

/-- One system differs from another at most in the steered columns of one ray. -/
structure Moved (ray : Fin R) (adjusted : List RayAttribute) (before after : OpticalSystem α S R) :
    Prop where
  surfaces : after.surfaces = before.surfaces
  size : after.size = before.size
  others : ∀ other, other ≠ ray → after.rays.row other = before.rays.row other
  columns : ∀ j, (∀ start ∈ adjusted, start.column ≠ j) →
    after.rays.get ray j = before.rays.get ray j

theorem Moved.refl (ray : Fin R) (adjusted : List RayAttribute) (system : OpticalSystem α S R) :
    Moved ray adjusted system system :=
  ⟨rfl, rfl, fun _ _ => rfl, fun _ _ => rfl⟩

theorem Moved.trans {ray : Fin R} {adjusted : List RayAttribute}
    {before middle after : OpticalSystem α S R} (first : Moved ray adjusted before middle)
    (second : Moved ray adjusted middle after) : Moved ray adjusted before after where
  surfaces := second.surfaces.trans first.surfaces
  size := second.size.trans first.size
  others other apart := (second.others other apart).trans (first.others other apart)
  columns j unlisted := (second.columns j unlisted).trans (first.columns j unlisted)

section Moves

variable [Add α]

/-- A row of start values with a change added. -/
def moveRow (adjusted : List RayAttribute) (delta : List α)
    (row : Vector α RayAttribute.columnCount) : Vector α RayAttribute.columnCount :=
  (adjusted.zip delta).foldl
    (fun row (start, amount) => nudgeEntry row start.column amount) row

theorem moved_nudgeRay (ray : Fin R) (system : OpticalSystem α S R) (start : RayAttribute)
    (amount : α) :
    Moved ray [start] system (system.nudgeRay ray start.number amount) ∧
      (system.nudgeRay ray start.number amount).rays.row ray =
        nudgeEntry (system.rays.row ray) start.column amount := by
  have rows (other : Fin R) : (system.nudgeRay ray start.number amount).rays.row other =
      if other = ray then nudgeEntry (system.rays.row ray) start.column amount
      else system.rays.row other :=
    system.rays.row_add ray other start.column amount
  have row := (rows ray).trans (if_pos rfl)
  refine ⟨⟨rfl, rfl, fun other apart => (rows other).trans (if_neg apart), fun j unlisted => ?_⟩,
    row⟩
  have apart : j ≠ start.column := (unlisted start (List.mem_singleton.mpr rfl)).symm
  exact (congrArg (·.get j) row).trans ((get_nudgeEntry _ _ _ _).trans (if_neg apart))

theorem moved_moveRay {ray : Fin R} {aim : Aim α} (aimed : aim.ray = ray) (delta : List α)
    (system : OpticalSystem α S R) :
    Moved ray aim.adjusted system (moveRay aim delta system) ∧
      (moveRay aim delta system).rays.row ray =
        moveRow aim.adjusted delta (system.rays.row ray) := by
  unfold moveRay moveRow
  rw [aimed]
  induction aim.adjusted generalizing delta system with
  | nil => exact ⟨.refl _ _ _, rfl⟩
  | cons start rest ih =>
      cases delta with
      | nil => exact ⟨.refl _ _ _, rfl⟩
      | cons amount delta =>
          obtain ⟨first, row⟩ := moved_nudgeRay ray system start amount
          obtain ⟨second, rows⟩ := ih delta (system.nudgeRay ray start.number amount)
          simp only [List.zip_cons_cons, List.foldl_cons]
          rw [row] at rows
          refine ⟨⟨second.surfaces, second.size, fun other apart => ?_, fun j unlisted => ?_⟩, rows⟩
          · exact (second.others other apart).trans (first.others other apart)
          · rw [second.columns j fun start member => unlisted start (List.mem_cons_of_mem _ member)]
            exact first.columns j fun start member =>
              unlisted start (List.mem_cons.mpr (.inl (List.mem_singleton.mp member)))

end Moves

theorem keeps_inWorld {β : Type} (holds : World α τ S R → Prop)
    {action : Act α (World α τ S R) β} (keeps : Keeps holds action) :
    Keeps (fun course => holds course.world) (inWorld action) :=
  keeps.within _ _ (fun _ held => held) fun _ _ _ held => held

variable [Scalar α] {aim : Aim α} {ray : Fin R}

/-- An evaluation only asks the tracer. -/
theorem keeps_evaluate (tracer : Tracer α τ S R) (aim : Aim α)
    {holds : OpticalSystem α S R → Prop} :
    Keeps (fun course => holds course.world.system) (evaluate tracer aim) := by
  have asks {β : Type} (query : Query α τ S R β) :
      Keeps (fun course : Course α τ S R => holds course.world.system)
        (inWorld (World.ask query)) :=
    keeps_inWorld (fun world => holds world.system) fun _ held => held
  have outputs (goals : List TraceAttribute) :
      Keeps (fun course : Course α τ S R => holds course.world.system)
        (goals.mapM fun goal =>
          inWorld (World.ask (tracer.rayOutput aim.ray ((S : ℤ) - 1) goal))) := by
    induction goals with
    | nil => exact Act.keeps_pure _
    | cons goal rest ih =>
        rw [List.mapM_cons]
        exact (asks _).bind fun _ => ih.bind fun _ => Act.keeps_pure _
  refine (asks (tracer.runOneRay aim.ray)).bind fun traced => ?_
  split
  · refine (outputs aim.goals).bind fun _ => (Act.keeps_modify ?_).bind fun _ => Act.keeps_pure _
    exact fun _ held => held
  · refine (Act.keeps_modify ?_).bind fun _ => Act.keeps_pure _
    exact fun _ held => held

theorem kept_problem (tracer : Tracer α τ S R) (aimed : aim.ray = ray)
    (start : OpticalSystem α S R) :
    (problem tracer aim).KeptBy fun course => Moved ray aim.adjusted start course.world.system where
  apply delta := by
    refine keeps_inWorld (fun world => Moved ray aim.adjusted start world.system) ?_
    exact fun world held => held.trans (moved_moveRay aimed delta world.system).1
  evaluate := keeps_evaluate tracer aim
  residuals _ held := held

/-- Of a ray whose number is not too large every start can be moved. -/
theorem isCellWritable_number (place : ℤ) (column : RayAttribute) :
    isCellWritable R RayAttribute.columnCount place column.number = isWritable R place := by
  have writable : isWritable RayAttribute.columnCount column.number = true := by
    cases column <;> decide
  rw [isCellWritable, writable, Bool.and_true]

/-- A change of a ray that can be moved is the one of the problem, and any other is
refused. -/
theorem checked_change (tracer : Tracer α τ S R) (aim : Aim α) (delta : List α) :
    Checked (checkedChange aim delta)
      ((aim.adjusted.zip delta).all fun _ => isWritable R aim.ray) .tooFar
      fun course => ((problem tracer aim).apply delta course).state := by
  have moves := Act.checked_forM (fun entry : RayAttribute × α =>
    (nudges_ray (S := S) (R := R)).checked aim.ray entry.1.number entry.2) (aim.adjusted.zip delta)
  simp only [isCellWritable_number] at moves
  exact moves.within.within

end Steer

end OpticTune
