import Mathlib.Algebra.Order.Ring.Rat
import OpticTune.Proofs.Steer.Alike
import OpticTune.Proofs.Steer.Steers

namespace OpticTune.Steer

open Act (Returns)
open Optics

/-! Every ray is steered as if it were alone.

Under a law for every ray nothing gets from one turn into another: not through
the table, of which a turn moves the one row only, nor through what the tracer
remembers, nor through the fit, which starts afresh.
-/

variable {α τ υ : Type} {S R Q : ℕ}

/-- The system with one ray of the table and no other. -/
def only (system : OpticalSystem α S R) (ray : Fin R) : OpticalSystem α S 1 where
  surfaces := system.surfaces
  rays := ⟨#v[system.rays.row ray]⟩
  size := system.size

variable [Scalar α]

section Lawful

variable {pass : Pass α R} {tracer : Tracer α τ S R} {law : Fin R → Law α S}
  (governed : Governed tracer law) {ray : Fin R} {before after : World α τ S R}
  {verdict : Option Bool}

include governed

theorem Turn.isSome_verdict (turn : Turn pass tracer ray before verdict after) :
    verdict.isSome = ((law ray).seen ray before.system).isSome := by
  cases turn with
  | passedOver answered => exact answered.symm.trans (governed.run ray _ _)
  | steered answered _ _ => exact answered.symm.trans (governed.run ray _ _)

theorem turn_of_not_seen (unseen : (law ray).seen ray before.system = none) :
    ∃ after, Turn pass tracer ray before none after :=
  ⟨_, .passedOver ((governed.run ray _ _).trans (congrArg Option.isSome unseen))⟩

/-- A ray that does not trace stays as it is. -/
theorem Turn.row_of_not_seen (turn : Turn pass tracer ray before verdict after)
    (unseen : (law ray).seen ray before.system = none) :
    verdict = none ∧ after.system.rays.row ray = before.system.rays.row ray := by
  cases turn with
  | passedOver => exact ⟨rfl, rfl⟩
  | steered answered _ _ =>
      rw [governed.run, unseen] at answered
      exact nomatch answered

end Lawful

section Alike

variable {tracer : Tracer α τ S R} {law : Fin R → Law α S} {other : Tracer α υ S Q}
  {otherLaw : Fin Q → Law α S} {builder : Option (ResidualBuilder α τ S R)}
  {otherBuilder : Option (ResidualBuilder α υ S Q)} {adjusted : List RayAttribute}
  {goals : List TraceAttribute} {goalValues : Vector (List α) R} {otherValues : Vector (List α) Q}
  {maxIterations : ℤ} {before planned after : World α τ S R} {start ready final : World α υ S Q}
  {pass : Pass α R} {second : Pass α Q} {verdict : Fin R → Option Bool}
  {outcome : Fin Q → Option Bool} {summary report : Summary α} {i : Fin R} {j : Fin Q}

theorem askAlike_of_plans
    (made : Returns (plan tracer adjusted goals goalValues.toList maxIterations) before pass planned)
    (again : Returns (plan other adjusted goals otherValues.toList maxIterations) start second ready)
    (sameGoals : goalValues.get i = otherValues.get j) : AskAlike i j pass second := by
  obtain ⟨-, -, rows, config, usual, -, rfl, -⟩ := returns_plan.mp made
  obtain ⟨-, -, otherRows, otherConfig, otherUsual, -, rfl, -⟩ := returns_plan.mp again
  refine ⟨rfl, rfl, ?_, Except.ok.inj (usual.symm.trans otherUsual), rfl⟩
  exact (get_exactVector rows i).trans (sameGoals.trans (get_exactVector otherRows j).symm)

/-- The turn of a ray tells those of all rays that are alike. -/
theorem Steers.exists_turn (governed : Governed tracer law) (ruled : Governed other otherLaw)
    (steers : Steers tracer builder adjusted goals goalValues.toList maxIterations before verdict
      summary after)
    (made : Returns (plan other adjusted goals otherValues.toList maxIterations) start second ready)
    (same : law i = otherLaw j) (sameGoals : goalValues.get i = otherValues.get j)
    {begin : World α υ S Q} (surfaces : before.system.surfaces = begin.system.surfaces)
    (row : before.system.rays.row i = begin.system.rays.row j) :
    ∃ ended, Turn second other j begin (verdict i) ended ∧
      after.system.rays.row i = ended.system.rays.row j := by
  obtain ⟨pass, planned, middle, _, remade, visited, -, afterIs, -⟩ := steers.visited
  obtain ⟨first, finish, visited⟩ := visited i
  have planned_eq := system_of_returns_plan remade
  have sameSurfaces : first.system.surfaces = begin.system.surfaces := by
    rw [visited.surfaces, planned_eq, surfaces]
  have sameRow : first.system.rays.row i = begin.system.rays.row j := by
    rw [visited.row, planned_eq, row]
  obtain ⟨ended, turn, rows⟩ := visited.turn.alike governed ruled same
    (askAlike_of_plans remade made sameGoals) sameSurfaces sameRow
  exact ⟨ended, turn, by rw [afterIs, visited.finalRow, rows]⟩

/-- Whatever else two tables hold, rays that are alike in them fare alike. -/
theorem Steers.alike (governed : Governed tracer law) (ruled : Governed other otherLaw)
    (steers : Steers tracer builder adjusted goals goalValues.toList maxIterations before verdict
      summary after)
    (again : Steers other otherBuilder adjusted goals otherValues.toList maxIterations start outcome
      report final)
    (surfaces : before.system.surfaces = start.system.surfaces) (same : law i = otherLaw j)
    (row : before.system.rays.row i = start.system.rays.row j)
    (sameGoals : goalValues.get i = otherValues.get j) :
    verdict i = outcome j ∧ after.system.rays.row i = final.system.rays.row j := by
  obtain ⟨second, ready, between, _, made, visited, -, finalIs, -⟩ := again.visited
  obtain ⟨begin, finish, visited⟩ := visited j
  have ready_eq := system_of_returns_plan made
  obtain ⟨ended, turn, rows⟩ := steers.exists_turn governed ruled made same sameGoals
    (by rw [visited.surfaces, ready_eq, surfaces]) (by rw [visited.row, ready_eq, row])
  obtain ⟨verdicts, rfl⟩ := turn.unique visited.turn
  exact ⟨verdicts, by rw [finalIs, visited.finalRow, rows]⟩

theorem exists_plan {values : List (List α)}
    (made : Returns (plan tracer adjusted goals values maxIterations) before pass planned)
    (counts : Counts other otherLaw) (start : World α υ S Q)
    (seen : ((otherLaw j).seen j start.system).isSome) (otherValues : Vector (List α) Q) :
    ∃ second ready,
      Returns (plan other adjusted goals otherValues.toList maxIterations) start second ready := by
  obtain ⟨adjustables, aimed, -, config, usual, -⟩ := returns_plan.mp made
  have available : 1 ≤ (World.ask (other.buildRays true) start).value := by
    rw [World.value_ask, counts]
    exact List.countP_pos_iff.mpr ⟨j, List.mem_finRange j, seen⟩
  exact ⟨_, _, returns_plan.mpr
    ⟨adjustables, aimed, otherValues.length_toList, config, usual, available, rfl, rfl⟩⟩

end Alike

section Alone

variable {tracer : Tracer α τ S R} {law : Fin R → Law α S} {υ : Fin R → Type}
  {solo : ∀ ray, Tracer α (υ ray) S 1} {builder : Option (ResidualBuilder α τ S R)}
  {adjusted : List RayAttribute} {goals : List TraceAttribute}
  {goalValues : Vector (List α) R} {maxIterations : ℤ} {before after : World α τ S R}
  {verdict : Fin R → Option Bool} {summary : Summary α}

/-- The counts of a pass, and one ray of it. -/
theorem Steers.counts (governed : Governed tracer law) (counts : Counts tracer law)
    {values : List (List α)}
    (steers : Steers tracer builder adjusted goals values maxIterations before verdict summary
      after) :
    summary.rayCount = R ∧
      summary.startCount =
        (Finset.univ.filter fun ray => ((law ray).seen ray before.system).isSome).card ∧
      summary.adjustedCount = (Finset.univ.filter fun ray => verdict ray = some true).card ∧
      summary.failedCount = (Finset.univ.filter fun ray => verdict ray = some false).card ∧
      ∀ ray, (verdict ray).isSome = ((law ray).seen ray before.system).isSome := by
  obtain ⟨pass, planned, middle, rms, made, visited, -, -, rfl⟩ := steers.visited
  refine ⟨rfl, ?_, rfl, rfl, fun ray => ?_⟩
  · obtain ⟨-, -, -, -, -, -, rfl, -⟩ := returns_plan.mp made
    rw [Pass.summary, World.value_ask, counts, countP_finRange]
  · obtain ⟨start, finish, visited⟩ := visited ray
    rw [visited.turn.isSome_verdict governed, Law.seen, visited.surfaces, visited.row,
      system_of_returns_plan made, Law.seen]

/-- The pass over one ray alone, on a bench of its own. -/
def Alone (solo : ∀ ray, Tracer α (υ ray) S 1)
    (builder : ∀ ray, Option (ResidualBuilder α (υ ray) S 1)) (adjusted : List RayAttribute)
    (goals : List TraceAttribute) (goalValues : Vector (List α) R) (maxIterations : ℤ)
    (system : OpticalSystem α S R) (bench : ∀ ray, υ ray) (ray : Fin R) :
    (Fin 1 → Option Bool) → Summary α → World α (υ ray) S 1 → Prop :=
  Steers (solo ray) (builder ray) adjusted goals [goalValues.get ray] maxIterations
    ⟨only system ray, bench ray⟩

/-- One row of goals as a table. -/
theorem steers_of_alone {soloBuilder : ∀ ray, Option (ResidualBuilder α (υ ray) S 1)}
    {system : OpticalSystem α S R} {bench : ∀ ray, υ ray} {ray : Fin R}
    {outcome : Fin 1 → Option Bool} {lone : Summary α} {final : World α (υ ray) S 1}
    (alone : Alone solo soloBuilder adjusted goals goalValues maxIterations system bench ray outcome
      lone final) :
    Steers (solo ray) (soloBuilder ray) adjusted goals
      (#v[goalValues.get ray] : Vector (List α) 1).toList maxIterations ⟨only system ray, bench ray⟩
      outcome lone final :=
  alone

theorem Steers.exists_alone {υ : Type} {solo : Tracer α υ S 1} {ray : Fin R}
    (governed : Governed tracer law) (ruled : Governed solo fun _ => law ray)
    (counts : Counts solo fun _ => law ray)
    (steers : Steers tracer builder adjusted goals goalValues.toList maxIterations before verdict
      summary after) (seen : ((law ray).seen ray before.system).isSome)
    (soloBuilder : Option (ResidualBuilder α υ S 1)) (bench : υ) :
    ∃ outcome lone final, Steers solo soloBuilder adjusted goals [goalValues.get ray] maxIterations
      ⟨only before.system ray, bench⟩ outcome lone final := by
  obtain ⟨pass, planned, -, -, made, -⟩ := steers.visited
  obtain ⟨second, ready, remade⟩ := exists_plan (j := 0) made counts ⟨only before.system ray, bench⟩
    seen #v[goalValues.get ray]
  refine exists_steers remade (fun place start surfaces row => ?_) soloBuilder
  obtain rfl : place = 0 := Subsingleton.elim _ _
  obtain ⟨ended, turn, -⟩ := steers.exists_turn (i := ray) (j := 0) governed ruled remade rfl rfl
    surfaces.symm row.symm
  exact ⟨_, ended, turn⟩

/-- Where every ray that traces can be steered alone, the table can be. -/
theorem exists_steers_of_alone (governed : Governed tracer law) (counts : Counts tracer law)
    (soloGoverned : ∀ ray, Governed (solo ray) fun _ => law ray)
    {soloBuilder : ∀ ray, Option (ResidualBuilder α (υ ray) S 1)} {bench : ∀ ray, υ ray}
    (traces : ∃ ray, ((law ray).seen ray before.system).isSome)
    (each : ∀ ray, ((law ray).seen ray before.system).isSome → ∃ outcome lone final,
      Alone solo soloBuilder adjusted goals goalValues maxIterations before.system bench ray outcome
        lone final)
    (builder : Option (ResidualBuilder α τ S R)) :
    ∃ verdict summary after,
      Steers tracer builder adjusted goals goalValues.toList maxIterations before verdict summary
        after := by
  obtain ⟨first, seen⟩ := traces
  obtain ⟨_, _, _, steers⟩ := each first seen
  obtain ⟨_, _, -, -, made, -⟩ := steers.visited
  obtain ⟨pass, planned, made⟩ := exists_plan made counts before seen goalValues
  refine exists_steers made (fun ray start surfaces row => ?_) builder
  have same : (law ray).seen ray start.system = (law ray).seen ray before.system := by
    rw [Law.seen, surfaces, row, Law.seen]
  cases seen : (law ray).seen ray before.system with
  | none => exact ⟨none, turn_of_not_seen governed (same.trans seen)⟩
  | some outputs =>
      obtain ⟨outcome, lone, final, steers⟩ := each ray (congrArg Option.isSome seen)
      obtain ⟨ended, turn, -⟩ := (steers_of_alone steers).exists_turn (i := 0) (j := ray)
        (soloGoverned ray) governed made rfl rfl surfaces.symm row.symm
      exact ⟨_, ended, turn⟩

theorem Steers.row_of_not_seen (governed : Governed tracer law) {values : List (List α)}
    (steers : Steers tracer builder adjusted goals values maxIterations before verdict summary
      after) {ray : Fin R} (unseen : (law ray).seen ray before.system = none) :
    verdict ray = none ∧ after.system.rays.row ray = before.system.rays.row ray := by
  obtain ⟨pass, planned, middle, -, made, each, -, afterIs, -⟩ := steers.visited
  obtain ⟨start, finish, visited⟩ := each ray
  have planned_eq := system_of_returns_plan made
  have still : (law ray).seen ray start.system = none := by
    rw [Law.seen, visited.surfaces, visited.row, planned_eq]
    exact unseen
  obtain ⟨verdicts, row⟩ := visited.turn.row_of_not_seen governed still
  exact ⟨verdicts, by rw [afterIs, visited.finalRow, row, visited.row, planned_eq]⟩

/-- A pass needs a ray that traces. -/
theorem Steers.exists_seen (counts : Counts tracer law) {values : List (List α)}
    (steers : Steers tracer builder adjusted goals values maxIterations before verdict summary
      after) : ∃ ray, ((law ray).seen ray before.system).isSome := by
  obtain ⟨_, _, -, -, made, -⟩ := steers.visited
  obtain ⟨-, -, -, -, -, available, -, -⟩ := returns_plan.mp made
  rw [World.value_ask, counts] at available
  obtain ⟨ray, -, seen⟩ := List.countP_pos_iff.mp available
  exact ⟨ray, seen⟩

theorem card_filter_one (holds : Fin 1 → Prop) [DecidablePred holds] :
    (Finset.univ.filter holds).card = if holds 0 then 1 else 0 := by
  rw [Finset.card_filter, Fin.sum_univ_one]

/-- What one ray alone adds to the counts. -/
theorem Steers.counts_alone {υ : Type} {solo : Tracer α υ S 1} {start final : World α υ S 1}
    {alone : Law α S} {soloBuilder : Option (ResidualBuilder α υ S 1)} {values : List (List α)}
    {outcome : Fin 1 → Option Bool} {lone : Summary α} (ruled : Governed solo fun _ => alone)
    (counts : Counts solo fun _ => alone)
    (steers : Steers solo soloBuilder adjusted goals values maxIterations start outcome lone
      final) :
    lone.startCount = 1 ∧ lone.adjustedCount = (if outcome 0 = some true then 1 else 0) ∧
      lone.failedCount = if outcome 0 = some false then 1 else 0 := by
  obtain ⟨ray, seen⟩ := steers.exists_seen counts
  obtain rfl : ray = 0 := Subsingleton.elim _ _
  obtain ⟨-, starts, adjusted, failed, -⟩ := steers.counts ruled counts
  simp only [card_filter_one] at starts adjusted failed
  exact ⟨by rw [starts, if_pos seen], adjusted, failed⟩

theorem card_verdicts {traced : Finset (Fin R)}
    (decided : ∀ ray, (verdict ray).isSome ↔ ray ∈ traced) (adjusted : Bool) :
    (Finset.univ.filter fun ray => verdict ray = some adjusted).card =
      ∑ ray ∈ traced, if verdict ray = some adjusted then 1 else 0 := by
  rw [← Finset.card_filter]
  congr 1
  ext ray
  simp only [Finset.mem_filter, Finset.mem_univ, true_and, iff_and_self]
  exact fun same => (decided ray).mp (by rw [same]; rfl)

theorem card_adjusted_add_failed {traced : Finset (Fin R)}
    (decided : ∀ ray, (verdict ray).isSome ↔ ray ∈ traced) :
    (Finset.univ.filter fun ray => verdict ray = some true).card +
      (Finset.univ.filter fun ray => verdict ray = some false).card = traced.card := by
  rw [card_verdicts decided, card_verdicts decided, ← Finset.sum_add_distrib,
    Finset.card_eq_sum_ones]
  refine Finset.sum_congr rfl fun ray seen => ?_
  obtain ⟨adjusted, same⟩ := Option.isSome_iff_exists.mp ((decided ray).mpr seen)
  cases adjusted <;> simp [same]

theorem Steers.verdict_isSome (governed : Governed tracer law) (counts : Counts tracer law)
    {values : List (List α)}
    (steers : Steers tracer builder adjusted goals values maxIterations before verdict summary
      after) (ray : Fin R) :
    (verdict ray).isSome ↔
      ray ∈ Finset.univ.filter fun ray => ((law ray).seen ray before.system).isSome := by
  obtain ⟨-, -, -, -, decided⟩ := steers.counts governed counts
  rw [decided, Finset.mem_filter, and_iff_right (Finset.mem_univ ray)]

/-- Every ray that traces is counted once, as adjusted or as failed. -/
theorem Steers.counts_add (governed : Governed tracer law) (counts : Counts tracer law)
    {values : List (List α)}
    (steers : Steers tracer builder adjusted goals values maxIterations before verdict summary
      after) :
    summary.adjustedCount + summary.failedCount = summary.startCount ∧
      summary.startCount ≤ summary.rayCount := by
  obtain ⟨rayCount, starts, adjustedCount, failedCount, -⟩ := steers.counts governed counts
  constructor
  · rw [adjustedCount, failedCount, starts]
    exact card_adjusted_add_failed (steers.verdict_isSome governed counts)
  · rw [starts, rayCount]
    exact (Finset.card_le_univ _).trans (Fintype.card_fin R).le

/-- The counts of a pass are those of its rays alone, added up. -/
theorem Steers.counts_sum (governed : Governed tracer law) (counts : Counts tracer law)
    (soloGoverned : ∀ ray, Governed (solo ray) fun _ => law ray)
    (soloCounts : ∀ ray, Counts (solo ray) fun _ => law ray)
    {soloBuilder : ∀ ray, Option (ResidualBuilder α (υ ray) S 1)} {bench : ∀ ray, υ ray}
    {outcome : Fin R → Fin 1 → Option Bool} {lone : Fin R → Summary α}
    {final : ∀ ray, World α (υ ray) S 1}
    (steers : Steers tracer builder adjusted goals goalValues.toList maxIterations before verdict
      summary after) :
    let traced := Finset.univ.filter fun ray => ((law ray).seen ray before.system).isSome
    (∀ ray ∈ traced, Alone solo soloBuilder adjusted goals goalValues maxIterations before.system
      bench ray (outcome ray) (lone ray) (final ray)) →
    (∀ ray ∈ traced, verdict ray = outcome ray 0) →
    summary.adjustedCount = ∑ ray ∈ traced, (lone ray).adjustedCount ∧
      summary.failedCount = ∑ ray ∈ traced, (lone ray).failedCount ∧
      summary.startCount = ∑ ray ∈ traced, (lone ray).startCount := by
  intro traced alone same
  obtain ⟨-, starts, adjustedCount, failedCount, -⟩ := steers.counts governed counts
  have decided := steers.verdict_isSome governed counts
  have lonely (ray : Fin R) (seen : ray ∈ traced) :=
    (steers_of_alone (alone ray seen)).counts_alone (soloGoverned ray) (soloCounts ray)
  refine ⟨?_, ?_, ?_⟩
  · rw [adjustedCount, card_verdicts decided]
    refine Finset.sum_congr rfl fun ray seen => ?_
    rw [(lonely ray seen).2.1, same ray seen]
  · rw [failedCount, card_verdicts decided]
    refine Finset.sum_congr rfl fun ray seen => ?_
    rw [(lonely ray seen).2.2, same ray seen]
  · rw [starts, Finset.card_eq_sum_ones]
    exact Finset.sum_congr rfl fun ray seen => (lonely ray seen).1.symm

/-- Every ray is steered as if it were alone, whatever the arithmetic. The table can
be steered if every ray that traces can be on its own; one that does not trace is
left as it is. No surface changes and no column but the steered ones, each ray ends
in the row and with the verdict it has alone, and the counts are those of the rays
alone, added up. So a ray fares the same in any two tables in which its law, its row
and its goals are the same, wherever it stands and whatever else they hold. -/
theorem steers_as_alone (governed : Governed tracer law) (counts : Counts tracer law)
    (soloGoverned : ∀ ray, Governed (solo ray) fun _ => law ray)
    (soloCounts : ∀ ray, Counts (solo ray) fun _ => law ray)
    (builder : Option (ResidualBuilder α τ S R))
    (soloBuilder : ∀ ray, Option (ResidualBuilder α (υ ray) S 1))
    (adjusted : List RayAttribute) (goals : List TraceAttribute) (goalValues : Vector (List α) R)
    (maxIterations : ℤ) (before : World α τ S R) (bench : ∀ ray, υ ray)
    (traces : ∃ ray, ((law ray).seen ray before.system).isSome) :
    let traced := Finset.univ.filter fun ray => ((law ray).seen ray before.system).isSome
    let Alone := Alone solo soloBuilder adjusted goals goalValues maxIterations before.system bench
    ((∃ verdict summary after, Steers tracer builder adjusted goals goalValues.toList maxIterations
        before verdict summary after) ↔
      ∀ ray ∈ traced, ∃ outcome lone final, Alone ray outcome lone final) ∧
    (∀ ray ∉ traced, ¬ ∃ outcome lone final, Alone ray outcome lone final) ∧
    ∀ verdict summary after,
      Steers tracer builder adjusted goals goalValues.toList maxIterations before verdict summary
        after →
      after.system.surfaces = before.system.surfaces ∧
      (∀ ray j, (∀ start ∈ adjusted, start.column ≠ j) →
        after.system.rays.get ray j = before.system.rays.get ray j) ∧
      (∀ ray ∉ traced, verdict ray = none ∧
        after.system.rays.row ray = before.system.rays.row ray) ∧
      (∃ lone : Fin R → Summary α,
        (∀ ray ∈ traced, ∃ outcome final, Alone ray outcome (lone ray) final ∧
          verdict ray = outcome 0 ∧ after.system.rays.row ray = final.system.rays.row 0) ∧
        summary.adjustedCount = ∑ ray ∈ traced, (lone ray).adjustedCount ∧
        summary.failedCount = ∑ ray ∈ traced, (lone ray).failedCount ∧
        summary.startCount = ∑ ray ∈ traced, (lone ray).startCount) ∧
      summary.adjustedCount = (Finset.univ.filter fun ray => verdict ray = some true).card ∧
      summary.failedCount = (Finset.univ.filter fun ray => verdict ray = some false).card ∧
      summary.adjustedCount + summary.failedCount = summary.startCount ∧
      summary.startCount ≤ summary.rayCount ∧
      summary.rayCount = R ∧
      ∀ {υ : Type} {Q : ℕ} {other : Tracer α υ S Q} {otherLaw : Fin Q → Law α S}
        (_ : Governed other otherLaw) (otherBuilder : Option (ResidualBuilder α υ S Q))
        (otherValues : Vector (List α) Q) (start : World α υ S Q) (outcome : Fin Q → Option Bool)
        (report : Summary α) (final : World α υ S Q),
        start.system.surfaces = before.system.surfaces →
        Steers other otherBuilder adjusted goals otherValues.toList maxIterations start outcome
          report final →
        ∀ i j, law i = otherLaw j → before.system.rays.row i = start.system.rays.row j →
          goalValues.get i = otherValues.get j →
          verdict i = outcome j ∧ after.system.rays.row i = final.system.rays.row j := by
  intro traced Alone
  have mem_traced {ray : Fin R} : ray ∈ traced ↔ ((law ray).seen ray before.system).isSome := by
    simp [traced]
  have alone {verdict : Fin R → Option Bool} {summary : Summary α} {after : World α τ S R}
      (steers : Steers tracer builder adjusted goals goalValues.toList maxIterations before verdict
        summary after) (ray : Fin R) (seen : ray ∈ traced) :
      ∃ outcome lone final, Alone ray outcome lone final :=
    steers.exists_alone governed (soloGoverned ray) (soloCounts ray) (mem_traced.mp seen) _ _
  refine ⟨⟨?_, ?_⟩, ?_, ?_⟩
  · rintro ⟨verdict, summary, after, steers⟩
    exact alone steers
  · exact fun each => exists_steers_of_alone governed counts soloGoverned traces
      (fun ray seen => each ray (mem_traced.mpr seen)) builder
  · rintro ray untraced ⟨outcome, lone, final, steers⟩
    obtain ⟨place, seen⟩ := steers.exists_seen (soloCounts ray)
    obtain rfl : place = 0 := Subsingleton.elim _ _
    exact untraced (mem_traced.mpr seen)
  · intro verdict summary after steers
    obtain ⟨surfaces, unlisted⟩ := steers.kept
    obtain ⟨rayCount, -, adjustedCount, failedCount, -⟩ := steers.counts governed counts
    obtain ⟨once, few⟩ := steers.counts_add governed counts
    have : Nonempty (Summary α) := ⟨summary⟩
    have (ray : Fin R) : Nonempty (World α (υ ray) S 1) := ⟨only before.system ray, bench ray⟩
    choose! outcome lone final steersAlone using alone steers
    have fares (ray : Fin R) (seen : ray ∈ traced) := steers.alike (i := ray) (j := 0) governed
      (soloGoverned ray) (steers_of_alone (steersAlone ray seen)) rfl rfl rfl rfl
    have sums := steers.counts_sum governed counts soloGoverned soloCounts steersAlone
      fun ray seen => (fares ray seen).1
    refine ⟨surfaces, unlisted, fun ray untraced => ?_, ⟨lone, fun ray seen =>
      ⟨outcome ray, final ray, steersAlone ray seen, fares ray seen⟩, sums⟩, adjustedCount,
      failedCount, once, few, rayCount, ?_⟩
    · have unseen : (law ray).seen ray before.system = none := by
        simpa using mt mem_traced.mpr untraced
      exact steers.row_of_not_seen governed unseen
    · intro υ Q other otherLaw ruled otherBuilder otherValues start outcome report final same again
        i j law row values
      exact steers.alike governed ruled again same.symm law row values

end Alone

/-- Rays on the near side do not trace; the others keep their X all the way. -/
def farSide : Law ℚ 1 := fun _ row =>
  let x := row.get RayAttribute.x.column
  if 0 ≤ x then some fun _ _ => x else none

/-- One ray on either side. -/
def bothSides : OpticalSystem ℚ 1 2 where
  surfaces := Table.zeros
  rays := Table.ofFn fun ray column =>
    if column = RayAttribute.x.column then if ray.val = 0 then 1 else -1 else 0
  size := 1

/-- The X of the ray on the far side is steered onto two. -/
def farPass : Pass ℚ 1 where
  adjusted := [.x]
  goals := [.xl]
  goalValues := #v[[2]]
  config := {
    tolerance := 1e-12
    paramCount := 1
    pointCount := 1
    initialDamping := 1e-3
    maxDamping := 1e3
    boost := 2.0
    shrink := 0.1 }
  maxIterations := 1
  availableCount := 1

theorem steers_farSide : ∃ outcome lone final,
    Steers (lawful fun _ => farSide) none [.x] [.xl] [[2]] 1 ⟨only bothSides 0, ()⟩ outcome lone
      final := by
  have made : Returns (plan (lawful fun _ => farSide) [.x] [.xl] [[2]] 1) ⟨only bothSides 0, ()⟩
      farPass ⟨only bothSides 0, ()⟩ :=
    returns_plan.mpr ⟨by decide, by decide, rfl, farPass.config, by with_unfolding_all rfl,
      by decide +kernel, rfl, rfl⟩
  let action := farPass.run (lawful fun _ => farSide)
    (ExceptT.lift (Pass.finalRms (lawful fun _ => farSide) none))
  have completes : (action.run ⟨only bothSides 0, ()⟩).value.toBool = true := by decide +kernel
  obtain ⟨lone, final, ran⟩ := Act.exists_returns completes
  obtain ⟨outcome, steers⟩ := exists_verdict made ran
  exact ⟨outcome, lone, final, steers⟩

theorem steers_as_alone_bothSides :
    (∃ ray, (farSide.seen ray bothSides).isSome) ∧
    ∃ verdict summary after,
      Steers (lawful fun _ => farSide) none [.x] [.xl] [[2], [0]] 1 ⟨bothSides, ()⟩ verdict summary
        after ∧
      after.system.surfaces = bothSides.surfaces ∧
      verdict 1 = none ∧ after.system.rays.row 1 = bothSides.rays.row 1 ∧
      ∃ outcome lone final,
        Steers (lawful fun _ => farSide) none [.x] [.xl] [[2]] 1 ⟨only bothSides 0, ()⟩ outcome lone
          final ∧
        verdict 0 = outcome 0 ∧ after.system.rays.row 0 = final.system.rays.row 0 := by
  have first : (farSide.seen 0 bothSides).isSome = true := by decide +kernel
  have second : (farSide.seen 1 bothSides).isSome = false := by decide +kernel
  let solo : ∀ _ : Fin 2, Tracer ℚ Unit 1 1 := fun _ => lawful fun _ => farSide
  have soloGoverned (ray : Fin 2) : Governed (solo ray) fun _ => farSide := governed_lawful _
  obtain ⟨completes, -, holds⟩ := steers_as_alone (governed_lawful fun _ : Fin 2 => farSide)
    (counts_lawful _) soloGoverned (fun _ => counts_lawful _) none (fun _ => none) [.x] [.xl]
    #v[[2], [0]] 1 ⟨bothSides, ()⟩ (fun _ => ()) ⟨0, first⟩
  obtain ⟨verdict, summary, after, steers⟩ := completes.mpr fun ray seen => by
    match ray with
    | 0 => exact steers_farSide
    | 1 => simp [second] at seen
  obtain ⟨surfaces, -, passedOver, ⟨lone, alone, -⟩, -⟩ := holds verdict summary after steers
  obtain ⟨unsteered, row⟩ := passedOver 1 (by simp [second])
  obtain ⟨outcome, final, alone, fares⟩ := alone 0 (by simp [first])
  exact ⟨⟨0, first⟩, verdict, summary, after, steers, surfaces, unsteered, row, outcome, lone 0,
    final, alone, fares⟩

end OpticTune.Steer
