import Mathlib.Algebra.BigOperators.Group.List.Basic
import Mathlib.Algebra.Order.Ring.Rat
import OpticTune.Proofs.Solver.Discipline
import OpticTune.Proofs.Solver.Steady

namespace OpticTune.Solver

open Act (Returns)
open Linear (NormalEquations)

/-! The steps an iteration keeps.

A nudge that is not followed at once by its opposite is kept. The others cancel,
so a host stands where the kept steps take it.
-/

variable {σ : Type} {m n : ℕ}

/-- The entries of a change, as many as there are parameters; the ones it does not
have are zero. -/
def amounts (n : ℕ) (delta : List ℚ) : Fin n → ℚ :=
  fun j => delta.getD j 0

theorem amounts_ofFn (delta : Fin n → ℚ) : amounts n (List.ofFn delta) = delta := by
  funext j
  simp [amounts, List.getD]

theorem amounts_neg (delta : List ℚ) : amounts n (delta.map Neg.neg) = -amounts n delta := by
  funext j
  simp only [amounts, List.getD, List.getElem?_map, Pi.neg_apply]
  cases delta[j.val]? with
  | none => exact neg_zero.symm
  | some change => rfl

def Call.moves (n : ℕ) : Call ℚ → Fin n → ℚ
  | .nudge delta _ => amounts n delta
  | _ => 0

/-- How far a list of calls takes the parameters. -/
def travelled (n : ℕ) (calls : List (Call ℚ)) : Fin n → ℚ :=
  (calls.map (Call.moves n)).sum

def keptSteps : List (Call ℚ) → List (List ℚ)
  | .nudge delta _ :: .nudge opposite sos :: rest =>
      if opposite = delta.map Neg.neg then keptSteps rest
      else delta :: keptSteps (.nudge opposite sos :: rest)
  | .nudge delta _ :: rest => delta :: keptSteps rest
  | _ :: rest => keptSteps rest
  | [] => []

section Travelled

variable (call : Call ℚ) (calls : List (Call ℚ))

theorem travelled_nil : travelled n [] = 0 := rfl

theorem travelled_cons : travelled n (call :: calls) = call.moves n + travelled n calls :=
  List.sum_cons

theorem travelled_concat :
    travelled n (calls ++ [call]) = travelled n calls + call.moves n := by
  rw [travelled, List.map_append, List.sum_append]
  exact congrArg (_ + ·) (add_zero _)

theorem travelled_eq : travelled n calls = ((keptSteps calls).map (amounts n)).sum := by
  fun_induction keptSteps calls with
  | case1 delta sos again rest ih =>
      rw [travelled_cons, travelled_cons, Call.moves, Call.moves, amounts_neg, add_neg_cancel_left,
        ih]
  | case2 delta sos opposite again rest kept ih =>
      rw [travelled_cons, ih, List.map_cons, List.sum_cons, Call.moves]
  | case3 delta sos rest last ih =>
      rw [travelled_cons, ih, List.map_cons, List.sum_cons, Call.moves]
  | case4 call rest _ other ih =>
      have stays : call.moves n = 0 := by
        cases call with
        | nudge delta sos => exact absurd rfl (other delta sos)
        | _ => rfl
      rw [travelled_cons, ih, stays, zero_add]
  | case5 => rfl

end Travelled

/-- A host that is recorded stands where the calls recorded take it. -/
theorem Host.Steady.recorded {host : Host ℚ σ} {stands : (Fin n → ℚ) → σ → Prop}
    (steady : host.Steady m n stands) (start : Fin n → ℚ) :
    host.recorded.Steady m n fun place state =>
      stands place state.host ∧ place = start + travelled n state.calls where
  evaluate := by
    rintro place ⟨before, earlier⟩ ⟨standing, rfl⟩
    obtain ⟨standing, nonneg⟩ := steady.evaluate standing
    exact ⟨⟨standing, by rw [state_evaluate_recorded, stays _ _ rfl]⟩, nonneg⟩
  nudge := by
    rintro place ⟨before, earlier⟩ ⟨standing, rfl⟩ delta
    refine ⟨steady.nudge standing delta, ?_⟩
    rw [state_nudge_recorded, travelled_concat, Call.moves, amounts_ofFn, add_assoc]
  buildJacobian := by
    rintro place ⟨before, earlier⟩ ⟨standing, rfl⟩
    obtain ⟨built, after, returned, standing⟩ := steady.buildJacobian standing
    exact ⟨built, _, returns_buildJacobian_recorded host earlier returned, standing,
      by rw [stays _ _ rfl]⟩
  fetchJacobian := by
    rintro place ⟨before, earlier⟩ ⟨standing, rfl⟩ i j
    obtain ⟨entry, after, returned, standing⟩ := steady.fetchJacobian standing i j
    exact ⟨entry, _, returns_recording returned, standing, by rw [stays _ _ rfl]⟩
  fetchResidual := by
    rintro place ⟨before, earlier⟩ ⟨standing, rfl⟩ i
    obtain ⟨entry, after, returned, standing⟩ := steady.fetchResidual standing i
    exact ⟨entry, _, returns_recording returned, standing, by rw [stays _ _ rfl]⟩
where
  stays (calls : List (Call ℚ)) (call : Call ℚ) (still : call.moves n = 0) :
      travelled n (calls ++ [call]) = travelled n calls := by
    rw [travelled_concat, still, add_zero]

section Iteration

variable {host : Host ℚ σ} {config : Config ℚ} {before after : σ} {start : ℚ}

/-- How many steps may be kept before an iteration ends with a status. -/
def Status.Admits : Status → List (List ℚ) → Prop
  | .down, steps => ∃ step, steps = [step]
  | .level, steps => steps = [] ∨ ∃ step, steps = [step]
  | .max, steps | .bad, steps => steps = []

theorem Schedule.admits {tried : List (Trial ℚ)} {status : Status}
    (schedule : Schedule start tried status) :
    status.Admits (keptSteps (tried.flatMap Trial.calls)) := by
  induction schedule with
  | exhausted => rfl
  | @down trial kept =>
      refine ⟨trial.delta, ?_⟩
      simp [Trial.calls, kept, keptSteps]
  | @level trial kept falls =>
      refine .inr ⟨trial.delta, ?_⟩
      simp [Trial.calls, kept, keptSteps]
  | @negligible trial undone rises =>
      obtain ⟨answer, undone⟩ := Option.isSome_iff_exists.mp undone
      refine .inl ?_
      simp [Trial.calls, undone, keptSteps]
  | @rejected trial rest status undone schedule ih =>
      obtain ⟨answer, undone⟩ := Option.isSome_iff_exists.mp undone
      simpa [Trial.calls, undone, keptSteps] using ih

theorem keptSteps_append {earlier : List (Call ℚ)}
    (noNudge : ∀ delta sos, Call.nudge delta sos ∉ earlier) (later : List (Call ℚ)) :
    keptSteps (earlier ++ later) = keptSteps later := by
  induction earlier with
  | nil => rfl
  | cons call rest ih =>
      have others := ih fun delta sos member => noNudge delta sos (List.mem_cons_of_mem call member)
      cases call with
      | nudge delta sos => exact absurd List.mem_cons_self (noNudge delta sos)
      | _ => exact others

/-- An iteration that returns keeps as many steps as its status admits. -/
theorem exists_recorded {state : State ℚ} {ending : State ℚ × Status}
    (returned : Returns (iterate host config state) before ending after) :
    ∃ calls, Returns (iterate host.recorded config state) ⟨before, []⟩ ending ⟨after, calls⟩ ∧
      ending.2.Admits (keptSteps calls) := by
  have inverted := returns_iterateWithin.mp returned
  simp only [iterate, returns_iterateWithin]
  have evaluated : (host.recorded.evaluate ⟨before, []⟩).value = (host.evaluate before).value := rfl
  rw [evaluated, state_evaluate_recorded]
  simp only at inverted
  split at inverted
  · rename_i failed
    obtain ⟨rfl, rfl⟩ := inverted
    refine ⟨[.evaluate (host.evaluate before).value], ?_, rfl⟩
    simp [failed]
  · rename_i succeeded
    obtain ⟨start, found, built, middle, building, rest⟩ := inverted
    have recording := returns_buildJacobian_recorded host
      ([] ++ [.evaluate (host.evaluate before).value]) building
    cases built with
    | false =>
        obtain ⟨rfl, rfl⟩ := rest
        refine ⟨[.evaluate (host.evaluate before).value, .buildJacobian false], ?_, rfl⟩
        rw [if_neg succeeded]
        exact ⟨start, found, false, _, recording, rfl, rfl⟩
    | true =>
        obtain ⟨jacobian, residuals, gathered, fetching, trying⟩ := rest
        obtain ⟨tried, _, triedRecorded, schedule⟩ := trials_record rfl (fun _ _ => rfl) trying
        refine ⟨[.evaluate (host.evaluate before).value, .buildJacobian true] ++
          gathering config.pointCount config.paramCount ++ tried.flatMap Trial.calls, ?_, ?_⟩
        · rw [if_neg succeeded]
          exact ⟨start, found, true, _, recording, jacobian, residuals, _,
            records_gather host _ _ _ fetching, triedRecorded _⟩
        · rw [keptSteps_append]
          · exact schedule.admits
          · simp [gathering]

/-- An iteration on a steady host returns, and leaves it where the kept steps
lead. -/
theorem Host.Steady.exists_iterate {stands : (Fin n → ℚ) → σ → Prop}
    (steady : host.Steady m n stands) (accepted : config.Accepted m n) {state : State ℚ}
    (positive : 0 < state.damping) {place : Fin n → ℚ} (standing : stands place before) :
    ∃ ending after calls, Returns (Solver.iterate host config state) before ending after ∧
      Returns (Solver.iterate host.recorded config state) ⟨before, []⟩ ending ⟨after, calls⟩ ∧
      0 < ending.1.damping ∧ ending.2.Admits (keptSteps calls) ∧
      stands (place + travelled n calls) after := by
  obtain ⟨ending, after, _, returned, _, damping⟩ := steady.iterate accepted positive standing
  obtain ⟨calls, recorded, admits⟩ := exists_recorded returned
  have begun : stands place (⟨before, []⟩ : Recorded ℚ σ).host ∧
      place = place + travelled n (⟨before, []⟩ : Recorded ℚ σ).calls :=
    ⟨standing, (add_zero _).symm⟩
  obtain ⟨again, final, reached, recordedAgain, ⟨standing, arrives⟩, _⟩ :=
    (steady.recorded place).iterate accepted positive begun
  obtain ⟨rfl, rfl⟩ := recordedAgain.unique recorded
  exact ⟨_, after, calls, returned, recorded, damping, admits, arrives ▸ standing⟩

end Iteration

end OpticTune.Solver
