import Mathlib.Algebra.Polynomial.Derivative
import Mathlib.Algebra.Polynomial.Eval.Degree
import OpticTune.Proofs.Solver.Agrees
import OpticTune.Proofs.Solver.Steady

namespace OpticTune.Solver

open Act (Returns)

/-! The measuring of a Jacobian as a whole: at which places the problem is
evaluated, what is measured there, and what is left when one of them fails.
-/

variable {σ : Type} {m n : ℕ}

/-- A problem's state beside where its parameters are and where it was evaluated. -/
structure Surveyed (σ : Type) (n : ℕ) where
  state : σ
  place : Fin n → ℚ
  visited : List (Fin n → ℚ)

def Measured.surveyed (measured : Measured ℚ σ m n) (place : Fin n → ℚ)
    (visited : List (Fin n → ℚ)) : Measured ℚ (Surveyed σ n) m n where
  jacobian := measured.jacobian
  problem := { state := measured.problem, place, visited }

namespace Surveyed

def onState {β : Type} (action : Act ℚ σ β) : Act ℚ (Surveyed σ n) β :=
  Act.within state (fun surveyed state => { surveyed with state }) action

end Surveyed

open Surveyed in
/-- Does what the problem does, and keeps the places it is evaluated at. -/
def Problem.surveyed (problem : Problem ℚ σ) : Problem ℚ (Surveyed σ n) where
  apply delta := do
    onState (problem.apply delta)
    modify fun surveyed =>
      { surveyed with place := fun j => surveyed.place j + delta.getD j 0 }
  evaluate := do
    let sos ← onState problem.evaluate
    modify fun surveyed => { surveyed with visited := surveyed.visited ++ [surveyed.place] }
    return sos
  residuals := onState problem.residuals

theorem Problem.surveyed_agrees (problem : Problem ℚ σ) :
    problem.surveyed.Agrees problem fun (surveyed : Surveyed σ n) state =>
      surveyed.state = state where
  apply delta := by
    rintro surveyed _ rfl
    exact ⟨rfl, rfl⟩
  evaluate := by
    rintro surveyed _ rfl
    exact ⟨rfl, rfl⟩
  residuals := by
    rintro surveyed _ rfl
    exact ⟨rfl, rfl⟩

/-- What a survey measures is what is measured without it. -/
theorem Problem.returns_of_surveyed {problem : Problem ℚ σ} {steps : Vector ℚ n}
    {before : Measured ℚ σ m n} {params : Fin n → ℚ} {visited : List (Fin n → ℚ)} {built : Bool}
    {final : Measured ℚ (Surveyed σ n) m n}
    (returned : Returns (problem.surveyed.buildJacobian steps) (before.surveyed params visited) built
      final) :
    Returns (problem.buildJacobian steps) before built ⟨final.jacobian, final.problem.state⟩ := by
  have start : Measured.Related (fun (surveyed : Surveyed σ n) state => surveyed.state = state)
      (before.surveyed params visited) before := ⟨rfl, rfl⟩
  obtain ⟨⟨jacobian, problem⟩, returned, same, state⟩ :=
    (problem.surveyed_agrees.host steps).buildJacobian.of_returns start returned
  obtain rfl : final.jacobian = jacobian := same
  obtain rfl : final.problem.state = problem := state
  exact returned

/-- The survey of a problem on a landscape is where the problem itself is. -/
theorem Problem.Follows.surveyed {problem : Problem ℚ σ} {landscape : Landscape ℚ m n}
    {stands : (Fin n → ℚ) → σ → Prop} (follows : problem.Follows landscape stands) :
    problem.surveyed.Visits landscape fun place visited surveyed =>
      stands place surveyed.state ∧ surveyed.place = place ∧ surveyed.visited = visited where
  apply := by
    rintro _ _ surveyed ⟨standing, rfl, rfl⟩ delta
    refine ⟨follows.apply standing delta, ?_, rfl⟩
    funext j
    change surveyed.place j + (List.ofFn delta).getD j 0 = _
    simp [List.getD]
  evaluate := by
    rintro _ _ surveyed ⟨standing, rfl, rfl⟩
    obtain ⟨evaluated, value⟩ := follows.evaluate standing
    exact ⟨⟨evaluated, rfl, rfl⟩, value⟩
  residuals := by
    rintro _ _ surveyed ⟨standing, rfl, rfl⟩ evaluates
    obtain ⟨value, still⟩ := follows.residuals standing evaluates
    exact ⟨value, congrArg (fun state => { surveyed with
      state, visited := surveyed.visited ++ [surveyed.place] : Surveyed σ n }) still⟩

section Probes

variable (steps : Vector ℚ n) (params : Fin n → ℚ)

/-- Every place a Jacobian is measured at, column after column. -/
def probes : List (Fin n → ℚ) :=
  (List.finRange n).flatMap (columnPlaces steps params)

theorem length_probes : (probes steps params).length = 3 * n := by
  simp [probes, columnPlaces, List.length_flatMap, mul_comm]

variable {steps params}

/-- On a parabola the secant over as far ahead as behind is the tangent. -/
theorem secant_eq_derivative {curve : Polynomial ℚ} (degree : curve.natDegree ≤ 2) (x : ℚ)
    {step : ℚ} (nonzero : step ≠ 0) :
    (curve.eval (x + step) - curve.eval (x - step)) / (2 * step) =
      curve.derivative.eval x := by
  have height (y : ℚ) : curve.eval y =
      curve.coeff 0 + curve.coeff 1 * y + curve.coeff 2 * y ^ 2 := by
    rw [Polynomial.eval_eq_sum_range' (Nat.lt_succ_of_le degree)]
    simp [Finset.sum_range_succ]
  have slope : curve.derivative.eval x = curve.coeff 1 + 2 * curve.coeff 2 * x := by
    have linear : curve.derivative.natDegree < 2 :=
      (curve.natDegree_derivative_le.trans (Nat.sub_le_sub_right degree 1)).trans_lt (by decide)
    rw [Polynomial.eval_eq_sum_range' linear]
    simp only [Finset.sum_range_succ, Finset.sum_range_zero, Polynomial.coeff_derivative]
    push_cast
    ring
  rw [height, height, slope]
  field_simp
  ring

theorem add_single_eq_update (j : Fin n) (amount : ℚ) :
    params + Pi.single j amount = Function.update params j (params j + amount) := by
  ext k
  by_cases same : k = j
  · subst same
    simp
  · simp [same]

/-- Where a residual is a parabola along a parameter, its column has the exact
derivative. -/
theorem Landscape.jacobian_eq_derivative {landscape : Landscape ℚ m n}
    (nonzero : ∀ j, steps.get j ≠ 0) (clear : landscape.Clear (probes steps params)) (i : Fin m)
    (j : Fin n) {curve : Polynomial ℚ} (degree : curve.natDegree ≤ 2)
    (along : ∀ x, (landscape.sos (Function.update params j x)).isSome →
      landscape.residuals (Function.update params j x) i = curve.eval x) :
    landscape.jacobian steps params i j = curve.derivative.eval (params j) := by
  have ahead := clear (params + Pi.single j (steps.get j))
    (List.mem_flatMap.mpr ⟨j, List.mem_finRange j, by simp [columnPlaces]⟩)
  have behind := clear (params - Pi.single j (steps.get j))
    (List.mem_flatMap.mpr ⟨j, List.mem_finRange j, by simp [columnPlaces]⟩)
  rw [sub_eq_add_neg, ← Pi.single_neg] at behind
  rw [add_single_eq_update] at ahead behind
  rw [← secant_eq_derivative degree _ (nonzero j), Landscape.jacobian, Matrix.of_apply,
    sub_eq_add_neg params, ← Pi.single_neg, add_single_eq_update, add_single_eq_update,
    along _ ahead, along _ behind, sub_eq_add_neg (params j)]

end Probes

/-- A Jacobian is measured at three places for every parameter, and replaced when all
of them could be evaluated; else the first that could not is the last one tried. -/
theorem Problem.Follows.buildJacobian {problem : Problem ℚ σ} {landscape : Landscape ℚ m n}
    {stands : (Fin n → ℚ) → σ → Prop} (follows : problem.Follows landscape stands)
    (steps : Vector ℚ n) {params : Fin n → ℚ} {before : Measured ℚ σ m n}
    (standing : stands params before.problem) :
    ∃ built after visited,
      Returns (problem.buildJacobian steps) before built after ∧
      Returns (problem.surveyed.buildJacobian steps) (before.surveyed params []) built
        (after.surveyed params visited) ∧
      stands params after.problem ∧
      ((built = true ∧ landscape.Clear (probes steps params) ∧ visited = probes steps params ∧
          after.jacobian.toMatrix = landscape.jacobian steps params ∧
          if n = 0 then after.problem = before.problem
          else (problem.residuals after.problem).value = List.ofFn (landscape.residuals params)) ∨
        (built = false ∧ ∃ passed failing left, probes steps params = passed ++ failing :: left ∧
          landscape.Clear passed ∧ landscape.sos failing = none ∧
          visited = passed ++ [failing] ∧ after.jacobian = before.jacobian)) := by
  have start : stands params (⟨before.problem, params, []⟩ : Surveyed σ n).state ∧
      params = params ∧ ([] : List (Fin n → ℚ)) = [] := ⟨standing, rfl, rfl⟩
  obtain ⟨clear, measured, ⟨state, place, visited⟩, ⟨standing, there, rfl⟩, ending, returned,
        entries⟩ | ⟨blocked, ⟨state, place, visited⟩, ⟨standing, there, rfl⟩, returned⟩ :=
    follows.surveyed.measureColumns [] start steps (List.finRange n) (Table.zeros : Table ℚ m n)
  all_goals obtain rfl : params = place := there.symm
  · have whole : Returns (problem.surveyed.buildJacobian steps) (before.surveyed params []) true
        (Measured.surveyed ⟨measured, state⟩ params (probes steps params)) :=
      returns_buildJacobian.mpr ⟨some measured, _, returned, rfl, rfl⟩
    refine ⟨true, ⟨measured, state⟩, _, returns_of_surveyed whole, whole, standing,
      .inl ⟨rfl, clear, rfl, ?_, ?_⟩⟩
    · ext i j
      rw [Table.toMatrix_apply, entries, if_pos (List.mem_finRange j)]
    · simp only [List.finRange_eq_nil_iff] at ending
      split
      · rename_i none
        rw [if_pos none] at ending
        exact congrArg Surveyed.state ending
      · rename_i some
        rw [if_neg some] at ending
        exact ending.residuals
  · have whole : Returns (problem.surveyed.buildJacobian steps) (before.surveyed params []) false
        (Measured.surveyed ⟨before.jacobian, state⟩ params
          (landscape.reached (probes steps params))) :=
      returns_buildJacobian.mpr ⟨none, _, returned, rfl, rfl⟩
    obtain ⟨passed, failing, left, split, clear, fails, reached⟩ :=
      Landscape.exists_failing blocked
    have stopped := reached []
    rw [List.append_nil] at stopped
    exact ⟨false, ⟨before.jacobian, state⟩, _, returns_of_surveyed whole, whole, standing,
      .inr ⟨rfl, passed, failing, left, split, clear, fails, stopped, rfl⟩⟩

/-- What rebuilding the Jacobian comes to. Whatever the evaluations answer, the
parameters end where they started, and a Jacobian that was not rebuilt is the one from
before. Where the parameters decide the answers, three evaluations for every parameter
give the central differences, exact along parabolas; if one fails it is the last.
Without a parameter nothing is evaluated. -/
theorem buildJacobian_exact (problem : Problem ℚ σ) (stands : (Fin n → ℚ) → σ → Prop)
    {steps : Vector ℚ n} (nonzero : ∀ j, steps.get j ≠ 0) {params : Fin n → ℚ}
    {before : Measured ℚ σ m n} (standing : stands params before.problem) :
    (problem.Placed stands →
      (∀ built after, Returns (problem.buildJacobian steps) before built after →
        stands params after.problem ∧ (built = false → after.jacobian = before.jacobian)) ∧
      ((∀ ⦃place state⦄, stands place state → (problem.residuals state).value.length = m) →
        ∃ built after, Returns (problem.buildJacobian steps) before built after)) ∧
    ∀ landscape : Landscape ℚ m n, problem.Follows landscape stands →
      ∃ built after visited,
        Returns (problem.buildJacobian steps) before built after ∧
        Returns (problem.surveyed.buildJacobian steps) (before.surveyed params []) built
          (after.surveyed params visited) ∧
        stands params after.problem ∧
        ((built = true ∧ (∀ place ∈ probes steps params, (landscape.sos place).isSome) ∧
            visited = probes steps params ∧ visited.length = 3 * n ∧
            after.jacobian.toMatrix = landscape.jacobian steps params ∧
            (∀ i j (curve : Polynomial ℚ), curve.natDegree ≤ 2 →
              (∀ x, (landscape.sos (Function.update params j x)).isSome →
                landscape.residuals (Function.update params j x) i = curve.eval x) →
              after.jacobian.get i j = curve.derivative.eval (params j)) ∧
            if n = 0 then after.problem = before.problem
            else (problem.residuals after.problem).value =
              List.ofFn (landscape.residuals params)) ∨
          (built = false ∧ ∃ passed failing left,
            probes steps params = passed ++ failing :: left ∧
            (∀ place ∈ passed, (landscape.sos place).isSome) ∧ landscape.sos failing = none ∧
            visited = passed ++ [failing] ∧ after.jacobian = before.jacobian)) := by
  refine ⟨fun placed => ⟨fun built after returned => placed.buildJacobian standing returned,
    fun counted => placed.exists_buildJacobian counted standing steps⟩, fun landscape follows => ?_⟩
  obtain ⟨built, after, visited, returned, surveyed, standing, ending⟩ :=
    follows.buildJacobian steps standing
  refine ⟨built, after, visited, returned, surveyed, standing, ending.imp_left ?_⟩
  rintro ⟨rebuilt, clear, visitedIs, measured, residuals⟩
  refine ⟨rebuilt, clear, visitedIs, ?_, measured, ?_, residuals⟩
  · rw [visitedIs, length_probes]
  · intro i j curve degree along
    rw [← Table.toMatrix_apply, measured]
    exact Landscape.jacobian_eq_derivative nonzero clear i j degree along

theorem buildJacobian_exact_parabola :
    (∀ j, (#v[1 / 2] : Vector ℚ 1).get j ≠ 0) ∧ parabolaStart.problem.params = (fun _ => 0) ∧
    ∃ after, Returns (parabola.problem.buildJacobian #v[1 / 2]) parabolaStart true after ∧
      after.problem.params = (fun _ => 0) ∧ after.jacobian.get 0 0 = 1 := by
  have nonzero : ∀ j, (#v[1 / 2] : Vector ℚ 1).get j ≠ 0 := by decide +kernel
  have standing : parabolaStart.problem.params = fun _ => 0 := rfl
  have clear : parabola.Clear (probes #v[1 / 2] fun _ => 0) := by
    unfold Landscape.Clear
    decide +kernel
  obtain ⟨built, after, _, returned, _, home, ending⟩ :=
    (buildJacobian_exact parabola.problem (fun params standing => standing.params = params) nonzero
      standing).2 parabola parabola.follows
  obtain ⟨rfl, _, _, _, _, slope, _⟩ | ⟨_, passed, failing, left, split, _, fails, _⟩ := ending
  · refine ⟨nonzero, standing, after, returned, home, ?_⟩
    rw [slope 0 0 (.X - .C 1) (by rw [Polynomial.natDegree_X_sub_C]; decide)
      fun x _ => by simp [parabola]]
    simp
  · have evaluates := clear failing (split ▸ List.mem_append_right passed List.mem_cons_self)
    simp [fails] at evaluates

/-- Without parameters there is one place to be, and here it cannot be evaluated. -/
def nowhere : Landscape ℚ 1 0 where
  sos _ := none
  residuals _ _ := 0

/-- The Jacobian is rebuilt all the same: nothing is evaluated. -/
theorem nowhere_rebuilds :
    nowhere.sos ![] = none ∧
    (∃ after, Returns (nowhere.problem.buildJacobian #v[])
      (Problem.initial ⟨![], [0]⟩ : Measured ℚ (Standing ℚ 0) 1 0) true after) ∧
    ¬ ∃ after, Returns (nowhere.problem.buildJacobian #v[])
      (Problem.initial ⟨![], [0]⟩ : Measured ℚ (Standing ℚ 0) 1 0) false after := by
  have rebuilt : Returns (nowhere.problem.buildJacobian #v[])
      (Problem.initial ⟨![], [0]⟩ : Measured ℚ (Standing ℚ 0) 1 0) true
      ⟨Table.zeros, ⟨![], [0]⟩⟩ := ⟨rfl, rfl⟩
  refine ⟨rfl, ⟨_, rebuilt⟩, ?_⟩
  rintro ⟨_, given⟩
  exact absurd (rebuilt.unique given).1 (by decide)

end OpticTune.Solver
