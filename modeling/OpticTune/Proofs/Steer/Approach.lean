import OpticTune.Proofs.Solver.Agrees
import OpticTune.Proofs.Solver.Keeps
import OpticTune.Steer.Pass

namespace OpticTune.Steer

open Act (Keeps Returns)
open Optics
open Solver (Config Host Measured Status)

/-! The iterations of one ray, for any host and arithmetic. -/

variable {α τ : Type} {S R m n : Nat} [Scalar α] {host : Host α (Measured α (Course α τ S R) m n)}
  {config : Config α} {state : Solver.State α} {reached : Option (Solver.State α)}
  {before after : Measured α (Course α τ S R) m n} {iterations : Nat}

theorem returns_approach_zero :
    Returns (approach host config 0 state) before reached after ↔
      reached = some state ∧ after = before :=
  Act.returns_pure

/-- A trace that failed counts, whatever the iteration made of it. -/
theorem returns_approach_succ :
    Returns (approach host config (iterations + 1) state) before reached after ↔
      ∃ answer middle, Returns (Solver.iterate host config state) before answer middle ∧
        if middle.problem.wentBad ∨ answer.2 = .bad then reached = none ∧ after = middle
        else if answer.2 = .level then reached = some answer.1 ∧ after = middle
        else Returns (approach host config iterations answer.1) middle reached after := by
  rw [approach, Act.returns_bind]
  refine exists_congr fun answer => exists_congr fun middle => and_congr_right fun _ => ?_
  obtain ⟨state, status⟩ := answer
  simp only [Act.returns_get_bind, Bool.or_eq_true, decide_eq_true_eq]
  split
  · exact Act.returns_pure
  · split
    · exact Act.returns_pure
    · rfl

/-- What one iteration comes to, and any further ones, the approach comes to. -/
theorem exists_approach_succ {answer : Solver.State α × Status}
    {middle : Measured α (Course α τ S R) m n} {ends : Measured α (Course α τ S R) m n → Prop}
    (iterated : Returns (Solver.iterate host config state) before answer middle)
    (here : ends middle)
    (further : ∃ reached after,
      Returns (approach host config iterations answer.1) middle reached after ∧ ends after) :
    ∃ reached after, Returns (approach host config (iterations + 1) state) before reached after ∧
      ends after := by
  simp only [returns_approach_succ]
  by_cases failed : middle.problem.wentBad ∨ answer.2 = .bad
  · refine ⟨none, middle, ⟨answer, middle, iterated, ?_⟩, here⟩
    rw [if_pos failed]
    exact ⟨rfl, rfl⟩
  · by_cases level : answer.2 = .level
    · refine ⟨some answer.1, middle, ⟨answer, middle, iterated, ?_⟩, here⟩
      rw [if_neg failed, if_pos level]
      exact ⟨rfl, rfl⟩
    · obtain ⟨reached, after, returned, there⟩ := further
      refine ⟨reached, after, ⟨answer, middle, iterated, ?_⟩, there⟩
      rwa [if_neg failed, if_neg level]

theorem keeps_approach {holds : Measured α (Course α τ S R) m n → Prop} (kept : host.KeptBy holds)
    (config : Config α) (iterations : Nat) (state : Solver.State α) :
    Keeps holds (approach host config iterations state).run := by
  induction iterations generalizing state with
  | zero => exact Act.keeps_return _
  | succ iterations ih =>
      refine (kept.iterate config state).andThen fun answer => Act.keeps_get.andThen fun course => ?_
      split
      · exact Act.keeps_return _
      · split
        · exact Act.keeps_return _
        · exact ih answer.1

/-- Hosts that answer alike are approached alike, as long as they agree on whether a
trace has failed. -/
theorem agrees_approach {υ : Type} {Q : Nat} {second : Host α (Measured α (Course α υ S Q) m n)}
    {rel : Course α τ S R → Course α υ S Q → Prop}
    (agrees : host.Agrees second (Measured.Related rel))
    (wentBad : ∀ left right, rel left right → left.wentBad = right.wentBad) (config : Config α)
    (iterations : Nat) (state : Solver.State α) :
    Act.Agrees (Measured.Related rel) (approach host config iterations state).run
      (approach second config iterations state).run := by
  induction iterations generalizing state with
  | zero => exact Act.agrees_return _
  | succ iterations ih =>
      refine (agrees.iterate config state).andThen fun ⟨state, status⟩ => ?_
      have alike (left : Measured α (Course α τ S R) m n) (right : Measured α (Course α υ S Q) m n)
          (related : Measured.Related rel left right) :
          left.problem.wentBad = right.problem.wentBad := wentBad _ _ related.2
      refine Act.agrees_get_bind alike
        (fun wentBad => if wentBad || status = .bad then return none
          else if status = .level then return some state
          else approach host config iterations state)
        (fun wentBad => if wentBad || status = .bad then return none
          else if status = .level then return some state
          else approach second config iterations state) fun wentBad => ?_
      split
      · exact Act.agrees_return _
      · split
        · exact Act.agrees_return _
        · exact ih _

end OpticTune.Steer
