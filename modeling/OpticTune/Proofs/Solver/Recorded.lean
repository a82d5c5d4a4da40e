import OpticTune.Proofs.Returns
import OpticTune.Solver.Iteration

namespace OpticTune.Solver

open Act (Returns)

/-! Hosts that keep a record of the calls made on them.

A recorded host answers as the host itself does, and appends every call with
what it was answered. The entries that are fetched are left out of the record.
-/

variable {α σ β : Type}

inductive Call (α : Type) where
  | evaluate (sos : Option α)
  | nudge (delta : List α) (sos : Option α)
  | buildJacobian (succeeded : Bool)
  | fetchJacobian (row column : Int)
  | fetchResidual (row : Int)
deriving DecidableEq

structure Recorded (α σ : Type) where
  host : σ
  calls : List (Call α)

namespace Recorded

def onHost (action : Act α σ β) : Act α (Recorded α σ) β :=
  Act.within host (fun state host => { state with host }) action

def append (call : Call α) : Act α (Recorded α σ) Unit :=
  modify fun state => { state with calls := state.calls ++ [call] }

/-- An action that may be stopped, and the call it is recorded as. -/
def recording (action : ExceptT Fault (Act α σ) β) (call : β → Call α) :
    ExceptT Fault (Act α (Recorded α σ)) β := do
  let recorded : ExceptT Fault (Act α (Recorded α σ)) β := onHost action.run
  let answer ← recorded
  append (σ := σ) (call answer)
  return answer

end Recorded

open Recorded

def Host.recorded (host : Host α σ) : Host α (Recorded α σ) where
  evaluate := do
    let sos ← onHost host.evaluate
    append (.evaluate sos)
    return sos
  nudge delta := do
    let sos ← onHost (host.nudge delta)
    append (.nudge delta sos)
    return sos
  buildJacobian := recording host.buildJacobian .buildJacobian
  fetchJacobian row column := recording (host.fetchJacobian row column)
    fun _ => .fetchJacobian row column
  fetchResidual row := recording (host.fetchResidual row) fun _ => .fetchResidual row

/-- The recorded action answers as the other one does, and the calls it makes
are `calls`. -/
def Records (action : ExceptT Fault (Act α σ) β)
    (recorded : ExceptT Fault (Act α (Recorded α σ)) β) (calls : List (Call α)) : Prop :=
  ∀ ⦃before answer after⦄ earlier, Returns action before answer after →
    Returns recorded ⟨before, earlier⟩ answer ⟨after, earlier ++ calls⟩

theorem records_pure (answer : β) :
    Records (pure answer : ExceptT Fault (Act α σ) β) (pure answer) [] := by
  intro before found after earlier returned
  obtain ⟨rfl, rfl⟩ := Act.returns_pure.mp returned
  rw [List.append_nil]
  exact Act.returns_pure.mpr ⟨rfl, rfl⟩

theorem Records.bind {γ : Type} {first : ExceptT Fault (Act α σ) β}
    {firstRecorded : ExceptT Fault (Act α (Recorded α σ)) β}
    {next : β → ExceptT Fault (Act α σ) γ}
    {nextRecorded : β → ExceptT Fault (Act α (Recorded α σ)) γ} {calls more : List (Call α)}
    (records : Records first firstRecorded calls)
    (recordsNext : ∀ value, Records (next value) (nextRecorded value) more) :
    Records (first >>= next) (firstRecorded >>= nextRecorded) (calls ++ more) := by
  intro before answer after earlier returned
  obtain ⟨value, middle, begun, rest⟩ := Act.returns_bind.mp returned
  refine Act.returns_bind.mpr ⟨value, _, records earlier begun, ?_⟩
  rw [← List.append_assoc]
  exact recordsNext value _ rest

theorem returns_recording {action : ExceptT Fault (Act α σ) β} {call : β → Call α} {answer : β}
    {before after : σ} {earlier : List (Call α)} (returned : Returns action before answer after) :
    Returns (recording action call) ⟨before, earlier⟩ answer
      ⟨after, earlier ++ [call answer]⟩ := by
  refine Act.returns_bind.mpr ⟨answer, ⟨after, earlier⟩, ?_, ?_⟩
  · exact Act.returns_within.mpr ⟨after, returned, rfl⟩
  · exact Act.returns_bind.mpr ⟨(), _, Act.returns_liftM.mpr ⟨rfl, rfl⟩,
      Act.returns_pure.mpr ⟨rfl, rfl⟩⟩

variable (host : Host α σ)

@[simp]
theorem state_evaluate_recorded (before : σ) (earlier : List (Call α)) :
    (host.recorded.evaluate ⟨before, earlier⟩).state =
      ⟨(host.evaluate before).state, earlier ++ [.evaluate (host.evaluate before).value]⟩ := rfl

@[simp]
theorem state_nudge_recorded (delta : List α) (before : σ) (earlier : List (Call α)) :
    (host.recorded.nudge delta ⟨before, earlier⟩).state =
      ⟨(host.nudge delta before).state,
        earlier ++ [.nudge delta (host.nudge delta before).value]⟩ := rfl

theorem returns_buildJacobian_recorded (earlier : List (Call α)) {before after : σ}
    {succeeded : Bool} (returned : Returns host.buildJacobian before succeeded after) :
    Returns host.recorded.buildJacobian ⟨before, earlier⟩ succeeded
      ⟨after, earlier ++ [.buildJacobian succeeded]⟩ :=
  returns_recording returned

theorem records_fetchJacobian (row column : Int) :
    Records (host.fetchJacobian row column) (host.recorded.fetchJacobian row column)
      [.fetchJacobian row column] :=
  fun _ _ _ _ returned => returns_recording returned

theorem records_fetchResidual (row : Int) :
    Records (host.fetchResidual row) (host.recorded.fetchResidual row) [.fetchResidual row] :=
  fun _ _ _ _ returned => returns_recording returned

section Reading

variable {read : Nat → ExceptT Fault (Act α σ) β}
  {recorded : Nat → ExceptT Fault (Act α (Recorded α σ)) β} {calls : Nat → List (Call α)}

theorem records_readOn (each : ∀ place, Records (read place) (recorded place) (calls place))
    {count done left : Nat} {values : Vector β done} (full : done + left = count) :
    Records (readOn read values left full) (readOn recorded values left full)
      ((List.range' done left).flatMap calls) := by
  induction left generalizing done with
  | zero => exact records_pure _
  | succ left ih => exact (each done).bind fun value => ih (by omega)

theorem records_readEach (each : ∀ place, Records (read place) (recorded place) (calls place))
    (count : Nat) :
    Records (readEach count read) (readEach count recorded)
      ((List.range count).flatMap calls) := by
  rw [List.range_eq_range']
  exact records_readOn each _

end Reading

/-- Every entry of the Jacobian once, row by row, then every residual once. -/
def gathering (pointCount paramCount : Nat) : List (Call α) :=
  ((List.range pointCount).flatMap fun i => (List.range paramCount).map fun j =>
    .fetchJacobian i j) ++ (List.range pointCount).map fun i => .fetchResidual i

theorem records_gather (pointCount paramCount : Nat) :
    Records (host.gather pointCount paramCount) (host.recorded.gather pointCount paramCount)
      (gathering pointCount paramCount) := by
  have rowsRecorded := records_readEach (fun i => records_readEach
    (fun j => records_fetchJacobian host i j) paramCount) pointCount
  have residualsRecorded := records_readEach (fun i => records_fetchResidual host i) pointCount
  have records := rowsRecorded.bind fun rows => residualsRecorded.bind fun residuals =>
    records_pure ((⟨rows⟩, residuals) : Table α _ _ × Vector α _)
  simp only [List.append_nil, ← List.map_eq_flatMap] at records
  exact records

end OpticTune.Solver
