import OpticTune.Proofs.Solver.Agrees
import OpticTune.Proofs.Solver.Keeps

namespace OpticTune.Solver

open Act (Keeps)

/-! Iterations that are watched for the sizes of what they handle.

Watching an action notes down what there is to see once it is done, be it that it
was stopped, and changes nothing else. An iteration is watched twice: every change,
evaluation and reading of the problem with the number of residuals held afterwards,
and every request to the host with what it was made for.
-/

variable {α σ τ β ε : Type} {m n : Nat}

/-- A state with what was seen on the way, the earliest first. -/
structure Watched (σ ε : Type) where
  state : σ
  sights : List ε

def watching (sight : β → σ → ε) (action : Act α σ β) : Act α (Watched σ ε) β := fun watched =>
  let done := action watched.state
  { done with state := {
      state := done.state
      sights := watched.sights ++ [sight done.value done.state] } }

theorem agrees_watching (sight : β → σ → ε) (action : Act α σ β) :
    Act.Agrees (fun (watched : Watched σ ε) state => watched.state = state) (watching sight action)
      action := by
  intro watched state same
  cases same
  exact ⟨rfl, rfl⟩

theorem keeps_watching (sight : β → σ → ε) {holds : σ → Prop} {fits : ε → Prop}
    {action : Act α σ β} (keeps : Keeps holds action)
    (seen : ∀ state, holds state → fits (sight (action state).value (action state).state)) :
    Keeps (fun watched : Watched σ ε => holds watched.state ∧ ∀ sight ∈ watched.sights, fits sight)
      (watching sight action) := by
  intro watched held
  refine ⟨keeps held.1, ?_⟩
  intro entry member
  rcases List.mem_append.mp member with earlier | last
  · exact held.2 entry earlier
  · cases List.mem_singleton.mp last
    exact seen watched.state held.1

/-- What is done to a problem, with the number of residuals it holds afterwards. -/
inductive Deed (α : Type) where
  | applied (delta : List α) (held : Nat)
  | evaluated (sos : Option α) (held : Nat)
  | read (residuals : List α) (held : Nat)

/-- What is asked of a host. -/
inductive Request (α : Type) where
  | evaluate
  | nudge (delta : List α)
  | buildJacobian
  | fetchJacobian (row column : Int)
  | fetchResidual (row : Int)

/-- Changes have an entry for each of `n` parameters, and the residuals are `m`. -/
def Deed.Fits (m n : Nat) : Deed α → Prop
  | applied delta held => delta.length = n ∧ held = m
  | evaluated _ held => held = m
  | read residuals held => residuals.length = m ∧ held = m

def Request.Fits (m n : Nat) : Request α → Prop
  | evaluate => True
  | nudge delta => delta.length = n
  | buildJacobian => True
  | fetchJacobian row column => (0 ≤ row ∧ row < m) ∧ 0 ≤ column ∧ column < n
  | fetchResidual row => 0 ≤ row ∧ row < m

namespace Problem

/-- The number of residuals a problem would hand out. -/
def held (problem : Problem α σ) (state : σ) : Nat :=
  (problem.residuals state).value.length

def watched (problem : Problem α σ) : Problem α (Watched σ (Deed α)) where
  apply delta := watching (fun _ state => .applied delta (problem.held state)) (problem.apply delta)
  evaluate := watching (fun sos state => .evaluated sos (problem.held state)) problem.evaluate
  residuals := watching (fun residuals state => .read residuals (problem.held state))
    problem.residuals

theorem agrees_watched (problem : Problem α σ) :
    problem.watched.Agrees problem fun watched state => watched.state = state where
  apply _ := agrees_watching _ _
  evaluate := agrees_watching _ _
  residuals := agrees_watching _ _

/-- The problem always holds `m` residuals, as long as changes have `n` entries. -/
structure Holding (problem : Problem α σ) (m n : Nat) (holds : σ → Prop) : Prop where
  kept : problem.KeptWithin n holds
  held : ∀ state, holds state → problem.held state = m

theorem Holding.watched {problem : Problem α σ} {holds : σ → Prop}
    (holding : problem.Holding m n holds) :
    problem.watched.KeptWithin n fun watched =>
      holds watched.state ∧ ∀ deed ∈ watched.sights, deed.Fits m n where
  apply delta length := keeps_watching _ (holding.kept.apply delta length) fun _ held =>
    ⟨length, holding.held _ (holding.kept.apply delta length held)⟩
  evaluate := keeps_watching _ holding.kept.evaluate fun _ held =>
    holding.held _ (holding.kept.evaluate held)
  residuals := keeps_watching _ holding.kept.residuals fun state held =>
    ⟨holding.held state held, holding.held _ (holding.kept.residuals held)⟩

end Problem

/-- A request is seen even if it is stopped. -/
def requested (request : Request α) (action : ExceptT Fault (Act α σ) β) :
    ExceptT Fault (Act α (Watched σ (Request α))) β :=
  ExceptT.mk (watching (fun _ _ => request) action.run)

theorem agrees_requested (request : Request α) (action : ExceptT Fault (Act α σ) β) :
    Act.Agrees (fun (watched : Watched σ (Request α)) state => watched.state = state)
      (requested request action).run action.run :=
  agrees_watching (fun _ _ => request) action.run

theorem keeps_requested {holds : σ → Prop} {request : Request α}
    {action : ExceptT Fault (Act α σ) β} (keeps : Keeps holds action.run)
    (fits : request.Fits m n) :
    Keeps (fun watched : Watched σ (Request α) =>
        holds watched.state ∧ ∀ request ∈ watched.sights, request.Fits m n)
      (requested request action).run :=
  keeps_watching (fun _ _ => request) keeps fun _ _ => fits

namespace Host

def watched (host : Host α σ) : Host α (Watched σ (Request α)) where
  evaluate := watching (fun _ _ => .evaluate) host.evaluate
  nudge delta := watching (fun _ _ => .nudge delta) (host.nudge delta)
  buildJacobian := requested .buildJacobian host.buildJacobian
  fetchJacobian row column := requested (.fetchJacobian row column) (host.fetchJacobian row column)
  fetchResidual row := requested (.fetchResidual row) (host.fetchResidual row)

theorem agrees_watched (host : Host α σ) :
    host.watched.Agrees host fun watched state => watched.state = state where
  evaluate := agrees_watching _ _
  nudge _ := agrees_watching _ _
  buildJacobian := agrees_requested _ _
  fetchJacobian _ _ := agrees_requested _ _
  fetchResidual _ := agrees_requested _ _

theorem KeptWithin.watched {host : Host α σ} {holds : σ → Prop} (kept : host.KeptWithin m n holds) :
    host.watched.KeptWithin m n fun watched =>
      holds watched.state ∧ ∀ request ∈ watched.sights, request.Fits m n where
  evaluate := keeps_watching _ kept.evaluate fun _ _ => trivial
  nudge delta length := keeps_watching _ (kept.nudge delta length) fun _ _ => length
  buildJacobian := keeps_requested kept.buildJacobian trivial
  fetchJacobian row inside column within :=
    keeps_requested (kept.fetchJacobian row inside column within)
      ⟨⟨Int.natCast_nonneg row, Int.ofNat_lt.mpr inside⟩, Int.natCast_nonneg column,
        Int.ofNat_lt.mpr within⟩
  fetchResidual row inside := keeps_requested (kept.fetchResidual row inside)
    ⟨Int.natCast_nonneg row, Int.ofNat_lt.mpr inside⟩

end Host

theorem length_toRows (table : Table α m n) : table.toRows.length = m := by
  rw [Table.toRows, List.length_map, Vector.length_toList]

variable [Scalar α]

/-- An iteration watched at its problem and at its host. -/
def watchedIteration (problem : Problem α σ) (steps : Vector α n) (config : Config α)
    (state : State α) (before : Measured α σ m n) :
    Outcome α (Watched (Measured α (Watched σ (Deed α)) m n) (Request α))
      (Except Fault (State α × Status)) :=
  (iterate (problem.watched.host steps).watched config state).run
    ⟨⟨before.jacobian, ⟨before.problem, []⟩⟩, []⟩

/-- The sizes of all that an iteration handles agree with the settings, wherever it
ends; it is the watched iteration that tells. -/
structure SizesAgree (problem : Problem α σ) (steps : Vector α n) (config : Config α)
    (state : State α) (before : Measured α σ m n) : Prop where
  rows : before.jacobian.toRows.length = config.pointCount
  columns : ∀ row ∈ before.jacobian.toRows, row.length = config.paramCount
  stepCount : steps.toList.length = config.paramCount
  held : problem.held before.problem = config.pointCount
  answers : (watchedIteration problem steps config state before).value =
    ((iterate (problem.host steps) config state).run before).value
  jacobian : (watchedIteration problem steps config state before).state.state.jacobian =
    ((iterate (problem.host steps) config state).run before).state.jacobian
  leaves : (watchedIteration problem steps config state before).state.state.problem.state =
    ((iterate (problem.host steps) config state).run before).state.problem
  deeds : ∀ deed ∈ (watchedIteration problem steps config state before).state.state.problem.sights,
    deed.Fits config.pointCount config.paramCount
  requests : ∀ request ∈ (watchedIteration problem steps config state before).state.sights,
    request.Fits config.pointCount config.paramCount

theorem Problem.Holding.sizesAgree {problem : Problem α σ} {holds : σ → Prop}
    (holding : problem.Holding m n holds) {config : Config α} (points : config.pointCount = m)
    (params : config.paramCount = n) (steps : Vector α n) (state : State α)
    {before : Measured α σ m n} (held : holds before.problem) :
    SizesAgree problem steps config state before := by
  subst points params
  let begun : Watched (Measured α (Watched σ (Deed α)) _ _) (Request α) :=
    ⟨⟨before.jacobian, ⟨before.problem, []⟩⟩, []⟩
  have related : Measured.Related (fun (watched : Watched σ (Deed α)) state => watched.state = state)
      begun.state before := ⟨rfl, rfl⟩
  obtain ⟨outer, leavesOuter⟩ :=
    (problem.watched.host steps).agrees_watched.iterate config state (rfl : begun.state = begun.state)
  obtain ⟨inner, jacobian, leaves⟩ :=
    (problem.agrees_watched.host steps).iterate config state related
  obtain ⟨⟨_, deeds⟩, requests⟩ := ((holding.watched.host steps).watched.iterate state)
    (show (holds begun.state.problem.state ∧ ∀ deed ∈ begun.state.problem.sights, deed.Fits _ _) ∧
      ∀ request ∈ begun.sights, request.Fits _ _ from ⟨⟨held, nofun⟩, nofun⟩)
  refine ⟨length_toRows _, ?_, Vector.length_toList, holding.held _ held, outer.trans inner, ?_,
    ?_, deeds, requests⟩
  · intro row member
    obtain ⟨cells, _, rfl⟩ := List.mem_map.mp member
    exact Vector.length_toList
  · exact (congrArg Measured.jacobian leavesOuter).trans jacobian
  · exact (congrArg (fun measured => measured.problem.state) leavesOuter).trans leaves

end OpticTune.Solver
