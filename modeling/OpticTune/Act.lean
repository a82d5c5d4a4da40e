import OpticTune.Log.Record

namespace OpticTune

/-! Actions on a state.

An action answers, leaves a state, and leaves the records it made on the way. It
cannot read the records, so what it answers and leaves never depends on them.
-/

open Log (Record)

structure Outcome (α σ β : Type) where
  value : β
  state : σ
  log : List (Record α)

def Act (α σ β : Type) : Type :=
  σ → Outcome α σ β

namespace Act

variable {α σ τ β γ : Type}

def ofPure (value : β) : Act α σ β :=
  fun state => { value, state, log := [] }

def andThen (first : Act α σ β) (next : β → Act α σ γ) : Act α σ γ := fun state =>
  let before := first state
  let after := next before.value before.state
  { value := after.value, state := after.state, log := before.log ++ after.log }

instance : Monad (Act α σ) where
  pure := ofPure
  bind := andThen

@[simp]
theorem pure_apply (value : β) (state : σ) :
    (pure value : Act α σ β) state = { value, state, log := [] } := rfl

@[simp]
theorem value_bind (first : Act α σ β) (next : β → Act α σ γ) (state : σ) :
    ((first >>= next) state).value = (next (first state).value (first state).state).value := rfl

@[simp]
theorem state_bind (first : Act α σ β) (next : β → Act α σ γ) (state : σ) :
    ((first >>= next) state).state = (next (first state).value (first state).state).state := rfl

@[simp]
theorem log_bind (first : Act α σ β) (next : β → Act α σ γ) (state : σ) :
    ((first >>= next) state).log =
      (first state).log ++ (next (first state).value (first state).state).log := rfl

theorem ext {first second : Act α σ β} (agree : ∀ state, first state = second state) :
    first = second :=
  funext agree

theorem bind_pure_value (action : Act α σ β) : action >>= pure = action :=
  ext fun state => by
    change Outcome.mk _ _ ((action state).log ++ []) = action state
    rw [List.append_nil]
    rfl

theorem bind_assoc {δ : Type} (first : Act α σ β) (second : β → Act α σ γ)
    (third : γ → Act α σ δ) :
    first >>= second >>= third = first >>= fun value => second value >>= third :=
  ext fun state => by
    change Outcome.mk _ _ ((_ ++ _) ++ _) = Outcome.mk _ _ (_ ++ (_ ++ _))
    rw [List.append_assoc]
    rfl

instance : LawfulMonad (Act α σ) :=
  LawfulMonad.mk' (Act α σ) bind_pure_value (fun _ _ => rfl) bind_assoc

instance : MonadStateOf σ (Act α σ) where
  get := fun state => { value := state, state, log := [] }
  set next := fun _ => { value := (), state := next, log := [] }
  modifyGet f := fun state =>
    let answer := f state
    { value := answer.1, state := answer.2, log := [] }

@[simp]
theorem get_apply (state : σ) :
    (get : Act α σ σ) state = { value := state, state, log := [] } := rfl

@[simp]
theorem modify_apply (change : σ → σ) (state : σ) :
    (modify change : Act α σ PUnit) state = { value := (), state := change state, log := [] } :=
  rfl

/-- Changes the state, unless the change is refused. -/
def change {ε : Type} (changed : σ → Except ε σ) : ExceptT ε (Act α σ) Unit := do
  set (← changed (← get))

def report (record : Record α) : Act α σ Unit :=
  fun state => { value := (), state, log := [record] }

/-- Reports within an action that may be stopped. -/
def note {ε : Type} (record : Record α) : ExceptT ε (Act α σ) Unit :=
  ExceptT.lift (report record)

/-- Performs an action on a part of the state, or on a state set up for it:
`enter` gives the state it works on, `leave` puts that back. -/
def within (enter : σ → τ) (leave : σ → τ → σ) (action : Act α τ β) : Act α σ β := fun state =>
  let inner := action (enter state)
  { value := inner.value, state := leave state inner.state, log := inner.log }

/-- Performs an action on a state of its own, which it hands back with its
answer. The state outside stays as it is. -/
def inside {ε : Type} (start : τ) (action : ExceptT ε (Act α τ) β) :
    ExceptT ε (Act α σ) (β × τ) :=
  ExceptT.mk (within (fun _ => start) (fun state _ => state) do
    let result ← action.run
    let state ← get
    return result.map fun value => (value, state))

@[simp]
theorem value_within (enter : σ → τ) (leave : σ → τ → σ) (action : Act α τ β) (state : σ) :
    (within enter leave action state).value = (action (enter state)).value := rfl

@[simp]
theorem state_within (enter : σ → τ) (leave : σ → τ → σ) (action : Act α τ β) (state : σ) :
    (within enter leave action state).state = leave state (action (enter state)).state := rfl

end Act

end OpticTune
