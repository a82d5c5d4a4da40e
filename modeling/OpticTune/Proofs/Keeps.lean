import OpticTune.Proofs.Returns

namespace OpticTune.Act

/-! What an action keeps.

`Keeps holds action` says that the action leaves a state of which `holds` is true
if it starts in one, whatever it answers and also if it is stopped. There is one
rule for every way actions are put together.
-/

variable {α σ τ ε β γ : Type} {holds : σ → Prop}

def Keeps (holds : σ → Prop) (action : Act α σ β) : Prop :=
  ∀ ⦃state⦄, holds state → holds (action state).state

theorem keeps_pure (value : β) : Keeps holds (pure value : Act α σ β) :=
  fun _ held => held

theorem Keeps.bind {first : Act α σ β} {next : β → Act α σ γ} (keepsFirst : Keeps holds first)
    (keepsNext : ∀ value, Keeps holds (next value)) : Keeps holds (first >>= next) :=
  fun _ held => keepsNext _ (keepsFirst held)

theorem keeps_report (record : Log.Record α) : Keeps holds (report record : Act α σ Unit) :=
  fun _ held => held

theorem keeps_modify {change : σ → σ} (keeps : ∀ state, holds state → holds (change state)) :
    Keeps holds (modify change : Act α σ PUnit) :=
  fun state held => keeps state held

theorem Keeps.within {part : τ → Prop} {action : Act α τ β} (keeps : Keeps part action)
    (enter : σ → τ) (leave : σ → τ → σ) (enters : ∀ state, holds state → part (enter state))
    (leaves : ∀ state inner, holds state → part inner → holds (leave state inner)) :
    Keeps holds (Act.within enter leave action) :=
  fun state held => leaves state _ held (keeps (enters state held))

/-! Actions that may be stopped. -/

theorem keeps_return (value : β) : Keeps holds (pure value : ExceptT ε (Act α σ) β).run :=
  fun _ held => held

theorem Keeps.andThen {first : ExceptT ε (Act α σ) β} {next : β → ExceptT ε (Act α σ) γ}
    (keepsFirst : Keeps holds first.run) (keepsNext : ∀ value, Keeps holds (next value).run) :
    Keeps holds (first >>= next).run := by
  refine keepsFirst.bind fun answer => ?_
  cases answer with
  | ok value => exact keepsNext value
  | error fault => exact keeps_pure _

theorem Keeps.lift {action : Act α σ β} (keeps : Keeps holds action) :
    Keeps holds (ExceptT.lift action : ExceptT ε (Act α σ) β).run :=
  keeps

theorem keeps_get : Keeps holds (get : ExceptT ε (Act α σ) σ).run :=
  fun _ held => held

theorem keeps_set {change : σ → σ} (keeps : ∀ state, holds state → holds (change state)) :
    Keeps holds (modify change : ExceptT ε (Act α σ) PUnit).run :=
  fun state held => keeps state held

theorem keeps_note (record : Log.Record α) :
    Keeps holds (note record : ExceptT ε (Act α σ) Unit).run :=
  fun _ held => held

theorem keeps_ofExcept (result : Except ε β) :
    Keeps holds (liftM result : ExceptT ε (Act α σ) β).run :=
  fun _ held => held

theorem keeps_throw (error : ε) : Keeps holds (throw error : ExceptT ε (Act α σ) β).run :=
  fun _ held => held

theorem Keeps.of_returns {action : ExceptT ε (Act α σ) β} (keeps : Keeps holds action.run)
    {before after : σ} {answer : β} (returned : Returns action before answer after)
    (held : holds before) : holds after :=
  returned.2 ▸ keeps held

end OpticTune.Act
