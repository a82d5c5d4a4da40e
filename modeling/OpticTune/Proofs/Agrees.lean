import OpticTune.Proofs.Returns

namespace OpticTune.Act

/-! Two actions that answer alike.

`Agrees rel first second` says that from states that `rel` relates the two actions
give the same answer, be it that they return or that they are stopped, and leave
states that it relates. What they report is left out. There is one rule for every
way actions are put together.
-/

variable {α σ σ' τ τ' ε β γ : Type} {rel : σ → τ → Prop}

def Agrees (rel : σ → τ → Prop) (first : Act α σ β) (second : Act α τ β) : Prop :=
  ∀ ⦃left right⦄, rel left right →
    (first left).value = (second right).value ∧ rel (first left).state (second right).state

theorem agrees_pure (value : β) :
    Agrees rel (pure value : Act α σ β) (pure value : Act α τ β) :=
  fun _ _ related => ⟨rfl, related⟩

theorem Agrees.bind {first : Act α σ β} {second : Act α τ β} {next : β → Act α σ γ}
    {following : β → Act α τ γ} (agrees : Agrees rel first second)
    (further : ∀ value, Agrees rel (next value) (following value)) :
    Agrees rel (first >>= next) (second >>= following) := by
  intro left right related
  obtain ⟨same, related⟩ := agrees related
  rw [value_bind, value_bind, state_bind, state_bind, same]
  exact further _ related

theorem agrees_modify {change : σ → σ} {changing : τ → τ}
    (keeps : ∀ left right, rel left right → rel (change left) (changing right)) :
    Agrees rel (modify change : Act α σ PUnit) (modify changing : Act α τ PUnit) :=
  fun left right related => ⟨rfl, keeps left right related⟩

theorem Agrees.within {part : σ' → τ' → Prop} {first : Act α σ' β} {second : Act α τ' β}
    (agrees : Agrees part first second) {enter : σ → σ'} {leave : σ → σ' → σ}
    {entering : τ → τ'} {leaving : τ → τ' → τ}
    (enters : ∀ left right, rel left right → part (enter left) (entering right))
    (leaves : ∀ left right inner other, rel left right → part inner other →
      rel (leave left inner) (leaving right other)) :
    Agrees rel (Act.within enter leave first) (Act.within entering leaving second) := by
  intro left right related
  obtain ⟨same, inner⟩ := agrees (enters left right related)
  exact ⟨same, leaves left right _ _ related inner⟩

theorem Agrees.symm {first : Act α σ β} {second : Act α τ β} (agrees : Agrees rel first second) :
    Agrees (fun right left => rel left right) second first :=
  fun _ _ related => ⟨(agrees related).1.symm, (agrees related).2⟩

/-! Actions that may be stopped. -/

theorem agrees_return (value : β) :
    Agrees rel (pure value : ExceptT ε (Act α σ) β).run (pure value : ExceptT ε (Act α τ) β).run :=
  fun _ _ related => ⟨rfl, related⟩

theorem Agrees.andThen {first : ExceptT ε (Act α σ) β} {second : ExceptT ε (Act α τ) β}
    {next : β → ExceptT ε (Act α σ) γ} {following : β → ExceptT ε (Act α τ) γ}
    (agrees : Agrees rel first.run second.run)
    (further : ∀ value, Agrees rel (next value).run (following value).run) :
    Agrees rel (first >>= next).run (second >>= following).run := by
  refine agrees.bind fun answer => ?_
  cases answer with
  | ok value => exact further value
  | error error => exact agrees_pure _

theorem Agrees.lift {first : Act α σ β} {second : Act α τ β} (agrees : Agrees rel first second) :
    Agrees rel (ExceptT.lift first : ExceptT ε (Act α σ) β).run
      (ExceptT.lift second : ExceptT ε (Act α τ) β).run :=
  agrees.bind fun value => agrees_pure (Except.ok value)

theorem Agrees.discard {first : Act α σ β} {second : Act α τ β}
    (agrees : Agrees rel first second) :
    Agrees rel (Functor.discard (liftM first : ExceptT ε (Act α σ) β)).run
      (Functor.discard (liftM second : ExceptT ε (Act α τ) β)).run :=
  fun _ _ related => ⟨rfl, (agrees related).2⟩

theorem agrees_note (record other : Log.Record α) :
    Agrees rel (note record : ExceptT ε (Act α σ) Unit).run
      (note other : ExceptT ε (Act α τ) Unit).run :=
  fun _ _ related => ⟨rfl, related⟩

theorem agrees_ofExcept (result : Except ε β) :
    Agrees rel (liftM result : ExceptT ε (Act α σ) β).run
      (liftM result : ExceptT ε (Act α τ) β).run :=
  fun _ _ related => ⟨rfl, related⟩

theorem agrees_throw (error : ε) :
    Agrees rel (throw error : ExceptT ε (Act α σ) β).run
      (throw error : ExceptT ε (Act α τ) β).run :=
  fun _ _ related => ⟨rfl, related⟩

theorem agrees_set {change : σ → σ} {changing : τ → τ}
    (keeps : ∀ left right, rel left right → rel (change left) (changing right)) :
    Agrees rel (modify change : ExceptT ε (Act α σ) PUnit).run
      (modify changing : ExceptT ε (Act α τ) PUnit).run :=
  fun left right related => ⟨rfl, keeps left right related⟩

/-- A look at the states that shows the same of both. -/
theorem agrees_get_bind {look : σ → γ} {looking : τ → γ}
    (alike : ∀ left right, rel left right → look left = looking right)
    (next : γ → ExceptT ε (Act α σ) β) (following : γ → ExceptT ε (Act α τ) β)
    (further : ∀ value, Agrees rel (next value).run (following value).run) :
    Agrees rel (get >>= fun state => next (look state) : ExceptT ε (Act α σ) β).run
      (get >>= fun state => following (looking state) : ExceptT ε (Act α τ) β).run := by
  intro left right related
  have same := further (look left) related
  constructor
  · exact same.1.trans (by rw [alike left right related]; rfl)
  · change rel ((next (look left)).run left).state ((following (looking right)).run right).state
    rw [← alike left right related]
    exact same.2

/-- What one of the two returns, the other returns as well. -/
theorem Agrees.of_returns {first : ExceptT ε (Act α σ) β} {second : ExceptT ε (Act α τ) β}
    (agrees : Agrees rel first.run second.run) {before after : σ} {other : τ} {answer : β}
    (related : rel before other) (returned : Returns first before answer after) :
    ∃ final, Returns second other answer final ∧ rel after final := by
  obtain ⟨same, left⟩ := agrees related
  exact ⟨_, ⟨same.symm.trans returned.1, rfl⟩, returned.2 ▸ left⟩

end OpticTune.Act
