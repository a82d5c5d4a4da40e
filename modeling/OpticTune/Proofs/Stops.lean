import OpticTune.Proofs.Returns

namespace OpticTune.Act

/-! Actions that are stopped.

`Stops action before error` says with which error an action is stopped. Every
action either returns or is stopped, never both.
-/

variable {α σ τ ε β γ : Type} {before : σ} {error : ε}

def Stops (action : ExceptT ε (Act α σ) β) (before : σ) (error : ε) : Prop :=
  (action.run before).value = .error error

theorem returns_or_stops (action : ExceptT ε (Act α σ) β) (before : σ) :
    (∃ answer after, Returns action before answer after) ∨ ∃ error, Stops action before error := by
  cases done : (action.run before).value with
  | ok answer => exact .inl ⟨answer, _, done, rfl⟩
  | error error => exact .inr ⟨error, done⟩

theorem Stops.not_returns {action : ExceptT ε (Act α σ) β} (stopped : Stops action before error)
    {answer : β} {after : σ} : ¬ Returns action before answer after :=
  fun returned => nomatch stopped.symm.trans returned.1

@[simp]
theorem stops_pure {value : β} : ¬ Stops (pure value : ExceptT ε (Act α σ) β) before error :=
  fun impossible => nomatch impossible

@[simp]
theorem stops_throw {thrown : ε} :
    Stops (throw thrown : ExceptT ε (Act α σ) β) before error ↔ error = thrown :=
  ⟨fun same => (Except.error.inj same).symm, fun same => congrArg Except.error same.symm⟩

theorem stops_bind {first : ExceptT ε (Act α σ) β} {next : β → ExceptT ε (Act α σ) γ} :
    Stops (first >>= next) before error ↔
      Stops first before error ∨
        ∃ value middle, Returns first before value middle ∧ Stops (next value) middle error := by
  change ((first.run >>= ExceptT.bindCont next) before).value = .error error ↔ _
  rw [value_bind]
  cases done : (first.run before).value with
  | error other =>
      constructor
      · exact fun same => .inl (done.trans (congrArg Except.error (Except.error.inj same)))
      · rintro (same | ⟨value, middle, returned, -⟩)
        · exact congrArg Except.error (Except.error.inj (done.symm.trans same))
        · exact nomatch done.symm.trans returned.1
  | ok value =>
      constructor
      · exact fun stopped => .inr ⟨value, _, ⟨done, rfl⟩, stopped⟩
      · rintro (same | ⟨other, _, ⟨same, rfl⟩, stopped⟩)
        · exact nomatch done.symm.trans same
        · cases Except.ok.inj (done.symm.trans same)
          exact stopped

/-- What follows an action that returns decides. -/
theorem Returns.stops_bind {first : ExceptT ε (Act α σ) β} {next : β → ExceptT ε (Act α σ) γ}
    {value : β} {middle : σ} (returned : Returns first before value middle) :
    Stops (first >>= next) before error ↔ Stops (next value) middle error := by
  rw [Act.stops_bind]
  constructor
  · rintro (stopped | ⟨other, _, again, stopped⟩)
    · exact absurd returned stopped.not_returns
    · obtain ⟨rfl, rfl⟩ := returned.unique again
      exact stopped
  · exact fun stopped => .inr ⟨value, middle, returned, stopped⟩

@[simp]
theorem stops_lift {action : Act α σ β} :
    ¬ Stops (ExceptT.lift action : ExceptT ε (Act α σ) β) before error :=
  fun impossible => nomatch impossible

@[simp]
theorem stops_ofExcept {result : Except ε β} :
    Stops (liftM result : ExceptT ε (Act α σ) β) before error ↔ result = .error error :=
  Iff.rfl

theorem stops_liftM_bind {action : Act α σ β} {next : β → ExceptT ε (Act α σ) γ} :
    Stops (liftM action >>= next) before error ↔
      Stops (next (action before).value) (action before).state error :=
  (returns_liftM.mpr ⟨rfl, rfl⟩ : Returns (liftM action) before _ _).stops_bind

theorem stops_get_bind {next : σ → ExceptT ε (Act α σ) γ} :
    Stops (get >>= next) before error ↔ Stops (next before) before error :=
  (returns_get.mpr ⟨rfl, rfl⟩ : Returns get before before before).stops_bind

theorem stops_modify_bind {change : σ → σ} {next : PUnit → ExceptT ε (Act α σ) γ} :
    Stops (modify change >>= next) before error ↔ Stops (next ()) (change before) error :=
  (returns_modify.mpr rfl : Returns (modify change) before () (change before)).stops_bind

theorem stops_note_bind {record : Log.Record α} {next : Unit → ExceptT ε (Act α σ) γ} :
    Stops (note record >>= next) before error ↔ Stops (next ()) before error :=
  (returns_note.mpr rfl : Returns (note record) before () before).stops_bind

theorem stops_adapt {ε' : Type} {wrap : ε → ε'} {action : ExceptT ε (Act α σ) β} {error : ε'} :
    Stops (action.adapt wrap) before error ↔
      ∃ fault, Stops action before fault ∧ error = wrap fault := by
  change (action.run before).value.mapError wrap = .error error ↔ _
  unfold Stops
  cases (action.run before).value with
  | ok value =>
      change Except.ok value = .error error ↔ _
      simp only [reduceCtorEq, false_and, exists_false]
  | error fault =>
      change Except.error (wrap fault) = .error error ↔ _
      simp only [Except.error.injEq, exists_eq_left', eq_comm]

/-- An action on a part of the state stops as it does on the part alone. -/
theorem stops_within {enter : σ → τ} {leave : σ → τ → σ} {action : ExceptT ε (Act α τ) β} :
    Stops (show ExceptT ε (Act α σ) β from within enter leave action.run) before error ↔
      Stops action (enter before) error :=
  Iff.rfl

/-! What is left by a sequence, be it that it is stopped. -/

theorem Returns.state_bind {first : ExceptT ε (Act α σ) β} {next : β → ExceptT ε (Act α σ) γ}
    {value : β} {middle : σ} (returned : Returns first before value middle) :
    ((first >>= next).run before).state = ((next value).run middle).state := by
  change ((first.run >>= ExceptT.bindCont next) before).state = _
  rw [Act.state_bind, returned.1, returned.2]
  rfl

theorem Stops.state_bind {first : ExceptT ε (Act α σ) β} {next : β → ExceptT ε (Act α σ) γ}
    (stopped : Stops first before error) :
    ((first >>= next).run before).state = (first.run before).state := by
  change ((first.run >>= ExceptT.bindCont next) before).state = _
  rw [Act.state_bind, stopped]
  rfl

theorem state_liftM_bind {action : Act α σ β} {next : β → ExceptT ε (Act α σ) γ} :
    ((liftM action >>= next).run before).state =
      ((next (action before).value).run (action before).state).state :=
  (returns_liftM.mpr ⟨rfl, rfl⟩ : Returns (liftM action) before _ _).state_bind

end OpticTune.Act
