import OpticTune.Act

namespace OpticTune.Act

/-! Actions that are not stopped.

`Returns action before answer after` says that an action that may be stopped is
not, with its answer and the state it leaves. What it reports is left out. The
rules below are equivalences: rewriting with them performs an action forward and
takes a completed one apart alike.
-/

variable {α σ τ ε β γ : Type}

def Returns (action : ExceptT ε (Act α σ) β) (before : σ) (answer : β) (after : σ) : Prop :=
  (action.run before).value = .ok answer ∧ (action.run before).state = after

theorem Returns.unique {action : ExceptT ε (Act α σ) β} {before after other : σ}
    {answer second : β} (returned : Returns action before answer after)
    (again : Returns action before second other) : answer = second ∧ after = other :=
  ⟨Except.ok.inj (returned.1.symm.trans again.1), returned.2.symm.trans again.2⟩

theorem exists_returns {action : ExceptT ε (Act α σ) β} {before : σ}
    (completes : (action.run before).value.toBool = true) :
    ∃ answer after, Returns action before answer after := by
  cases done : (action.run before).value with
  | error error => simp [done, Except.toBool] at completes
  | ok answer => exact ⟨answer, _, done, rfl⟩

variable {before after : σ}

@[simp]
theorem returns_pure {value answer : β} :
    Returns (pure value : ExceptT ε (Act α σ) β) before answer after ↔
      answer = value ∧ after = before :=
  ⟨fun ⟨same, stays⟩ => ⟨(Except.ok.inj same).symm, stays.symm⟩,
    fun ⟨same, stays⟩ => ⟨congrArg Except.ok same.symm, stays.symm⟩⟩

theorem returns_bind {first : ExceptT ε (Act α σ) β} {next : β → ExceptT ε (Act α σ) γ}
    {answer : γ} :
    Returns (first >>= next) before answer after ↔
      ∃ value middle, Returns first before value middle ∧
        Returns (next value) middle answer after := by
  change ((first.run >>= ExceptT.bindCont next) before).value = .ok answer ∧
    ((first.run >>= ExceptT.bindCont next) before).state = after ↔ _
  rw [value_bind, state_bind]
  cases done : (first.run before).value with
  | error error =>
      simp only [Returns, done, reduceCtorEq, false_and, exists_false, iff_false]
      exact fun ⟨impossible, _⟩ => nomatch impossible
  | ok value =>
      constructor
      · exact fun returned => ⟨value, _, ⟨done, rfl⟩, returned⟩
      · rintro ⟨other, _, ⟨same, rfl⟩, returned⟩
        cases Except.ok.inj (done.symm.trans same)
        exact returned

@[simp]
theorem returns_lift {action : Act α σ β} {answer : β} :
    Returns (ExceptT.lift action : ExceptT ε (Act α σ) β) before answer after ↔
      (action before).value = answer ∧ (action before).state = after := by
  have run : ((ExceptT.lift action : ExceptT ε (Act α σ) β).run before).value =
      .ok (action before).value := rfl
  unfold Returns
  rw [run, Except.ok.injEq]
  rfl

@[simp]
theorem returns_liftM {action : Act α σ β} {answer : β} :
    Returns (liftM action : ExceptT ε (Act α σ) β) before answer after ↔
      (action before).value = answer ∧ (action before).state = after :=
  returns_lift

@[simp]
theorem returns_ofExcept {result : Except ε β} {answer : β} :
    Returns (liftM result : ExceptT ε (Act α σ) β) before answer after ↔
      result = .ok answer ∧ after = before := by
  change result = .ok answer ∧ before = after ↔ _
  rw [eq_comm (a := before)]

@[simp]
theorem returns_note {record : Log.Record α} {answer : Unit} :
    Returns (note record : ExceptT ε (Act α σ) Unit) before answer after ↔ after = before := by
  change Except.ok () = Except.ok answer ∧ before = after ↔ _
  rw [eq_comm (a := before)]
  simp

@[simp]
theorem returns_throw {error : ε} {answer : β} :
    ¬ Returns (throw error : ExceptT ε (Act α σ) β) before answer after :=
  fun ⟨impossible, _⟩ => nomatch impossible

section Sequence

variable {next : β → ExceptT ε (Act α σ) γ} {answer : γ}

theorem returns_lift_bind {action : Act α σ β} :
    Returns (ExceptT.lift action >>= next) before answer after ↔
      Returns (next (action before).value) (action before).state answer after := by
  constructor
  · intro returned
    obtain ⟨_, _, first, rest⟩ := returns_bind.mp returned
    obtain ⟨rfl, rfl⟩ := returns_lift.mp first
    exact rest
  · exact fun rest => returns_bind.mpr ⟨_, _, returns_lift.mpr ⟨rfl, rfl⟩, rest⟩

theorem returns_liftM_bind {action : Act α σ β} :
    Returns (liftM action >>= next) before answer after ↔
      Returns (next (action before).value) (action before).state answer after :=
  returns_lift_bind

theorem returns_ofExcept_bind {result : Except ε β} :
    Returns (liftM result >>= next) before answer after ↔
      ∃ value, result = .ok value ∧ Returns (next value) before answer after := by
  constructor
  · intro returned
    obtain ⟨value, _, first, rest⟩ := returns_bind.mp returned
    obtain ⟨found, rfl⟩ := returns_ofExcept.mp first
    exact ⟨value, found, rest⟩
  · rintro ⟨value, found, rest⟩
    exact returns_bind.mpr ⟨value, _, returns_ofExcept.mpr ⟨found, rfl⟩, rest⟩

theorem returns_note_bind {record : Log.Record α} {rest : Unit → ExceptT ε (Act α σ) γ} :
    Returns (note record >>= rest) before answer after ↔
      Returns (rest ()) before answer after := by
  constructor
  · intro returned
    obtain ⟨_, _, noted, rest⟩ := returns_bind.mp returned
    cases returns_note.mp noted
    exact rest
  · exact fun rest => returns_bind.mpr ⟨(), _, returns_note.mpr rfl, rest⟩

/-- What stands behind a guard is reached only if the guard lets it pass. -/
theorem returns_unless {refused : Prop} [Decidable refused] {error : ε}
    {stopped : PUnit → ExceptT ε (Act α σ) γ} {rest : ExceptT ε (Act α σ) γ} :
    Returns (if refused then throw error >>= stopped else rest) before answer after ↔
      ¬ refused ∧ Returns rest before answer after := by
  split
  · rename_i holds
    simp only [holds, not_true_eq_false, false_and, iff_false]
    exact fun ⟨impossible, _⟩ => nomatch impossible
  · rename_i passes
    exact (and_iff_right passes).symm

theorem returns_discard {action : ExceptT ε (Act α σ) β} {nothing : Unit} :
    Returns (discard action) before nothing after ↔ ∃ answer, Returns action before answer after := by
  have mapped : discard action = action >>= fun _ => pure () := by
    change (fun _ => ()) <$> action = _
    rw [map_eq_pure_bind]
  rw [mapped, returns_bind]
  simp

theorem returns_discard_bind {action : Act α σ β} {rest : Unit → ExceptT ε (Act α σ) γ} :
    Returns (discard (liftM action : ExceptT ε (Act α σ) β) >>= rest) before answer after ↔
      Returns (rest ()) (action before).state answer after := by
  have discarded {middle : σ} {nothing : Unit} :
      Returns (discard (liftM action : ExceptT ε (Act α σ) β)) before nothing middle ↔
        middle = (action before).state := by
    simp [returns_discard, eq_comm]
  rw [returns_bind]
  constructor
  · rintro ⟨_, _, first, rest⟩
    cases discarded.mp first
    exact rest
  · exact fun rest => ⟨(), _, discarded.mpr rfl, rest⟩

end Sequence

@[simp]
theorem returns_get {answer : σ} :
    Returns (get : ExceptT ε (Act α σ) σ) before answer after ↔
      answer = before ∧ after = before := by
  change Except.ok before = Except.ok answer ∧ before = after ↔ _
  rw [Except.ok.injEq, eq_comm, eq_comm (a := before) (b := after)]

@[simp]
theorem returns_modify {change : σ → σ} {answer : Unit} :
    Returns (modify change : ExceptT ε (Act α σ) Unit) before answer after ↔
      after = change before := by
  change Except.ok () = Except.ok answer ∧ change before = after ↔ _
  rw [eq_comm (b := after)]
  simp

theorem returns_get_bind {next : σ → ExceptT ε (Act α σ) β} {answer : β} :
    Returns (get >>= next) before answer after ↔ Returns (next before) before answer after := by
  rw [returns_bind]
  constructor
  · rintro ⟨_, _, got, rest⟩
    obtain ⟨rfl, rfl⟩ := returns_get.mp got
    exact rest
  · exact fun rest => ⟨before, before, returns_get.mpr ⟨rfl, rfl⟩, rest⟩

theorem returns_modify_bind {change : σ → σ} {next : PUnit → ExceptT ε (Act α σ) β} {answer : β} :
    Returns (modify change >>= next) before answer after ↔
      Returns (next ()) (change before) answer after := by
  rw [returns_bind]
  constructor
  · rintro ⟨_, _, modified, rest⟩
    cases returns_modify.mp modified
    exact rest
  · exact fun rest => ⟨(), _, returns_modify.mpr rfl, rest⟩

theorem mapError_eq_ok {ε' : Type} {wrap : ε → ε'} {result : Except ε β} {answer : β} :
    result.mapError wrap = .ok answer ↔ result = .ok answer := by
  cases result with
  | ok value =>
      change Except.ok value = .ok answer ↔ _
      simp only [Except.ok.injEq]
  | error fault =>
      change Except.error (wrap fault) = .ok answer ↔ _
      simp only [reduceCtorEq]

theorem returns_adapt {ε' : Type} {wrap : ε → ε'} {action : ExceptT ε (Act α σ) β} {answer : β} :
    Returns (action.adapt wrap) before answer after ↔ Returns action before answer after :=
  and_congr_left' mapError_eq_ok

theorem returns_mapError {ε' : Type} {wrap : ε' → ε} {result : Except ε' β} {answer : β} :
    Returns (liftM (result.mapError wrap) : ExceptT ε (Act α σ) β) before answer after ↔
      result = .ok answer ∧ after = before :=
  returns_ofExcept.trans (and_congr_left' mapError_eq_ok)

/-- An action on a part of the state returns as it does on the part alone. -/
theorem returns_within {enter : σ → τ} {leave : σ → τ → σ} {action : ExceptT ε (Act α τ) β}
    {answer : β} :
    Returns (show ExceptT ε (Act α σ) β from within enter leave action.run) before answer after ↔
      ∃ inner, Returns action (enter before) answer inner ∧ after = leave before inner := by
  constructor
  · rintro ⟨value, state⟩
    exact ⟨_, ⟨value, rfl⟩, state.symm⟩
  · rintro ⟨inner, ⟨value, state⟩, rfl⟩
    subst state
    exact ⟨value, rfl⟩

/-! Outcomes as a whole, reports included. -/

theorem run_get_bind {next : σ → ExceptT ε (Act α σ) β} :
    (get >>= next).run before = (next before).run before :=
  rfl

/-- Only what follows a silent action is reported. -/
theorem run_bind_of_silent {first : ExceptT ε (Act α σ) β} {next : β → ExceptT ε (Act α σ) γ}
    {value : β} (silent : first.run before = { value := .ok value, state := after, log := [] }) :
    (first >>= next).run before = (next value).run after := by
  change andThen first.run (ExceptT.bindCont next) before = _
  rw [andThen, silent]
  rfl

end OpticTune.Act
