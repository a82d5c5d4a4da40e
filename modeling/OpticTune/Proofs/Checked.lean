import OpticTune.Optics.Bench
import OpticTune.Proofs.Stops

namespace OpticTune

namespace Act

/-! Changes that may be refused.

A checked change is made where it is allowed, and refused elsewhere. Changes that
follow each other are one that is allowed if all of them are.
-/

variable {α σ τ ε ι : Type} {action first second : ExceptT ε (Act α σ) Unit} {refusal : ε}
  {allowed further : Bool} {effect next : σ → σ} {before after : σ}

structure Checked (action : ExceptT ε (Act α σ) Unit) (allowed : Bool) (refusal : ε)
    (effect : σ → σ) : Prop where
  made : allowed = true → ∀ before, Returns action before () (effect before)
  refused : allowed = false → ∀ before, Stops action before refusal

theorem Checked.returns_iff (checked : Checked action allowed refusal effect) :
    Returns action before () after ↔ allowed = true ∧ after = effect before := by
  cases allowed with
  | true =>
      have made := checked.made rfl before
      exact ⟨fun returned => ⟨rfl, (returned.unique made).2⟩, fun ⟨_, same⟩ => same ▸ made⟩
  | false =>
      have refused := checked.refused rfl before
      exact iff_of_false refused.not_returns fun ⟨impossible, _⟩ => nomatch impossible

theorem Checked.stops_iff {error : ε} (checked : Checked action allowed refusal effect) :
    Stops action before error ↔ allowed = false ∧ error = refusal := by
  cases allowed with
  | true =>
      exact iff_of_false (fun stopped => stopped.not_returns (checked.made rfl before))
        fun ⟨impossible, _⟩ => nomatch impossible
  | false =>
      have refused := checked.refused rfl before
      refine ⟨fun stopped => ⟨rfl, ?_⟩, fun ⟨_, same⟩ => same ▸ refused⟩
      exact Except.error.inj (stopped.symm.trans refused)

theorem checked_change {changed : σ → Except ε σ}
    (decides : ∀ state, changed state = if allowed then .ok (effect state) else .error refusal) :
    Checked (change changed : ExceptT ε (Act α σ) Unit) allowed refusal effect where
  made permitted state := by
    refine returns_get_bind.mpr (returns_ofExcept_bind.mpr ⟨effect state, ?_, rfl, rfl⟩)
    rw [decides, if_pos permitted]
  refused forbidden state := by
    have stopped : changed state = .error refusal := by
      rw [decides, forbidden]
      rfl
    exact stops_get_bind.mpr (stops_bind.mpr (.inl (stops_ofExcept.mpr stopped)))

theorem checked_pure :
    Checked (pure () : ExceptT ε (Act α σ) Unit) true refusal id where
  made _ _ := returns_pure.mpr ⟨rfl, rfl⟩
  refused impossible := nomatch impossible

theorem checked_lift (action : Act α σ Unit) :
    Checked (ExceptT.lift action : ExceptT ε (Act α σ) Unit) true refusal fun state =>
      (action state).state where
  made _ _ := returns_lift.mpr ⟨rfl, rfl⟩
  refused impossible := nomatch impossible

theorem Checked.andThen (checked : Checked first allowed refusal effect)
    (followed : Checked second further refusal next) :
    Checked (first >>= fun _ => second) (allowed && further) refusal (next ∘ effect) where
  made permitted state := by
    obtain ⟨permitted, rest⟩ := Bool.and_eq_true_iff.mp permitted
    exact returns_bind.mpr ⟨(), _, checked.made permitted state, followed.made rest _⟩
  refused forbidden state := by
    cases permitted : allowed with
    | false => exact stops_bind.mpr (.inl (checked.refused permitted state))
    | true =>
        rw [permitted, Bool.true_and] at forbidden
        exact stops_bind.mpr
          (.inr ⟨(), _, checked.made permitted state, followed.refused forbidden _⟩)

theorem checked_forM {body : ι → ExceptT ε (Act α σ) Unit} {allows : ι → Bool}
    {effects : ι → σ → σ}
    (checked : ∀ item, Checked (body item) (allows item) refusal (effects item))
    (items : List ι) :
    Checked (items.forM body) (items.all allows) refusal fun state =>
      items.foldl (fun state item => effects item state) state := by
  induction items with
  | nil => exact checked_pure
  | cons item rest ih => exact (checked item).andThen ih

/-- What a traversal leaves that is refused at an item: the items before are done, and
the item as far as it gets. -/
theorem state_forM_refused {body : ι → ExceptT ε (Act α σ) Unit} {allows : ι → Bool}
    {effects : ι → σ → σ}
    (checked : ∀ item, Checked (body item) (allows item) refusal (effects item))
    {made : List ι} (allowed : made.all allows = true) {item : ι}
    (forbidden : allows item = false) (rest : List ι) (before : σ) :
    (((made ++ item :: rest).forM body).run before).state =
      ((body item).run (made.foldl (fun state item => effects item state) before)).state := by
  induction made generalizing before with
  | nil => exact ((checked item).refused forbidden before).state_bind
  | cons first made ih =>
      obtain ⟨permitted, allowed⟩ := Bool.and_eq_true_iff.mp allowed
      have done := (checked first).made permitted before
      exact done.state_bind.trans (ih allowed (effects first before))

/-- A change of a part of the state. -/
theorem Checked.within {enter : τ → σ} {leave : τ → σ → τ}
    (checked : Checked action allowed refusal effect) :
    Checked (ExceptT.mk (Act.within enter leave action.run) : ExceptT ε (Act α τ) Unit) allowed
      refusal fun state => leave state (effect (enter state)) where
  made permitted _ := returns_within.mpr ⟨_, checked.made permitted _, rfl⟩
  refused forbidden _ := stops_within.mpr (checked.refused forbidden _)

end Act

namespace Optics

open Act (Checked)

variable {α : Type} {S R rows columns : Nat}
  {nudge : OpticalSystem α S R → Int → Int → α → Except PlaceError (OpticalSystem α S R)}
  {total : OpticalSystem α S R → Int → Int → α → OpticalSystem α S R}

/-- Exactly the cells that cannot be written are refused. -/
def Nudges (rows columns : Nat)
    (nudge : OpticalSystem α S R → Int → Int → α → Except PlaceError (OpticalSystem α S R))
    (total : OpticalSystem α S R → Int → Int → α → OpticalSystem α S R) : Prop :=
  ∀ system record column amount, nudge system record column amount =
    if isCellWritable rows columns record column then .ok (total system record column amount)
    else .error .tooFar

theorem nudges_surface [Add α] : Nudges S Surface.columnCount
    (OpticalSystem.checkedNudgeSurface (α := α) (S := S) (R := R)) OpticalSystem.nudgeSurface := by
  intro system record column amount
  rw [OpticalSystem.checkedNudgeSurface, Table.checkedAdd]
  split <;> rfl

theorem nudges_ray [Add α] : Nudges R RayAttribute.columnCount
    (OpticalSystem.checkedNudgeRay (α := α) (S := S) (R := R)) OpticalSystem.nudgeRay := by
  intro system record column amount
  rw [OpticalSystem.checkedNudgeRay, Table.checkedAdd]
  split <;> rfl

theorem Nudges.checked (nudges : Nudges rows columns nudge total) (record column : Int)
    (amount : α) :
    Checked (Act.change fun system => nudge system record column amount :
        ExceptT PlaceError (Act α (OpticalSystem α S R)) Unit)
      (isCellWritable rows columns record column) .tooFar
      fun system => total system record column amount :=
  Act.checked_change fun system => nudges system record column amount

end Optics

/-- A change of the system in a world. -/
theorem Act.Checked.onSystem {α τ ε : Type} {S R : Nat}
    {action : ExceptT ε (Act α (Optics.OpticalSystem α S R)) Unit} {allowed : Bool} {refusal : ε}
    {effect : Optics.OpticalSystem α S R → Optics.OpticalSystem α S R}
    (checked : Act.Checked action allowed refusal effect) :
    Act.Checked (Optics.World.onSystem action : ExceptT ε (Act α (Optics.World α τ S R)) Unit)
      allowed refusal fun world => { world with system := effect world.system } :=
  checked.within

end OpticTune
