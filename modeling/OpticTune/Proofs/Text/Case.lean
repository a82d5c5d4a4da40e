import OpticTune.Text.Case

namespace OpticTune.Text

/-! Capital forms have one to three characters, and none but that of the question
mark is a question mark. So capitals are at least as long as the text itself. -/

/-- A capital form is listed, or counted off within a run, or the character itself. -/
theorem capitalForm_cases (c : Char) :
    (∃ entry ∈ longCapitalForms, capitalForm c = entry.2.map Char.ofNat) ∨
    (∃ run ∈ capitalFormRuns, ∃ offset, capitalForm c = [Char.ofNat (run.2.2.2 + offset)]) ∨
    capitalForm c = [c] := by
  unfold capitalForm
  split
  · rename_i codes listed
    obtain ⟨before, after, split, _⟩ := List.lookup_eq_some_iff.mp listed
    have member : (c.toNat, codes) ∈ longCapitalForms := by
      rw [split]
      exact List.mem_append_right _ List.mem_cons_self
    exact .inl ⟨_, member, rfl⟩
  · split
    · rename_i first last step form found
      exact .inr (.inl ⟨_, List.mem_of_find?_eq_some found, _, rfl⟩)
    · exact .inr (.inr rfl)

theorem length_longCapitalForms :
    ∀ entry ∈ longCapitalForms, 2 ≤ entry.2.length ∧ entry.2.length ≤ 3 := by
  decide +kernel

theorem length_capitalForm (c : Char) :
    1 ≤ (capitalForm c).length ∧ (capitalForm c).length ≤ 3 := by
  obtain ⟨entry, listed, form⟩ | ⟨_, _, _, form⟩ | form := capitalForm_cases c
  · have bounds := length_longCapitalForms entry listed
    rw [form, List.length_map]
    omega
  · simp [form]
  · simp [form]

theorem length_inCapitals (text : String) :
    text.length ≤ (inCapitals text).length ∧ (inCapitals text).length ≤ 3 * text.length := by
  rw [inCapitals, String.length_ofList, ← String.length_toList]
  induction text.toList with
  | nil => decide
  | cons c rest ih =>
      have one := length_capitalForm c
      rw [List.flatMap_cons, List.length_append, List.length_cons]
      omega

theorem questionMark_lt_capitalFormRuns :
    ∀ run ∈ capitalFormRuns, '?'.toNat < run.2.2.2 := by
  decide +kernel

theorem eq_questionMark_of_capitalForm {c : Char} (form : capitalForm c = ['?']) : c = '?' := by
  obtain ⟨entry, listed, found⟩ | ⟨run, listed, offset, found⟩ | found := capitalForm_cases c
  · have long := (length_longCapitalForms entry listed).1
    rw [← List.length_map (f := Char.ofNat), ← found, form] at long
    exact absurd long (by decide)
  · have above := questionMark_lt_capitalFormRuns run listed
    obtain same : Char.ofNat (run.2.2.2 + offset) = '?' := by simpa [form] using found.symm
    rw [Char.ofNat] at same
    by_cases valid : (run.2.2.2 + offset).isValidChar
    · rw [dif_pos valid] at same
      have code : run.2.2.2 + offset = '?'.toNat := congrArg Char.toNat same
      omega
    · rw [dif_neg valid] at same
      exact absurd same (by decide)
  · simpa [form] using found.symm

end OpticTune.Text
