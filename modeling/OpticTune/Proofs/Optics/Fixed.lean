import OpticTune.Proofs.Optics.Grouping

namespace OpticTune.Optics

/-! What happens to records whose tags are not adjustable.

They never lead. But a tag of several characters may read in capitals as a letter
does, and a character that is no letter may have the capitals of one: the record then
follows the first letter before it that reads so, though it is marked as fixed.
-/

section Grouped

variable {alphabet : Alphabet} {column record : ℤ} {tags : List String} {tag : String}
  {adjustables : List Adjustable}

theorem tag_unique {other : String} (one : (record, tag) ∈ records tags)
    (again : (record, other) ∈ records tags) : tag = other := by
  have distinct : ((records tags).map Prod.fst).Nodup := by
    rw [records_fst]
    exact List.nodup_range.map Nat.cast_injective
  exact congrArg Prod.snd (List.inj_on_of_nodup_map distinct one again rfl)

/-- Some letter before the record reads as its tag does. -/
def Follows (alphabet : Alphabet) (tags : List String) (record : ℤ) (tag : String) : Prop :=
  ∃ earlier letter, (earlier, letter) ∈ records tags ∧ earlier < record ∧
    alphabet.IsLetter letter ∧ alphabet.upper tag = alphabet.upper letter

variable (grouped : Grouped alphabet column tags adjustables)
  (given : (record, tag) ∈ records tags)

include grouped given

theorem Grouped.ne_record (fixed : alphabet.isAdjustable tag = false) :
    ∀ adjustable ∈ adjustables, adjustable.record ≠ record := by
  rintro adjustable member rfl
  have adjusted : alphabet.isAdjustable tag = true := by
    rcases grouped.led adjustable member with ⟨lone, _⟩ | ⟨letter, leads⟩
    · exact isAdjustable_iff.mpr (.inl (tag_unique given lone))
    · cases tag_unique given leads.given
      exact isAdjustable_iff.mpr (.inr leads.letter)
  exact Bool.false_ne_true (fixed.symm.trans adjusted)

theorem Grouped.follows_of_link {adjustable : Adjustable} (member : adjustable ∈ adjustables)
    (linked : record ∈ adjustable.links.map Link.record) : Follows alphabet tags record tag := by
  obtain ⟨link, found, rfl⟩ := List.mem_map.mp linked
  rcases grouped.led adjustable member with ⟨_, alone⟩ | ⟨letter, leads⟩
  · rw [alone] at found
    nomatch found
  · obtain ⟨other, tagged, later, same, _⟩ := (leads.links link).mp found
    cases tag_unique given tagged
    exact ⟨_, letter, leads.given, later, leads.letter, same⟩

/-- A letter before the record leads or is led, and what leads it leads the record. -/
theorem Grouped.link_of_follows (apart : alphabet.Apart) (follows : Follows alphabet tags record tag) :
    ∃ adjustable ∈ adjustables, record ∈ adjustable.links.map Link.record := by
  obtain ⟨earlier, letter, letterGiven, before, isLetter, same⟩ := follows
  have claimed : earlier ∈ adjustables.flatMap Adjustable.claims := by
    have once := grouped.adjustable earlier letter letterGiven (isAdjustable_iff.mpr (.inr isLetter))
    exact List.one_le_count_iff.mp once.ge
  obtain ⟨adjustable, member, claimed⟩ := List.mem_flatMap.mp claimed
  -- whoever claims the letter leads a group that reads as the letter does
  have leading : ∃ leader, Leads alphabet (records tags) adjustable.record adjustable.links leader ∧
      alphabet.upper letter = alphabet.upper leader ∧ adjustable.record ≤ earlier := by
    rcases grouped.led adjustable member with ⟨lone, alone⟩ | ⟨leader, leads⟩
    · rw [Adjustable.claims, alone, List.map_nil, List.mem_singleton] at claimed
      subst claimed
      cases tag_unique letterGiven lone
      exact absurd rfl (apart.letters "?" isLetter)
    · refine ⟨leader, leads, ?_⟩
      rcases List.mem_cons.mp claimed with rfl | linked
      · cases tag_unique letterGiven leads.given
        exact ⟨rfl, le_rfl⟩
      · obtain ⟨link, found, rfl⟩ := List.mem_map.mp linked
        obtain ⟨other, tagged, later, reads, _⟩ := (leads.links link).mp found
        cases tag_unique letterGiven tagged
        exact ⟨reads, later.le⟩
  obtain ⟨leader, leads, reads, notAfter⟩ := leading
  let link : Link := {
    record, sign := if alphabet.isUpper tag = alphabet.isUpper leader then 1 else -1 }
  have linked : link ∈ adjustable.links := (leads.links link).mpr
    ⟨tag, given, notAfter.trans_lt before, same.trans reads, rfl⟩
  exact ⟨adjustable, member, List.mem_map_of_mem linked⟩

theorem Grouped.claims_iff (apart : alphabet.Apart) (fixed : alphabet.isAdjustable tag = false) :
    (∃ adjustable ∈ adjustables, record ∈ adjustable.claims) ↔ Follows alphabet tags record tag := by
  constructor
  · rintro ⟨adjustable, member, claimed⟩
    rcases List.mem_cons.mp claimed with master | linked
    · exact absurd master.symm (grouped.ne_record given fixed adjustable member)
    · exact grouped.follows_of_link given member linked
  · intro follows
    obtain ⟨adjustable, member, linked⟩ := grouped.link_of_follows given apart follows
    exact ⟨adjustable, member, List.mem_cons_of_mem _ linked⟩

end Grouped

/-- The capitals of a letter are one to three characters, and no text has more
characters than its capitals. -/
theorem length_of_follows {tags : List String} {record : ℤ} {tag : String}
    (follows : Follows .unicode tags record tag) : 0 < tag.length ∧ tag.length ≤ 3 := by
  obtain ⟨_, letter, _, _, ⟨single, _⟩, same⟩ := follows
  have own := Text.length_inCapitals tag
  have letters := Text.length_inCapitals letter
  have lengths : (Text.inCapitals tag).length = (Text.inCapitals letter).length :=
    congrArg String.length same
  omega

/-- A record whose tag is not adjustable never leads, and is moved if and only if a
letter before it in its column reads in capitals as its tag does. -/
theorem fixed_moves_iff {columns : List (ℤ × List String)}
    (distinct : (columns.map Prod.fst).Nodup) {column : ℤ} {tags : List String}
    (entry : (column, tags) ∈ columns) {record : ℤ} {tag : String}
    (given : (record, tag) ∈ records tags) (fixed : Alphabet.unicode.isAdjustable tag = false) :
    (∀ adjustable ∈ adjustablesOfTags .unicode columns, adjustable.column = column →
      adjustable.record ≠ record) ∧
    ((∃ adjustable ∈ adjustablesOfTags .unicode columns, adjustable.column = column ∧
        record ∈ adjustable.claims) ↔
      ∃ earlier letter, (earlier, letter) ∈ records tags ∧ earlier < record ∧
        Alphabet.unicode.IsLetter letter ∧
        Alphabet.unicode.upper tag = Alphabet.unicode.upper letter) ∧
    (tag = "" ∨ 3 < tag.length →
      ∀ adjustable ∈ adjustablesOfTags .unicode columns, adjustable.column = column →
        record ∉ adjustable.claims) := by
  have grouped := column_grouped unicode_apart column tags
  have own (adjustable : Adjustable) : adjustable ∈ adjustablesOfTags .unicode columns ∧
      adjustable.column = column ↔ adjustable ∈ adjustablesOfColumn .unicode column tags := by
    rw [← filter_adjustablesOfTags distinct entry, List.mem_filter, decide_eq_true_eq]
  have moves := grouped.claims_iff given unicode_apart fixed
  simp only [← own, and_assoc] at moves
  refine ⟨?_, moves, ?_⟩
  · intro adjustable member sameColumn
    exact grouped.ne_record given fixed adjustable ((own adjustable).mp ⟨member, sameColumn⟩)
  · intro short adjustable member sameColumn claimed
    have bounds := length_of_follows (moves.mp ⟨adjustable, member, sameColumn, claimed⟩)
    rcases short with rfl | long
    · exact absurd bounds.1 (by decide)
    · omega

/-- A sharp s and the two letters it is written as in capitals. -/
def sharpTags : List (ℤ × List String) := [(6, ["ß", "SS", "", "long"])]

theorem fixed_moves_iff_sharp :
    (sharpTags.map Prod.fst).Nodup ∧ (6, ["ß", "SS", "", "long"]) ∈ sharpTags ∧
    ((1 : ℤ), "SS") ∈ records ["ß", "SS", "", "long"] ∧
    Alphabet.unicode.isAdjustable "SS" = false ∧
    (∃ adjustable ∈ adjustablesOfTags .unicode sharpTags, adjustable.column = 6 ∧
      1 ∈ adjustable.claims) := by
  have distinct : (sharpTags.map Prod.fst).Nodup := by decide
  have entry : (6, ["ß", "SS", "", "long"]) ∈ sharpTags := List.mem_cons_self
  have given : ((1 : ℤ), "SS") ∈ records ["ß", "SS", "", "long"] := by decide
  have fixed : Alphabet.unicode.isAdjustable "SS" = false := by decide +kernel
  refine ⟨distinct, entry, given, fixed, ?_⟩
  have letter : Alphabet.unicode.IsLetter "ß" := ⟨by decide, by decide +kernel⟩
  exact (fixed_moves_iff distinct entry given fixed).2.1.mpr
    ⟨0, "ß", by decide, by decide, letter, by decide +kernel⟩

/-- So a record marked as fixed is not always left alone. -/
theorem fixed_not_still :
    ¬ ∀ (columns : List (ℤ × List String)) (column : ℤ) (tags : List String) (record : ℤ)
        (tag : String), (columns.map Prod.fst).Nodup → (column, tags) ∈ columns →
      (record, tag) ∈ records tags → Alphabet.unicode.isAdjustable tag = false →
      ∀ adjustable ∈ adjustablesOfTags .unicode columns, adjustable.column = column →
        record ∉ adjustable.claims := by
  intro still
  have apart := still [(6, ["ß", "SS"])] 6 ["ß", "SS"] 1 "SS" (by decide) List.mem_cons_self
    (by decide) (by decide +kernel) ⟨6, 0, [⟨1, -1⟩]⟩ (by decide +kernel) rfl
  exact apart (by decide)

end OpticTune.Optics
