import OpticTune.Optics.Unicode
import OpticTune.Proofs.Optics.Tag
import OpticTune.Proofs.Text.Case

namespace OpticTune.Optics

/-! Tags group the records of a column.

A `?` stands alone. Of the letters that read the same in capitals the first leads:
all later records whose tags read so are linked to it, also those whose tags are not
adjustable. No group is split and no record belongs to two.
-/

section Letters

variable {alphabet : Alphabet} {tag : String}

/-- The tags that mark a group. -/
def Alphabet.IsLetter (alphabet : Alphabet) (tag : String) : Prop :=
  tag.length = 1 ∧ alphabet.isLetters tag = true

/-- The question mark is no letter, and no letter has its capitals. -/
structure Alphabet.Apart (alphabet : Alphabet) : Prop where
  mark : alphabet.isLetters "?" = false
  letters : ∀ tag, alphabet.IsLetter tag → alphabet.upper tag ≠ alphabet.upper "?"

theorem isAdjustable_iff :
    alphabet.isAdjustable tag = true ↔ tag = "?" ∨ alphabet.IsLetter tag := by
  simp [Alphabet.isAdjustable, Alphabet.IsLetter]

theorem Alphabet.Apart.isLetter (apart : alphabet.Apart)
    (adjustable : alphabet.isAdjustable tag = true) (letters : alphabet.isLetters tag = true) :
    alphabet.IsLetter tag := by
  refine (isAdjustable_iff.mp adjustable).resolve_left ?_
  rintro rfl
  exact Bool.false_ne_true (apart.mark.symm.trans letters)

theorem eq_questionMark (adjustable : alphabet.isAdjustable tag = true)
    (mark : ¬ alphabet.isLetters tag = true) : tag = "?" :=
  (isAdjustable_iff.mp adjustable).resolve_right fun letter => mark letter.2

theorem unicode_apart : Alphabet.unicode.Apart where
  mark := by decide +kernel
  letters := by
    rintro tag ⟨single, letter⟩ same
    rw [← String.length_toList] at single
    obtain ⟨c, only⟩ := List.length_eq_one_iff.mp single
    have form : Text.capitalForm c = ['?'] := by
      have characters := congrArg String.toList same
      have mark : (Alphabet.unicode.upper "?").toList = ['?'] := by decide +kernel
      rw [mark] at characters
      simpa [Alphabet.unicode, Text.inCapitals, only] using characters
    have question : tag = "?" := by
      rw [← String.toList_inj, only, Text.eq_questionMark_of_capitalForm form]
      rfl
    subst question
    exact absurd letter (by decide +kernel)

end Letters

/-- Among the records given, a record leads a group of letters: it is the first with
an adjustable tag of its letter, and its links are the later records of that letter. -/
structure Leads (alphabet : Alphabet) (records : List (ℤ × String)) (record : ℤ)
    (links : List Link) (tag : String) : Prop where
  given : (record, tag) ∈ records
  letter : alphabet.IsLetter tag
  first : ∀ earlier other, (earlier, other) ∈ records → earlier < record →
    alphabet.isAdjustable other = true → alphabet.upper other ≠ alphabet.upper tag
  ascending : (links.map Link.record).Pairwise (· < ·)
  links : ∀ link, link ∈ links ↔ ∃ other, (link.record, other) ∈ records ∧
    record < link.record ∧ alphabet.upper other = alphabet.upper tag ∧
    link.sign = if alphabet.isUpper other = alphabet.isUpper tag then 1 else -1

/-- The adjustables of a column group the records of its tags. -/
structure Grouped (alphabet : Alphabet) (column : ℤ) (tags : List String)
    (adjustables : List Adjustable) : Prop where
  own : ∀ adjustable ∈ adjustables, adjustable.column = column
  ascending : (adjustables.map Adjustable.record).Pairwise (· < ·)
  given : ∀ record ∈ adjustables.flatMap Adjustable.claims, ∃ tag, (record, tag) ∈ records tags
  once : (adjustables.flatMap Adjustable.claims).Nodup
  adjustable : ∀ record tag, (record, tag) ∈ records tags → alphabet.isAdjustable tag = true →
    (adjustables.flatMap Adjustable.claims).count record = 1
  lone : ∀ record, (record, "?") ∈ records tags → { column, record, links := [] } ∈ adjustables
  led : ∀ adjustable ∈ adjustables,
    (adjustable.record, "?") ∈ records tags ∧ adjustable.links = [] ∨
      ∃ tag, Leads alphabet (records tags) adjustable.record adjustable.links tag

section Groups

variable {alphabet : Alphabet} {rest : List (ℤ × String)} {entry : ℤ × String} {record : ℤ}
  {links : List Link} {tag other : String}

theorem mem_inGroup :
    entry ∈ inGroup alphabet tag rest ↔
      entry ∈ rest ∧ alphabet.upper entry.2 = alphabet.upper tag := by
  simp [inGroup, Alphabet.sameGroup]

theorem mem_outsideGroup :
    entry ∈ outsideGroup alphabet tag rest ↔
      entry ∈ rest ∧ alphabet.upper entry.2 ≠ alphabet.upper tag := by
  simp [outsideGroup, Alphabet.sameGroup]

/-- A letter leads the later records that are in its group. -/
theorem leads_head (letter : alphabet.IsLetter tag) (before : ∀ later ∈ rest, record < later.1)
    (ascending : rest.Pairwise fun one later => one.1 < later.1) :
    Leads alphabet ((record, tag) :: rest) record
      ((inGroup alphabet tag rest).map fun entry =>
        { record := entry.1, sign := alphabet.sign tag entry.2 }) tag where
  given := List.mem_cons_self
  letter := letter
  first := by
    intro earlier other given lower
    rcases List.mem_cons.mp given with same | later
    · cases same
      exact absurd lower (lt_irrefl _)
    · exact absurd (before _ later) (lt_asymm lower)
  ascending := by
    rw [List.map_map, List.pairwise_map]
    exact ascending.sublist List.filter_sublist
  links := by
    intro link
    simp only [List.mem_map, mem_inGroup, Alphabet.sign, beq_iff_eq]
    constructor
    · rintro ⟨⟨later, other⟩, ⟨given, same⟩, rfl⟩
      exact ⟨other, List.mem_cons_of_mem _ given, before _ given, same, rfl⟩
    · rintro ⟨other, given, later, same, sign⟩
      rcases List.mem_cons.mp given with head | given
      · cases head
        exact absurd later (lt_irrefl _)
      · exact ⟨(link.record, other), ⟨given, same⟩, by rw [← sign]⟩

/-- Records of other groups do not matter to a group. -/
theorem Leads.of_outside
    (leads : Leads alphabet (outsideGroup alphabet other rest) record links tag) :
    Leads alphabet rest record links tag := by
  obtain ⟨given, different⟩ := mem_outsideGroup.mp leads.given
  refine ⟨given, leads.letter, ?_, leads.ascending, ?_⟩
  · intro earlier another given lower adjustable same
    have outside : (earlier, another) ∈ outsideGroup alphabet other rest :=
      mem_outsideGroup.mpr ⟨given, fun grouped => different (same.symm.trans grouped)⟩
    exact leads.first earlier another outside lower adjustable same
  · intro link
    rw [leads.links]
    refine exists_congr fun another => ?_
    rw [mem_outsideGroup]
    constructor
    · rintro ⟨⟨given, _⟩, later⟩
      exact ⟨given, later⟩
    · rintro ⟨given, later, same, sign⟩
      exact ⟨⟨given, fun grouped => different (same.symm.trans grouped)⟩, later, same, sign⟩

/-- Nor does a record in front, unless it has an adjustable tag of the group. -/
theorem Leads.cons (leads : Leads alphabet rest record links tag)
    (before : ∀ later ∈ rest, entry.1 < later.1)
    (different : alphabet.isAdjustable entry.2 = true →
      alphabet.upper entry.2 ≠ alphabet.upper tag) :
    Leads alphabet (entry :: rest) record links tag := by
  refine ⟨List.mem_cons_of_mem _ leads.given, leads.letter, ?_, leads.ascending, ?_⟩
  · intro earlier another given lower
    rcases List.mem_cons.mp given with rfl | given
    · exact different
    · exact leads.first earlier another given lower
  · intro link
    rw [leads.links]
    refine exists_congr fun another => ?_
    constructor
    · rintro ⟨given, later⟩
      exact ⟨List.mem_cons_of_mem _ given, later⟩
    · rintro ⟨given, later, same⟩
      rcases List.mem_cons.mp given with rfl | given
      · exact absurd later (lt_asymm (before _ leads.given))
      · exact ⟨given, later, same⟩

end Groups

section Masters

variable {alphabet : Alphabet} {given : List (ℤ × String)}

theorem masters_sublist (alphabet : Alphabet) (given : List (ℤ × String)) :
    ((masters alphabet given).map Prod.fst).Sublist (given.map Prod.fst) := by
  fun_induction masters alphabet given with
  | case1 => exact List.Sublist.refl _
  | case2 record tag rest _ _ _ ih =>
      exact (ih.trans (List.filter_sublist.map Prod.fst)).cons_cons record
  | case3 record tag rest _ _ ih => exact ih.cons_cons record
  | case4 record tag rest _ ih => exact ih.cons record

theorem claimed_of_adjustable {record : ℤ} {tag : String} (member : (record, tag) ∈ given)
    (adjustable : alphabet.isAdjustable tag = true) :
    record ∈ (masters alphabet given).flatMap claimed := by
  fun_induction masters alphabet given with
  | case1 => exact absurd member List.not_mem_nil
  | case2 first letter rest _ _ links ih =>
      rw [List.flatMap_cons, List.mem_append]
      rcases List.mem_cons.mp member with same | member
      · cases same
        exact .inl List.mem_cons_self
      · by_cases same : alphabet.upper tag = alphabet.upper letter
        · have linked : record ∈ links.map Link.record :=
            List.mem_map.mpr ⟨_, List.mem_map_of_mem (mem_inGroup.mpr ⟨member, same⟩), rfl⟩
          exact .inl (List.mem_cons_of_mem _ linked)
        · exact .inr (ih (mem_outsideGroup.mpr ⟨member, same⟩))
  | case3 first mark rest _ _ ih =>
      rw [List.flatMap_cons, List.mem_append]
      rcases List.mem_cons.mp member with same | member
      · cases same
        exact .inl List.mem_cons_self
      · exact .inr (ih member)
  | case4 first fixed rest notAdjustable ih =>
      rcases List.mem_cons.mp member with same | member
      · cases same
        exact absurd adjustable notAdjustable
      · exact ih member

variable (apart : alphabet.Apart)

include apart

theorem lone_mem_masters {record : ℤ} (member : (record, "?") ∈ given) :
    (record, []) ∈ masters alphabet given := by
  fun_induction masters alphabet given with
  | case1 => exact absurd member List.not_mem_nil
  | case2 first letter rest adjustable letters _ ih =>
      have different := (apart.letters letter (apart.isLetter adjustable letters)).symm
      rcases List.mem_cons.mp member with same | member
      · cases same
        exact absurd rfl different
      · exact List.mem_cons_of_mem _ (ih (mem_outsideGroup.mpr ⟨member, different⟩))
  | case3 first mark rest _ _ ih =>
      rcases List.mem_cons.mp member with same | member
      · cases same
        exact List.mem_cons_self
      · exact List.mem_cons_of_mem _ (ih member)
  | case4 first fixed rest notAdjustable ih =>
      rcases List.mem_cons.mp member with same | member
      · cases same
        exact absurd (isAdjustable_iff.mpr (.inl rfl)) notAdjustable
      · exact ih member

theorem masters_led (ascending : given.Pairwise fun one later => one.1 < later.1) :
    ∀ master ∈ masters alphabet given, (master.1, "?") ∈ given ∧ master.2 = [] ∨
      ∃ tag, Leads alphabet given master.1 master.2 tag := by
  fun_induction masters alphabet given with
  | case1 => exact fun _ member => absurd member List.not_mem_nil
  | case2 record tag rest adjustable letters links ih =>
      -- what is grouped after a leader carries another letter than the leader does
      obtain ⟨before, ascending⟩ := List.pairwise_cons.mp ascending
      intro master member
      rcases List.mem_cons.mp member with rfl | member
      · exact .inr ⟨tag, leads_head (apart.isLetter adjustable letters) before ascending⟩
      · rcases ih (ascending.sublist List.filter_sublist) master member with
          ⟨lone, alone⟩ | ⟨letter, leads⟩
        · exact .inl ⟨List.mem_cons_of_mem _ (mem_outsideGroup.mp lone).1, alone⟩
        · have different := (mem_outsideGroup.mp leads.given).2.symm
          exact .inr ⟨letter, leads.of_outside.cons before fun _ => different⟩
  | case3 record tag rest adjustable mark ih =>
      obtain rfl := eq_questionMark adjustable mark
      obtain ⟨before, ascending⟩ := List.pairwise_cons.mp ascending
      intro master member
      rcases List.mem_cons.mp member with rfl | member
      · exact .inl ⟨List.mem_cons_self, rfl⟩
      · rcases ih ascending master member with ⟨lone, alone⟩ | ⟨letter, leads⟩
        · exact .inl ⟨List.mem_cons_of_mem _ lone, alone⟩
        · have different := (apart.letters letter leads.letter).symm
          exact .inr ⟨letter, leads.cons before fun _ => different⟩
  | case4 record tag rest notAdjustable ih =>
      obtain ⟨before, ascending⟩ := List.pairwise_cons.mp ascending
      intro master member
      rcases ih ascending master member with ⟨lone, alone⟩ | ⟨letter, leads⟩
      · exact .inl ⟨List.mem_cons_of_mem _ lone, alone⟩
      · exact .inr ⟨letter, leads.cons before fun adjustable => absurd adjustable notAdjustable⟩

end Masters

theorem ascending_records (tags : List String) :
    (records tags).Pairwise fun one later => one.1 < later.1 := by
  have ascending : ((records tags).map Prod.fst).Pairwise (· < ·) := by
    rw [records_fst, List.pairwise_map]
    exact List.pairwise_lt_range.imp fun lower => Int.ofNat_lt.mpr lower
  exact List.pairwise_map.mp ascending

section Columns

variable {alphabet : Alphabet}

theorem adjustablesOfTags_eq (columns : List (ℤ × List String)) :
    adjustablesOfTags alphabet columns =
      columns.flatMap fun entry => adjustablesOfColumn alphabet entry.1 entry.2 := rfl

theorem adjustablesOfTags_singleton (entry : ℤ × List String) :
    adjustablesOfTags alphabet [entry] = adjustablesOfColumn alphabet entry.1 entry.2 :=
  List.append_nil _

theorem column_grouped (apart : alphabet.Apart) (column : ℤ) (tags : List String) :
    Grouped alphabet column tags (adjustablesOfColumn alphabet column tags) := by
  have claims : (adjustablesOfColumn alphabet column tags).flatMap Adjustable.claims =
      (masters alphabet (records tags)).flatMap claimed := by
    rw [adjustablesOfColumn, List.flatMap_map]
    rfl
  have once := nodup_column_claims alphabet column tags
  refine ⟨fun _ => column_of_mem alphabet, ?_, ?_, once, ?_, ?_, ?_⟩
  · have part := masters_sublist alphabet (records tags)
    rw [adjustablesOfColumn, List.map_map]
    exact (List.pairwise_map.mpr (ascending_records tags)).sublist part
  · intro record claimed
    rw [claims] at claimed
    obtain ⟨⟨_, tag⟩, member, rfl⟩ :=
      List.mem_map.mp ((masters_claimed alphabet (records tags)).subset claimed)
    exact ⟨tag, member⟩
  · intro record tag member adjustable
    refine List.count_eq_one_of_mem once ?_
    rw [claims]
    exact claimed_of_adjustable member adjustable
  · intro record member
    exact List.mem_map.mpr ⟨(record, []), lone_mem_masters apart member, rfl⟩
  · intro adjustable member
    obtain ⟨master, found, rfl⟩ := List.mem_map.mp member
    exact masters_led apart (ascending_records tags) master found

theorem filter_adjustablesOfColumn (column other : ℤ) (tags : List String) :
    ((adjustablesOfColumn alphabet column tags).filter fun adjustable =>
        adjustable.column = other) =
      if column = other then adjustablesOfColumn alphabet column tags else [] := by
  split
  · rename_i same
    exact List.filter_eq_self.mpr fun _ member =>
      decide_eq_true ((column_of_mem alphabet member).trans same)
  · rename_i different
    refine List.filter_eq_nil_iff.mpr fun _ member => ?_
    rw [column_of_mem alphabet member, decide_eq_true_eq]
    exact different

/-- Distinct columns are told apart by their numbers. -/
theorem filter_adjustablesOfTags {columns : List (ℤ × List String)}
    (distinct : (columns.map Prod.fst).Nodup) {entry : ℤ × List String}
    (given : entry ∈ columns) :
    ((adjustablesOfTags alphabet columns).filter fun adjustable =>
        adjustable.column = entry.1) = adjustablesOfColumn alphabet entry.1 entry.2 := by
  rw [adjustablesOfTags_eq, List.filter_flatMap]
  simp only [filter_adjustablesOfColumn]
  induction columns with
  | nil => nomatch given
  | cons first rest ih =>
      obtain ⟨absent, distinct⟩ := List.nodup_cons.mp distinct
      rw [List.flatMap_cons]
      rcases List.mem_cons.mp given with rfl | given
      · have others : ∀ other ∈ rest, other.1 ≠ entry.1 := by
          rintro other member same
          exact absent (same ▸ List.mem_map_of_mem member)
        rw [if_pos rfl, List.flatMap_eq_nil_iff.mpr fun other member => if_neg (others other member),
          List.append_nil]
      · have different : first.1 ≠ entry.1 := by
          intro same
          exact absent (same ▸ List.mem_map_of_mem given)
        rw [if_neg different, ih distinct given, List.nil_append]

/-- The adjustables of tagged columns are those of the single columns, one after the
other, and those of a column group its records. -/
theorem tags_grouped (apart : alphabet.Apart) {columns : List (ℤ × List String)}
    (distinct : (columns.map Prod.fst).Nodup) :
    adjustablesOfTags alphabet columns =
      columns.flatMap (fun entry => adjustablesOfTags alphabet [entry]) ∧
    ∀ entry ∈ columns,
      ((adjustablesOfTags alphabet columns).filter fun adjustable =>
        adjustable.column = entry.1) = adjustablesOfTags alphabet [entry] ∧
      Grouped alphabet entry.1 entry.2 (adjustablesOfTags alphabet [entry]) := by
  simp only [adjustablesOfTags_singleton]
  refine ⟨adjustablesOfTags_eq columns, fun entry given => ?_⟩
  exact ⟨filter_adjustablesOfTags distinct given, column_grouped apart entry.1 entry.2⟩

end Columns

/-- Two groups in one column, a lone record between them, and a fixed one. -/
def mixedTags : List (ℤ × List String) :=
  [(6, ["b", "?", "A", "B", "-", "a", "b"]), (8, ["?", "", "Z"])]

theorem tags_grouped_mixed :
    Alphabet.unicode.Apart ∧ (mixedTags.map Prod.fst).Nodup ∧
    adjustablesOfTags .unicode mixedTags =
      [⟨6, 0, [⟨3, -1⟩, ⟨6, 1⟩]⟩, ⟨6, 1, []⟩, ⟨6, 2, [⟨5, -1⟩]⟩, ⟨8, 0, []⟩, ⟨8, 2, []⟩] ∧
    Grouped .unicode 6 ["b", "?", "A", "B", "-", "a", "b"]
      ((adjustablesOfTags .unicode mixedTags).filter fun adjustable => adjustable.column = 6) := by
  have distinct : (mixedTags.map Prod.fst).Nodup := by decide
  obtain ⟨_, columns⟩ := tags_grouped unicode_apart distinct
  obtain ⟨own, grouped⟩ := columns (6, ["b", "?", "A", "B", "-", "a", "b"]) List.mem_cons_self
  refine ⟨unicode_apart, distinct, by decide +kernel, ?_⟩
  rw [own]
  exact grouped

end OpticTune.Optics
