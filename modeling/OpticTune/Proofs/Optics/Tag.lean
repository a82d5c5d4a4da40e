import Mathlib.Data.List.Pairwise
import Mathlib.Data.List.Perm.Subperm
import OpticTune.Optics.Tag
import OpticTune.Proofs.Optics.Adjustable

namespace OpticTune.Optics

/-! Tags claim every record of a column at most once, as a master or as a link. -/

def claimed (master : ℤ × List Link) : List ℤ :=
  master.1 :: master.2.map Link.record

variable (alphabet : Alphabet)

/-- What the masters claim are some of the records given, each at most once. -/
theorem masters_claimed (records : List (ℤ × String)) :
    ((masters alphabet records).flatMap claimed).Subperm (records.map Prod.fst) := by
  fun_induction masters alphabet records with
  | case1 => exact List.Subperm.refl _
  | case2 record tag rest adjustable letter links ih =>
      have parts : (inGroup alphabet tag rest ++ outsideGroup alphabet tag rest).Perm rest :=
        List.filter_append_perm _ rest
      have linked : links.map Link.record = (inGroup alphabet tag rest).map Prod.fst := by
        simp [links]
      rw [List.flatMap_cons, claimed, linked, List.cons_append, List.map_cons]
      refine (List.subperm_cons record).mpr ?_
      refine ((List.subperm_append_left _).mpr ih).trans ?_
      rw [← List.map_append]
      exact (parts.map Prod.fst).subperm
  | case3 record tag rest adjustable letter ih =>
      exact (List.subperm_cons record).mpr ih
  | case4 record tag rest fixed ih =>
      exact ih.trans (List.sublist_cons_self _ _).subperm

theorem records_fst (tags : List String) :
    (records tags).map Prod.fst = (List.range tags.length).map Nat.cast := by
  apply List.ext_getElem <;> simp [records]

section Column

variable {column : ℤ} {tags : List String}

theorem column_claims (column : ℤ) (tags : List String) :
    ((adjustablesOfColumn alphabet column tags).flatMap Adjustable.claims).Subperm
      ((List.range tags.length).map Nat.cast) := by
  rw [← records_fst, adjustablesOfColumn, List.flatMap_map]
  exact masters_claimed alphabet (records tags)

theorem column_of_mem {adjustable : Adjustable}
    (member : adjustable ∈ adjustablesOfColumn alphabet column tags) :
    adjustable.column = column := by
  obtain ⟨_, _, rfl⟩ := List.mem_map.mp member
  rfl

theorem nodup_column_claims (column : ℤ) (tags : List String) :
    ((adjustablesOfColumn alphabet column tags).flatMap Adjustable.claims).Nodup := by
  obtain ⟨some, same, part⟩ := column_claims alphabet column tags
  exact same.nodup_iff.mp ((List.nodup_range.map Nat.cast_injective).sublist part)

theorem claims_inside {adjustable : Adjustable}
    (member : adjustable ∈ adjustablesOfColumn alphabet column tags) :
    ∀ record ∈ adjustable.claims, 0 ≤ record ∧ record < tags.length := by
  intro record claimed
  have given := (column_claims alphabet column tags).subset
      (List.mem_flatMap.mpr ⟨adjustable, member, claimed⟩)
  obtain ⟨place, inside, rfl⟩ := List.mem_map.mp given
  have := List.mem_range.mp inside
  omega

end Column

/-- No two adjustables of a column move one record, and none moves one twice. -/
structure Exclusive (adjustables : List Adjustable) : Prop where
  once : ∀ adjustable ∈ adjustables, adjustable.claims.Nodup
  apart : ∀ adjustable ∈ adjustables, ∀ other ∈ adjustables, other ≠ adjustable →
    other.column = adjustable.column → other.claims.Disjoint adjustable.claims

variable {columns : List (ℤ × List String)}

theorem exclusive_tags (distinct : (columns.map Prod.fst).Nodup) :
    Exclusive (adjustablesOfTags alphabet columns) := by
  constructor
  · intro adjustable member
    obtain ⟨⟨column, tags⟩, _, member⟩ := List.mem_flatMap.mp member
    exact (List.nodup_flatMap.mp (nodup_column_claims alphabet column tags)).1 adjustable member
  · intro adjustable member other otherMember different sameColumn
    obtain ⟨⟨column, tags⟩, given, member⟩ := List.mem_flatMap.mp member
    obtain ⟨⟨otherColumn, otherTags⟩, otherGiven, otherMember⟩ := List.mem_flatMap.mp otherMember
    rw [column_of_mem alphabet member, column_of_mem alphabet otherMember] at sameColumn
    cases List.inj_on_of_nodup_map distinct otherGiven given sameColumn
    have apart := (List.nodup_flatMap.mp (nodup_column_claims alphabet column tags)).2
    have symmetric : Std.Symm (Function.onFun List.Disjoint Adjustable.claims) :=
      ⟨fun _ _ disjoint _ claimed other => disjoint other claimed⟩
    exact apart.forall otherMember member different

theorem inside_tags {m n : ℕ}
    (fits : ∀ entry ∈ columns, 0 ≤ entry.1 ∧ entry.1 < n ∧ entry.2.length ≤ m) :
    ∀ adjustable ∈ adjustablesOfTags alphabet columns, adjustable.Inside m n := by
  intro adjustable member
  obtain ⟨⟨column, tags⟩, given, member⟩ := List.mem_flatMap.mp member
  obtain ⟨low, high, short⟩ := fits _ given
  have inside := claims_inside alphabet member
  simp only at low high short
  rw [← column_of_mem alphabet member] at low high
  refine ⟨⟨low, high⟩, ?_, fun link linked => ?_⟩
  · have := inside adjustable.record List.mem_cons_self
    omega
  · have := inside link.record (List.mem_cons_of_mem _ (List.mem_map_of_mem linked))
    omega

end OpticTune.Optics
