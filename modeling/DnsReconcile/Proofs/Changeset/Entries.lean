/-
# Entries of a changeset

The four classes of a changeset, each said through its members: which records have an
entry there, and with which message. Every class lists its entries in strictly
increasing order of their keys, so knowing the members is knowing the class.
-/

import DnsReconcile.Proofs.Changeset.Matching

namespace DnsReconcile

namespace Comparison

variable {comparison : Comparison} {desired existing : List Record} {changes : Changeset}

/-- What counts as a difference between the records of a pair. -/
theorem differs_iff {first second : Record} :
    comparison.differs first second = true ↔
      first.ttl ≠ second.ttl ∨ first.payload ≠ second.payload ∨
        comparison.comparable first ≠ comparison.comparable second := by
  simp [differs, or_assoc]

theorem differs_self (record : Record) : comparison.differs record record = false := by
  simp [differs]

/-! ## What a correlation gives rise to -/

section Inversion

variable {correlation : Correlation}

theorem unchanged?_eq_some_iff {pair : PairedChange} :
    comparison.unchanged? correlation = some pair ↔
      correlation = .both pair.existing pair.desired ∧
        comparison.differs pair.existing pair.desired = false ∧
        pair.message = comparison.loneMessage "UNCHANGED" pair.desired := by
  obtain ⟨first, second, message⟩ := pair
  cases correlation with
  | both existing desired =>
      simp only [unchanged?, Option.ite_none_left_eq_some, Bool.not_eq_true, Option.some.injEq,
        PairedChange.mk.injEq, Correlation.both.injEq]
      apply Iff.intro
      · rintro ⟨agree, rfl, rfl, rfl⟩
        exact ⟨⟨rfl, rfl⟩, agree, rfl⟩
      · rintro ⟨⟨rfl, rfl⟩, agree, said⟩
        exact ⟨agree, rfl, rfl, said.symm⟩
  | onlyDesired desired => simp [unchanged?]
  | onlyExisting existing => simp [unchanged?]

theorem modify?_eq_some_iff {pair : PairedChange} :
    comparison.modify? correlation = some pair ↔
      correlation = .both pair.existing pair.desired ∧
        comparison.differs pair.existing pair.desired = true ∧
        pair.message = comparison.modifyMessage pair.existing pair.desired := by
  obtain ⟨first, second, message⟩ := pair
  cases correlation with
  | both existing desired =>
      simp only [modify?, Option.ite_none_right_eq_some, Option.some.injEq,
        PairedChange.mk.injEq, Correlation.both.injEq]
      apply Iff.intro
      · rintro ⟨differ, rfl, rfl, rfl⟩
        exact ⟨⟨rfl, rfl⟩, differ, rfl⟩
      · rintro ⟨⟨rfl, rfl⟩, differ, said⟩
        exact ⟨differ, rfl, rfl, said.symm⟩
  | onlyDesired desired => simp [modify?]
  | onlyExisting existing => simp [modify?]

theorem create?_eq_some_iff {change : LoneChange} :
    comparison.create? correlation = some change ↔
      correlation = .onlyDesired change.record ∧
        change.message = comparison.loneMessage "CREATE" change.record := by
  obtain ⟨record, message⟩ := change
  cases correlation with
  | both existing desired => simp [create?]
  | onlyDesired desired =>
      simp only [create?, Option.some.injEq, LoneChange.mk.injEq, Correlation.onlyDesired.injEq]
      apply Iff.intro
      · rintro ⟨rfl, rfl⟩
        exact ⟨rfl, rfl⟩
      · rintro ⟨rfl, said⟩
        exact ⟨rfl, said.symm⟩
  | onlyExisting existing => simp [create?]

theorem delete?_eq_some_iff {change : LoneChange} :
    comparison.delete? correlation = some change ↔
      correlation = .onlyExisting change.record ∧
        comparison.protects change.record = false ∧
        change.message = comparison.loneMessage "DELETE" change.record := by
  obtain ⟨record, message⟩ := change
  cases correlation with
  | both existing desired => simp [delete?]
  | onlyDesired desired => simp [delete?]
  | onlyExisting existing =>
      simp only [delete?, Option.ite_none_left_eq_some, Bool.not_eq_true, Option.some.injEq,
        LoneChange.mk.injEq, Correlation.onlyExisting.injEq]
      apply Iff.intro
      · rintro ⟨exposed, rfl, rfl⟩
        exact ⟨rfl, exposed, rfl⟩
      · rintro ⟨rfl, exposed, said⟩
        exact ⟨exposed, rfl, said.symm⟩

end Inversion

/-! ## Members -/

/-- A class of entries has an entry for a correlation if the correlation is there and
gives rise to it. -/
theorem mem_filterMap_of_inversion {β : Type} {made? : Correlation → Option β} {entry : β}
    {source : Correlation} {sound : Prop} {list : List Correlation}
    (inversion : ∀ correlation, made? correlation = some entry ↔ correlation = source ∧ sound) :
    entry ∈ list.filterMap made? ↔ source ∈ list ∧ sound := by
  simp only [List.mem_filterMap, inversion]
  apply Iff.intro
  · rintro ⟨correlation, member, rfl, holds⟩
    exact ⟨member, holds⟩
  · rintro ⟨member, holds⟩
    exact ⟨source, member, rfl, holds⟩

section Members

variable (compared : comparison.changes desired existing = .ok changes)
include compared

theorem mem_unchanged_iff {pair : PairedChange} :
    pair ∈ changes.unchanged ↔
      (pair.existing ∈ comparison.participating desired existing ∧ pair.desired ∈ desired ∧
        pair.existing.key = pair.desired.key) ∧
        comparison.differs pair.existing pair.desired = false ∧
        pair.message = comparison.loneMessage "UNCHANGED" pair.desired := by
  obtain ⟨admitted, rfl⟩ := changes_eq_ok_iff.1 compared
  rw [← both_mem_correlations_iff admitted.desired_distinct admitted.existing_distinct]
  exact mem_filterMap_of_inversion fun _ => unchanged?_eq_some_iff

theorem mem_modify_iff {pair : PairedChange} :
    pair ∈ changes.modify ↔
      (pair.existing ∈ comparison.participating desired existing ∧ pair.desired ∈ desired ∧
        pair.existing.key = pair.desired.key) ∧
        comparison.differs pair.existing pair.desired = true ∧
        pair.message = comparison.modifyMessage pair.existing pair.desired := by
  obtain ⟨admitted, rfl⟩ := changes_eq_ok_iff.1 compared
  rw [← both_mem_correlations_iff admitted.desired_distinct admitted.existing_distinct]
  exact mem_filterMap_of_inversion fun _ => modify?_eq_some_iff

theorem mem_create_iff {change : LoneChange} :
    change ∈ changes.create ↔
      (change.record ∈ desired ∧
        change.record.key ∉ (comparison.participating desired existing).map Record.key) ∧
        change.message = comparison.loneMessage "CREATE" change.record := by
  obtain ⟨admitted, rfl⟩ := changes_eq_ok_iff.1 compared
  rw [← onlyDesired_mem_correlations_iff admitted.desired_distinct]
  exact mem_filterMap_of_inversion fun _ => create?_eq_some_iff

theorem mem_delete_iff {change : LoneChange} :
    change ∈ changes.delete ↔
      (change.record ∈ comparison.participating desired existing ∧
        change.record.key ∉ desired.map Record.key) ∧
        comparison.protects change.record = false ∧
        change.message = comparison.loneMessage "DELETE" change.record := by
  obtain ⟨admitted, rfl⟩ := changes_eq_ok_iff.1 compared
  rw [← onlyExisting_mem_correlations_iff admitted.existing_distinct]
  exact mem_filterMap_of_inversion fun _ => delete?_eq_some_iff

/-- The created records are those that are desired and not there. -/
theorem mem_created_iff {record : Record} :
    record ∈ changes.create.map (·.record) ↔
      record ∈ desired ∧
        record.key ∉ (comparison.participating desired existing).map Record.key := by
  rw [List.mem_map]
  apply Iff.intro
  · rintro ⟨change, asked, rfl⟩
    exact ((mem_create_iff compared).1 asked).1
  · intro wanted
    exact ⟨⟨record, comparison.loneMessage "CREATE" record⟩,
      (mem_create_iff compared).2 ⟨wanted, rfl⟩, rfl⟩

/-- The deleted records are those that are there, not desired and not protected. -/
theorem mem_deleted_iff {record : Record} :
    record ∈ changes.delete.map (·.record) ↔
      record ∈ comparison.participating desired existing ∧
        record.key ∉ desired.map Record.key ∧ comparison.protects record = false := by
  rw [List.mem_map]
  apply Iff.intro
  · rintro ⟨change, asked, rfl⟩
    obtain ⟨⟨present, unwanted⟩, exposed, -⟩ := (mem_delete_iff compared).1 asked
    exact ⟨present, unwanted, exposed⟩
  · rintro ⟨present, unwanted, exposed⟩
    exact ⟨⟨record, comparison.loneMessage "DELETE" record⟩,
      (mem_delete_iff compared).2 ⟨⟨present, unwanted⟩, exposed, rfl⟩, rfl⟩

/-- An observed record is replaced by a desired one if they have one key and differ. -/
theorem exists_modify_iff {first second : Record} :
    (∃ pair ∈ changes.modify, pair.existing = first ∧ pair.desired = second) ↔
      (first ∈ comparison.participating desired existing ∧ second ∈ desired ∧
        first.key = second.key) ∧ comparison.differs first second = true := by
  apply Iff.intro
  · rintro ⟨pair, asked, rfl, rfl⟩
    obtain ⟨sides, differ, -⟩ := (mem_modify_iff compared).1 asked
    exact ⟨sides, differ⟩
  · rintro ⟨sides, differ⟩
    exact ⟨⟨first, second, comparison.modifyMessage first second⟩,
      (mem_modify_iff compared).2 ⟨sides, differ, rfl⟩, rfl, rfl⟩

/-- Modifications keep keys. -/
theorem key_eq_of_modify {pair : PairedChange} (asked : pair ∈ changes.modify) :
    pair.existing.key = pair.desired.key :=
  ((mem_modify_iff compared).1 asked).1.2.2

/-- What is to be deleted or replaced was observed. -/
theorem mem_existing_of_delete {change : LoneChange} (asked : change ∈ changes.delete) :
    change.record ∈ existing :=
  List.mem_of_mem_filter ((mem_delete_iff compared).1 asked).1.1

theorem mem_existing_of_modify {pair : PairedChange} (asked : pair ∈ changes.modify) :
    pair.existing ∈ existing :=
  List.mem_of_mem_filter ((mem_modify_iff compared).1 asked).1.1

end Members

/-! ## Single pairs -/

theorem correlations_pair {existing desired : Record} (same : existing.key = desired.key) :
    correlations [desired] [existing] = [.both existing desired] := by
  simp [correlations, keyed, keys, same, sortBy, insertBy]

/-- Two records of one key that are all there is are accepted, and an agreeing pair is one
entry that asks for nothing. -/
theorem changes_pair {existing desired : Record} (same : existing.key = desired.key)
    (permitted : comparison.zone.checkIgnored comparison.matcher [desired] = .ok ())
    (existing_fit : existing.payload.fits existing.type = true)
    (desired_fit : desired.payload.fits desired.type = true)
    (takes_part : existing ∈ comparison.participating [desired] [existing])
    (agree : comparison.differs existing desired = false) :
    comparison.changes [desired] [existing] =
      .ok { unchanged := [⟨existing, desired, comparison.loneMessage "UNCHANGED" desired⟩] } := by
  have whole : comparison.participating [desired] [existing] = [existing] :=
    List.filter_eq_self.2 (List.forall_mem_singleton.2 (List.mem_filter.1 takes_part).2)
  refine changes_eq_ok_iff.2 ⟨⟨permitted, List.forall_mem_singleton.2 desired_fit,
    List.forall_mem_singleton.2 existing_fit, List.nodup_singleton _, ?_⟩, ?_⟩
  · rw [whole]
    exact List.nodup_singleton _
  · rw [whole, correlations_pair same]
    simp [classify, unchanged?, modify?, create?, delete?, agree]

/-! ## Order -/

section Order

/-- Entries made from correlations one by one inherit their order. -/
theorem filterMap_correlations_ordered {β : Type} {made? : Correlation → Option β}
    {key : β → RecordKey} {wanted observed : List Record}
    (wanted_distinct : (wanted.map Record.key).Nodup)
    (observed_distinct : (observed.map Record.key).Nodup)
    (kept : ∀ correlation entry, made? correlation = some entry → key entry = correlation.key) :
    StrictlyOrderedBy RecordKey.le key ((correlations wanted observed).filterMap made?) := by
  refine List.pairwise_filterMap.2
    ((correlations_ordered wanted_distinct observed_distinct).imp ?_)
  intro first second ordered entry made other made'
  rw [kept first entry made, kept second other made']
  exact ordered

variable (compared : comparison.changes desired existing = .ok changes)
include compared

theorem unchanged_ordered :
    StrictlyOrderedBy RecordKey.le (fun pair => pair.existing.key) changes.unchanged := by
  obtain ⟨admitted, rfl⟩ := changes_eq_ok_iff.1 compared
  apply filterMap_correlations_ordered admitted.desired_distinct admitted.existing_distinct
  intro correlation pair made
  rw [(unchanged?_eq_some_iff.1 made).1, Correlation.key]

theorem modify_ordered :
    StrictlyOrderedBy RecordKey.le (fun pair => pair.existing.key) changes.modify := by
  obtain ⟨admitted, rfl⟩ := changes_eq_ok_iff.1 compared
  apply filterMap_correlations_ordered admitted.desired_distinct admitted.existing_distinct
  intro correlation pair made
  rw [(modify?_eq_some_iff.1 made).1, Correlation.key]

theorem create_ordered :
    StrictlyOrderedBy RecordKey.le (fun change => change.record.key) changes.create := by
  obtain ⟨admitted, rfl⟩ := changes_eq_ok_iff.1 compared
  apply filterMap_correlations_ordered admitted.desired_distinct admitted.existing_distinct
  intro correlation change made
  rw [(create?_eq_some_iff.1 made).1, Correlation.key]

theorem delete_ordered :
    StrictlyOrderedBy RecordKey.le (fun change => change.record.key) changes.delete := by
  obtain ⟨admitted, rfl⟩ := changes_eq_ok_iff.1 compared
  apply filterMap_correlations_ordered admitted.desired_distinct admitted.existing_distinct
  intro correlation change made
  rw [(delete?_eq_some_iff.1 made).1, Correlation.key]

end Order

end Comparison

end DnsReconcile
