/-
# Resuming a changeset

A changeset need not be carried out as a whole: whatever part of it has been carried
out, comparing again asks for exactly the rest. What carries this is that no entry
changes the key of a record, and that what it puts in place is a desired record, which
does not differ from itself.
-/

import DnsReconcile.Proofs.Changeset.Entries
import DnsReconcile.Proofs.Changeset.Fate
import DnsReconcile.Proofs.Zone.Ownership

namespace DnsReconcile

universe u v

/-- A choice among the entries that ask for a change. -/
structure Selection where
  create : LoneChange → Bool
  delete : LoneChange → Bool
  modify : PairedChange → Bool

namespace Changeset

/-- The changeset with only the chosen changes. -/
def chosen (changes : Changeset) (selection : Selection) : Changeset where
  unchanged := changes.unchanged
  create := changes.create.filter selection.create
  delete := changes.delete.filter selection.delete
  modify := changes.modify.filter selection.modify

/-- The changeset without the chosen changes. -/
def remaining (changes : Changeset) (selection : Selection) : Changeset where
  unchanged := changes.unchanged
  create := changes.create.filter fun change => !selection.create change
  delete := changes.delete.filter fun change => !selection.delete change
  modify := changes.modify.filter fun pair => !selection.modify pair

/-- A record set once the changes have been carried out: the deleted records are gone,
the desired record stands in place of a modified one, and the created ones follow. -/
def outcome (changes : Changeset) (existing : List Record) : List Record :=
  existing.filterMap (changes.fate fun wanted record => wanted.key == record.key) ++
    changes.create.map (·.record)

/-- A changeset that asks for some of the changes that another asks for. -/
structure IsPartOf (part changes : Changeset) : Prop where
  create : part.create.Sublist changes.create
  delete : part.delete.Sublist changes.delete
  modify : part.modify.Sublist changes.modify

theorem isPartOf_refl (changes : Changeset) : changes.IsPartOf changes :=
  ⟨List.Sublist.refl _, List.Sublist.refl _, List.Sublist.refl _⟩

theorem chosen_isPartOf (changes : Changeset) (selection : Selection) :
    (changes.chosen selection).IsPartOf changes :=
  ⟨List.filter_sublist, List.filter_sublist, List.filter_sublist⟩

end Changeset

/-! ## Lists whose elements are replaced -/

section Replacement

variable {α : Type u} {β : Type v} {replace : α → Option α} {view : α → β} {list : List α}

/-- Replacements that keep a view of the elements add nothing to it. -/
theorem map_filterMap_sublist (kept : ∀ x y, replace x = some y → view y = view x) :
    ((list.filterMap replace).map view).Sublist (list.map view) := by
  induction list with
  | nil => exact List.Sublist.slnil
  | cons x rest ih =>
      cases replaced : replace x with
      | none =>
          rw [List.filterMap_cons_none replaced]
          exact ih.cons _
      | some y =>
          rw [List.filterMap_cons_some replaced, List.map_cons, List.map_cons, kept x y replaced]
          exact ih.cons_cons _

/-- Replacements that respect a condition may be made before or after it is applied. -/
theorem filter_filterMap_comm {condition : α → Bool}
    (kept : ∀ x y, replace x = some y → condition y = condition x) :
    (list.filterMap replace).filter condition = (list.filter condition).filterMap replace := by
  rw [List.filter_filterMap, List.filterMap_filter]
  apply List.filterMap_congr
  intro x _
  cases replaced : replace x with
  | none => simp
  | some y => simp [Option.filter_some, kept x y replaced]

end Replacement

namespace Comparison

variable {comparison : Comparison} {desired existing : List Record}
variable {changes part : Changeset} {record : Record}

/-- Whether a record takes part can be told from its key. -/
theorem participates_congr {managesApexNs : Bool} {first second : Record}
    (same : first.key = second.key) :
    participates managesApexNs first = participates managesApexNs second := by
  have label : first.label = second.label := congrArg RecordKey.label same
  have type : first.type = second.type := congrArg RecordKey.type same
  rw [participates, participates, Record.isApex, Record.isApex, label, type]

/-- Desired records take part. -/
theorem participates_of_desired (member : record ∈ desired) :
    participates (comparison.zone.managesApexNs desired) record = true := by
  rw [participates_iff, Zone.managesApexNs_iff]
  by_cases apex : record.IsApexNs
  · exact Or.inl (Or.inr ⟨record, member, apex⟩)
  · exact Or.inr apex

theorem eq_of_key_eq {records : List Record} (distinct : (records.map Record.key).Nodup)
    {first second : Record} (member : first ∈ records) (member' : second ∈ records)
    (same : first.key = second.key) : first = second :=
  List.inj_on_of_nodup_map distinct member member' same

section Performed

variable (compared : comparison.changes desired existing = .ok changes)
variable (some_done : part.IsPartOf changes)
include compared some_done

/-- The shape of a modification: both sides are known records with one key. -/
theorem modify_sides {pair : PairedChange} (member : pair ∈ part.modify) :
    pair.existing ∈ comparison.participating desired existing ∧ pair.desired ∈ desired ∧
      pair.existing.key = pair.desired.key :=
  ((mem_modify_iff compared).1 (some_done.modify.subset member)).1

/-- What becomes of a record that is known by its key. -/
theorem fate_by_key_eq_some_iff {result : Record} :
    part.fate (fun wanted record => wanted.key == record.key) record = some result ↔
      (∀ change ∈ part.delete, change.record.key ≠ record.key) ∧
        ((∃ pair ∈ part.modify, pair.existing.key = record.key ∧ pair.desired = result) ∨
          (∀ pair ∈ part.modify, pair.existing.key ≠ record.key) ∧ record = result) := by
  rw [Changeset.fate_eq_some_iff]
  · simp only [beq_eq_false_iff_ne, beq_iff_eq]
  · intro pair member other member' concerned concerned'
    obtain ⟨-, wanted, same⟩ := modify_sides compared some_done member
    obtain ⟨-, wanted', same'⟩ := modify_sides compared some_done member'
    apply eq_of_key_eq (changes_eq_ok_iff.1 compared).1.desired_distinct wanted wanted'
    rw [← same, ← same', eq_of_beq concerned, eq_of_beq concerned']

/-- Carrying out entries keeps the key of every record that stays. -/
theorem key_of_fate {result : Record}
    (becomes : part.fate (fun wanted record => wanted.key == record.key) record = some result) :
    result.key = record.key := by
  obtain ⟨-, ⟨pair, member, concerned, rfl⟩ | ⟨-, rfl⟩⟩ :=
    (fate_by_key_eq_some_iff compared some_done).1 becomes
  · rw [← (modify_sides compared some_done member).2.2, concerned]
  · rfl

/-- Whether a record takes part can be decided before entries are carried out. -/
theorem participating_outcome :
    comparison.participating desired (part.outcome existing) =
      (comparison.participating desired existing).filterMap
          (part.fate fun wanted record => wanted.key == record.key) ++
        part.create.map (·.record) := by
  have created : ∀ record ∈ part.create.map (·.record),
      participates (comparison.zone.managesApexNs desired) record = true := by
    intro record member
    obtain ⟨change, asked, rfl⟩ := List.mem_map.1 member
    exact participates_of_desired
      ((mem_create_iff compared).1 (some_done.create.subset asked)).1.1
  simp only [participating, Changeset.outcome]
  rw [List.filter_append, List.filter_eq_self.2 created, filter_filterMap_comm]
  intro first result becomes
  exact participates_congr (key_of_fate compared some_done becomes)

/-- The observed records after some entries have been carried out: those that no entry
concerns, and the desired records of the modifications and creations. -/
theorem mem_participating_outcome_iff :
    record ∈ comparison.participating desired (part.outcome existing) ↔
      (record ∈ comparison.participating desired existing ∧
          (∀ change ∈ part.delete, change.record.key ≠ record.key) ∧
          ∀ pair ∈ part.modify, pair.existing.key ≠ record.key) ∨
        (∃ pair ∈ part.modify, pair.desired = record) ∨
          ∃ change ∈ part.create, change.record = record := by
  rw [participating_outcome compared some_done, List.mem_append, List.mem_map, ← or_assoc]
  apply or_congr_left
  simp only [List.mem_filterMap, fate_by_key_eq_some_iff compared some_done]
  apply Iff.intro
  · rintro ⟨first, member, undeleted, ⟨pair, chosen, -, rfl⟩ | ⟨unmodified, rfl⟩⟩
    · exact Or.inr ⟨pair, chosen, rfl⟩
    · exact Or.inl ⟨member, undeleted, unmodified⟩
  · rintro (⟨member, undeleted, unmodified⟩ | ⟨pair, member, rfl⟩)
    · exact ⟨record, member, undeleted, Or.inr ⟨unmodified, rfl⟩⟩
    · obtain ⟨present, wanted, same⟩ := modify_sides compared some_done member
      refine ⟨pair.existing, present, ?_, Or.inl ⟨pair, member, rfl, rfl⟩⟩
      intro change deleted agree
      have unwanted := ((mem_delete_iff compared).1 (some_done.delete.subset deleted)).1.2
      exact unwanted (agree ▸ same ▸ List.mem_map_of_mem wanted)

/-- A desired record is found after some entries have been carried out if it was found
before or is one of those created. -/
theorem key_mem_outcome_iff (wanted : record ∈ desired) :
    record.key ∈ (comparison.participating desired (part.outcome existing)).map Record.key ↔
      record.key ∈ (comparison.participating desired existing).map Record.key ∨
        ∃ change ∈ part.create, change.record = record := by
  apply Iff.intro
  · intro found
    obtain ⟨other, member, same⟩ := List.mem_map.1 found
    rcases (mem_participating_outcome_iff compared some_done).1 member with
      ⟨present, -, -⟩ | ⟨pair, chosen, rfl⟩ | ⟨change, chosen, rfl⟩
    · exact Or.inl (List.mem_map.2 ⟨other, present, same⟩)
    · obtain ⟨present, -, agree⟩ := modify_sides compared some_done chosen
      exact Or.inl (List.mem_map.2 ⟨pair.existing, present, agree.trans same⟩)
    · have asked := (mem_create_iff compared).1 (some_done.create.subset chosen)
      have distinct := (changes_eq_ok_iff.1 compared).1.desired_distinct
      exact Or.inr ⟨change, chosen, eq_of_key_eq distinct asked.1.1 wanted same⟩
  · rintro (found | ⟨change, chosen, rfl⟩)
    · obtain ⟨other, present, same⟩ := List.mem_map.1 found
      by_cases modified : ∃ pair ∈ part.modify, pair.existing.key = other.key
      · obtain ⟨pair, chosen, agree⟩ := modified
        have sides := modify_sides compared some_done chosen
        refine List.mem_map.2 ⟨pair.desired, ?_, sides.2.2.symm.trans (agree.trans same)⟩
        exact (mem_participating_outcome_iff compared some_done).2
          (Or.inr (Or.inl ⟨pair, chosen, rfl⟩))
      · refine List.mem_map.2 ⟨other, ?_, same⟩
        refine (mem_participating_outcome_iff compared some_done).2 (Or.inl ⟨present, ?_, ?_⟩)
        · intro change chosen agree
          have unwanted := ((mem_delete_iff compared).1 (some_done.delete.subset chosen)).1.2
          exact unwanted (agree ▸ same ▸ List.mem_map_of_mem wanted)
        · intro pair chosen agree
          exact modified ⟨pair, chosen, agree⟩
    · exact List.mem_map_of_mem ((mem_participating_outcome_iff compared some_done).2
        (Or.inr (Or.inr ⟨change, chosen, rfl⟩)))

/-- Record sets that can be compared can be compared again after some entries have been
carried out. -/
theorem admits_outcome : comparison.Admits desired (part.outcome existing) := by
  obtain ⟨admitted, -⟩ := changes_eq_ok_iff.1 compared
  refine ⟨admitted.permitted, admitted.desired_fit, ?_, admitted.desired_distinct, ?_⟩
  · intro record member
    simp only [Changeset.outcome] at member
    cases List.mem_append.1 member with
    | inl stays =>
        obtain ⟨first, present, becomes⟩ := List.mem_filterMap.1 stays
        obtain ⟨-, ⟨pair, chosen, -, rfl⟩ | ⟨-, rfl⟩⟩ :=
          (fate_by_key_eq_some_iff compared some_done).1 becomes
        · exact admitted.desired_fit _ (modify_sides compared some_done chosen).2.1
        · exact admitted.existing_fit _ present
    | inr created =>
        obtain ⟨change, asked, rfl⟩ := List.mem_map.1 created
        exact admitted.desired_fit _
          ((mem_create_iff compared).1 (some_done.create.subset asked)).1.1
  · rw [participating_outcome compared some_done, List.map_append]
    have kept : ((List.filterMap (part.fate fun wanted record => wanted.key == record.key)
        (comparison.participating desired existing)).map Record.key).Sublist
          ((comparison.participating desired existing).map Record.key) :=
      map_filterMap_sublist fun first result becomes => key_of_fate compared some_done becomes
    refine List.nodup_append.2 ⟨kept.nodup admitted.existing_distinct, ?_, ?_⟩
    · rw [List.map_map]
      exact ((create_ordered compared).sublist some_done.create).nodup_map
    · intro first present second created same
      obtain ⟨record, made, rfl⟩ := List.mem_map.1 created
      obtain ⟨change, asked, rfl⟩ := List.mem_map.1 made
      have new := ((mem_create_iff compared).1 (some_done.create.subset asked)).1.2
      exact new (same ▸ kept.subset present)

end Performed

/-! ## Comparing again -/

section Again

variable {rest : Changeset} {selection : Selection}
variable (compared : comparison.changes desired existing = .ok changes)
variable (again :
  comparison.changes desired ((changes.chosen selection).outcome existing) = .ok rest)
include compared again

/-- What is still missing was missing before and has not been created. -/
theorem create_again : rest.create = (changes.remaining selection).create := by
  refine StrictlyOrderedBy.eq_of_mem_iff RecordKey.le_antisymm (create_ordered again)
    ((create_ordered compared).sublist List.filter_sublist) fun change => ?_
  have some_done := changes.chosen_isPartOf selection
  rw [Changeset.remaining, List.mem_filter, Bool.not_eq_true', mem_create_iff again]
  apply Iff.intro
  · rintro ⟨⟨wanted, absent⟩, said⟩
    rw [key_mem_outcome_iff compared some_done wanted, not_or] at absent
    have asked : change ∈ changes.create := (mem_create_iff compared).2 ⟨⟨wanted, absent.1⟩, said⟩
    refine ⟨asked, Bool.eq_false_iff.2 fun picked => absent.2 ?_⟩
    exact ⟨change, List.mem_filter.2 ⟨asked, picked⟩, rfl⟩
  · rintro ⟨asked, spared⟩
    obtain ⟨⟨wanted, absent⟩, said⟩ := (mem_create_iff compared).1 asked
    rw [key_mem_outcome_iff compared some_done wanted]
    refine ⟨⟨wanted, not_or.2 ⟨absent, ?_⟩⟩, said⟩
    rintro ⟨other, chosen, same⟩
    obtain ⟨asked', picked⟩ := List.mem_filter.1 chosen
    have equal := (create_ordered compared).eq_of_key_eq asked' asked (congrArg Record.key same)
    exact Bool.false_ne_true (spared.symm.trans (equal ▸ picked))

/-- What nobody desires was unwanted before and has not been deleted. -/
theorem delete_again : rest.delete = (changes.remaining selection).delete := by
  refine StrictlyOrderedBy.eq_of_mem_iff RecordKey.le_antisymm (delete_ordered again)
    ((delete_ordered compared).sublist List.filter_sublist) fun change => ?_
  have some_done := changes.chosen_isPartOf selection
  rw [Changeset.remaining, List.mem_filter, Bool.not_eq_true', mem_delete_iff again,
    mem_participating_outcome_iff compared some_done]
  apply Iff.intro
  · rintro ⟨⟨⟨present, undeleted, -⟩ | ⟨pair, chosen, same⟩ | ⟨creation, chosen, same⟩, unwanted⟩,
      exposed, said⟩
    · have asked := (mem_delete_iff compared).2 ⟨⟨present, unwanted⟩, exposed, said⟩
      refine ⟨asked, Bool.eq_false_iff.2 fun picked => ?_⟩
      exact undeleted change (List.mem_filter.2 ⟨asked, picked⟩) rfl
    · have wanted := (modify_sides compared some_done chosen).2.1
      exact absurd (List.mem_map_of_mem (same ▸ wanted)) unwanted
    · have wanted := ((mem_create_iff compared).1 (some_done.create.subset chosen)).1.1
      exact absurd (List.mem_map_of_mem (same ▸ wanted)) unwanted
  · rintro ⟨asked, spared⟩
    obtain ⟨⟨present, unwanted⟩, exposed, said⟩ := (mem_delete_iff compared).1 asked
    refine ⟨⟨Or.inl ⟨present, ?_, ?_⟩, unwanted⟩, exposed, said⟩
    · intro other chosen same
      obtain ⟨asked', picked⟩ := List.mem_filter.1 chosen
      have equal := (delete_ordered compared).eq_of_key_eq asked' asked same
      exact Bool.false_ne_true (spared.symm.trans (equal ▸ picked))
    · intro pair chosen same
      obtain ⟨-, wanted, agree⟩ := modify_sides compared some_done chosen
      exact unwanted (same ▸ agree ▸ List.mem_map_of_mem wanted)

/-- What differs from its desired form did so before and has not been modified. -/
theorem modify_again : rest.modify = (changes.remaining selection).modify := by
  refine StrictlyOrderedBy.eq_of_mem_iff RecordKey.le_antisymm (modify_ordered again)
    ((modify_ordered compared).sublist List.filter_sublist) fun pair => ?_
  have some_done := changes.chosen_isPartOf selection
  have distinct := (changes_eq_ok_iff.1 compared).1.desired_distinct
  -- A desired record that has been put in place is the one it is paired with.
  have settled {record : Record} (wanted : record ∈ desired) (same : record = pair.existing)
      (wanted' : pair.desired ∈ desired) (agree : pair.existing.key = pair.desired.key)
      (differ : comparison.differs pair.existing pair.desired = true) : False := by
    have equal := eq_of_key_eq distinct wanted wanted' (same ▸ agree)
    rw [← same, equal, differs_self] at differ
    exact Bool.false_ne_true differ
  rw [Changeset.remaining, List.mem_filter, Bool.not_eq_true', mem_modify_iff again,
    mem_participating_outcome_iff compared some_done]
  apply Iff.intro
  · rintro ⟨⟨⟨present, -, unmodified⟩ | ⟨other, chosen, same⟩ | ⟨creation, chosen, same⟩, wanted,
      agree⟩, differ, said⟩
    · have asked := (mem_modify_iff compared).2 ⟨⟨present, wanted, agree⟩, differ, said⟩
      refine ⟨asked, Bool.eq_false_iff.2 fun picked => ?_⟩
      exact unmodified pair (List.mem_filter.2 ⟨asked, picked⟩) rfl
    · have sides := modify_sides compared some_done chosen
      exact (settled sides.2.1 same wanted agree differ).elim
    · have asked := (mem_create_iff compared).1 (some_done.create.subset chosen)
      exact (settled asked.1.1 same wanted agree differ).elim
  · rintro ⟨asked, spared⟩
    obtain ⟨⟨present, wanted, agree⟩, differ, said⟩ := (mem_modify_iff compared).1 asked
    refine ⟨⟨Or.inl ⟨present, ?_, ?_⟩, wanted, agree⟩, differ, said⟩
    · intro change chosen same
      have unwanted := ((mem_delete_iff compared).1 (some_done.delete.subset chosen)).1.2
      exact unwanted (same ▸ agree ▸ List.mem_map_of_mem wanted)
    · intro other chosen same
      obtain ⟨asked', picked⟩ := List.mem_filter.1 chosen
      have equal := (modify_ordered compared).eq_of_key_eq asked' asked same
      exact Bool.false_ne_true (spared.symm.trans (equal ▸ picked))

end Again

/-- Nothing is left to do once a whole changeset has been carried out. -/
theorem isEmpty_of_changes_outcome {rest : Changeset}
    (compared : comparison.changes desired existing = .ok changes)
    (again : comparison.changes desired (changes.outcome existing) = .ok rest) :
    rest.isEmpty = true := by
  have all : changes.chosen ⟨fun _ => true, fun _ => true, fun _ => true⟩ = changes := by
    simp [Changeset.chosen]
  rw [← all] at again
  simp only [Changeset.isEmpty]
  rw [create_again compared again, delete_again compared again, modify_again compared again]
  simp [Changeset.remaining]

/-- Whichever of the changes have been carried out, a second comparison succeeds and asks
for the others, in the same order and with the same messages. After all of them nothing
is left. -/
theorem changes_resume (comparison : Comparison) {desired existing : List Record}
    {changes : Changeset} (compared : comparison.changes desired existing = .ok changes) :
    (∀ selection : Selection, ∃ rest,
      comparison.changes desired ((changes.chosen selection).outcome existing) = .ok rest ∧
        rest.create = (changes.remaining selection).create ∧
        rest.delete = (changes.remaining selection).delete ∧
        rest.modify = (changes.remaining selection).modify) ∧
      ∃ rest, comparison.changes desired (changes.outcome existing) = .ok rest ∧
        rest.isEmpty = true := by
  constructor
  · intro selection
    have admitted := admits_outcome compared (changes.chosen_isPartOf selection)
    have again := changes_eq_ok_iff.2 ⟨admitted, rfl⟩
    exact ⟨_, again, create_again compared again, delete_again compared again,
      modify_again compared again⟩
  · have admitted := admits_outcome compared changes.isPartOf_refl
    have again := changes_eq_ok_iff.2 ⟨admitted, rfl⟩
    exact ⟨_, again, isEmpty_of_changes_outcome compared again⟩

/-- A push that created and modified but could not delete has the deletion left. -/
theorem changes_resume_at_deletion :
    let comparison : Comparison := ⟨{ ignoreLabels := ["vpn"] }, .exact, fun _ => ∅⟩
    let desired : List Record :=
      [.ofPayload "api" (.txt ["new"]), .ofPayload "www" (.cname "new.example.net.")]
    let existing : List Record :=
      [.ofPayload "@" (.ns "ns.example.net."), .ofPayload "old" (.txt ["gone"]),
        .ofPayload "vpn" (.txt ["theirs"]), .ofPayload "www" (.cname "old.example.net.")]
    let selection : Selection := ⟨fun _ => true, fun _ => false, fun _ => true⟩
    ∃ changes rest, comparison.changes desired existing = .ok changes ∧ changes.changeCount = 3 ∧
      comparison.changes desired ((changes.chosen selection).outcome existing) = .ok rest ∧
      rest.changeCount = 1 ∧ rest.delete = (changes.remaining selection).delete := by
  intro comparison desired existing selection
  have admitted : comparison.Admits desired existing :=
    ⟨by decide, by decide, by decide, by decide +kernel, by decide +kernel⟩
  have compared := changes_eq_ok_iff.2 ⟨admitted, rfl⟩
  obtain ⟨rest, again, create, delete, modify⟩ := (changes_resume comparison compared).1 selection
  refine ⟨_, rest, compared, by decide +kernel, again, ?_, delete⟩
  simp only [Changeset.changeCount]
  rw [create, delete, modify]
  decide +kernel

end Comparison

end DnsReconcile
