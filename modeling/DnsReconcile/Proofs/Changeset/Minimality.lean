/-
# Minimal changesets

No way of bringing a zone into its desired state takes fewer steps than its changeset has entries
that ask for a change. Each of these entries has a key of its own, under which the zone is not as
it should be, and a step changes what is found under one key only. So every way takes a step for
each entry. As steps under different keys do not get in each other's way, the corrections of the
changeset are a way that takes no other.
-/

import DnsReconcile.Proofs.Changeset.Accounting
import DnsReconcile.Proofs.Changeset.CarryingOut
import Mathlib.Data.List.Perm.Subperm

namespace DnsReconcile

/-! ## Steps -/

namespace Action

variable {action other : Action} {actions : List Action} {record : Record}
variable {records final : List Record}

/-- The key of the record that an action is about. -/
def key? : Action → Option RecordKey
  | .create record | .delete record => some record.key
  | .modify existing _ => some existing.key
  | .toggle .. => none

/-- An action is a step from a record set if it creates a record under a new key, deletes a record
that is there, or replaces one by a record with the same key. -/
def IsStep (records : List Record) : Action → Prop
  | .create record => record.key ∉ records.map Record.key
  | .delete record => record ∈ records
  | .modify existing desired => existing ∈ records ∧ desired.key = existing.key
  | .toggle .. => False

/-- Actions lead from one record set to another, step by step. -/
inductive Lead : List Record → List Action → List Record → Prop where
  | nil (records : List Record) : Lead records [] records
  | cons {action : Action} {actions : List Action} {records final : List Record}
      (step : action.IsStep records) (rest : Lead (action.carryOut records) actions final) :
      Lead records (action :: actions) final

/-- A step does not touch records under other keys. -/
theorem mem_carryOut_iff (step : action.IsStep records) (apart : action.key? ≠ some record.key) :
    record ∈ action.carryOut records ↔ record ∈ records := by
  cases action with
  | create new =>
      have fresh : record ≠ new := fun same => apart (same ▸ rfl)
      simp only [carryOut, List.mem_append, List.mem_singleton, fresh, or_false]
  | delete old =>
      apply List.mem_eraseP_of_neg
      exact fun same => apart (congrArg some (beq_iff_eq.1 same))
  | modify existing desired =>
      rw [carryOut, List.mem_map]
      apply Iff.intro
      · rintro ⟨source, member, becomes⟩
        split at becomes
        · exact absurd (congrArg some (step.2.symm.trans (congrArg Record.key becomes))) apart
        · exact becomes ▸ member
      · intro member
        exact ⟨record, member, if_neg fun same => apart (congrArg some same.symm)⟩
  | toggle feature enabled => exact step.elim

/-- What no step is about stays as it is, however many steps are taken. -/
theorem Lead.mem_iff (lead : Lead records actions final)
    (apart : ∀ action ∈ actions, action.key? ≠ some record.key) :
    record ∈ final ↔ record ∈ records := by
  induction lead with
  | nil records => exact Iff.rfl
  | cons step _ ih =>
      obtain ⟨first, rest⟩ := List.forall_mem_cons.1 apart
      rw [ih rest, mem_carryOut_iff step first]

/-- A step leaves different records under different keys. -/
theorem nodup_keys_carryOut (step : action.IsStep records)
    (distinct : (records.map Record.key).Nodup) :
    ((action.carryOut records).map Record.key).Nodup := by
  cases action with
  | create new =>
      have one_more : ((records ++ [new]).map Record.key).Perm
          (new.key :: records.map Record.key) := by
        rw [List.map_append]
        exact List.perm_append_singleton _ _
      exact one_more.nodup_iff.2 (List.nodup_cons.2 ⟨step, distinct⟩)
  | delete old => exact distinct.sublist (List.eraseP_sublist.map Record.key)
  | modify existing desired =>
      rw [keys_carryOut_modify step.2.symm]
      exact distinct
  | toggle feature enabled => exact step.elim

/-- Record sets stay sets: a key leads to one record at most, at any time. -/
theorem Lead.nodup_keys (lead : Lead records actions final)
    (distinct : (records.map Record.key).Nodup) : (final.map Record.key).Nodup := by
  induction lead with
  | nil records => exact distinct
  | cons step _ ih => exact ih (nodup_keys_carryOut step distinct)

/-- A step can still be taken after a step about another key. -/
theorem isStep_carryOut (step : other.IsStep records) (own : action.IsStep records)
    (apart : other.key? ≠ action.key?) : action.IsStep (other.carryOut records) := by
  cases action with
  | create new =>
      intro taken
      obtain ⟨found, member, same⟩ := List.mem_map.1 taken
      have present := (mem_carryOut_iff step (same ▸ apart)).1 member
      exact own (List.mem_map.2 ⟨found, present, same⟩)
  | delete old => exact (mem_carryOut_iff step apart).2 own
  | modify existing desired => exact ⟨(mem_carryOut_iff step apart).2 own.1, own.2⟩
  | toggle feature enabled => exact own.elim

/-- Steps about different keys can be taken one after another. -/
theorem lead_of_isStep (steps : ∀ action ∈ actions, action.IsStep records)
    (apart : (actions.map key?).Nodup) :
    Lead records actions
      (actions.foldl (fun records action => action.carryOut records) records) := by
  induction actions generalizing records with
  | nil => exact .nil records
  | cons action rest ih =>
      obtain ⟨step, steps⟩ := List.forall_mem_cons.1 steps
      obtain ⟨new, apart⟩ := List.nodup_cons.1 apart
      refine .cons step (ih (fun other member => ?_) apart)
      exact isStep_carryOut step (steps other member)
        fun same => new (List.mem_map.2 ⟨other, member, same.symm⟩)

end Action

/-! ## Keys of changes -/

namespace Changeset

variable {changes : Changeset}

/-- The keys of the entries that ask for a change. -/
def changedKeys (changes : Changeset) : List RecordKey :=
  (changes.delete.map fun change => change.record.key) ++
    (changes.create.map fun change => change.record.key) ++
      changes.modify.map fun pair => pair.existing.key

theorem length_changedKeys (changes : Changeset) :
    changes.changedKeys.length = changes.changeCount := by
  simp only [changedKeys, changeCount, List.length_append, List.length_map]
  omega

/-- The corrections of a changeset are about the keys of its changes. -/
theorem keys_sequence_perm (changes : Changeset) :
    (((Correction.sequence changes).map (·.action)).map Action.key?).Perm
      (changes.changedKeys.map some) := by
  rw [List.map_map]
  refine ((Correction.sequence_perm changes).map _).trans (.of_eq ?_)
  simp only [Correction.ofChangeset, changedKeys, List.map_append, List.map_map]
  rfl

end Changeset

namespace Comparison

variable {comparison : Comparison} {desired existing final : List Record} {changes : Changeset}
variable {actions : List Action}

/-- A record set is what a zone should come to: every desired record has a counterpart, and what
is under other keys was there and is protected. -/
structure Meets (comparison : Comparison) (desired existing final : List Record) : Prop where
  served : ∀ record ∈ desired, ∃ found ∈ final,
    found.key = record.key ∧ ¬ comparison.Differ found record
  spared : ∀ record ∈ final, record.key ∉ desired.map Record.key →
    record ∈ existing ∧ comparison.Protected record

theorem not_differ_self (record : Record) : ¬ comparison.Differ record record :=
  fun differ => Bool.false_ne_true ((differs_self record).symm.trans (differs_iff.2 differ))

section Compared

variable (compared : comparison.changes desired existing = .ok changes)
include compared

/-- Each change has a key of its own. -/
theorem nodup_changedKeys : changes.changedKeys.Nodup := by
  have accounts := accounts_of_changes compared
  have deleted_apart : ∀ change ∈ changes.delete, ∀ other ∈ changes.create,
      change.record.key ≠ other.record.key := by
    intro change asked other asked' same
    have wanted := ((mem_create_iff compared).1 asked').1.1
    exact (accounts.delete_unwanted change asked).1 (same ▸ List.mem_map_of_mem wanted)
  have modified_apart : ∀ pair ∈ changes.modify,
      (∀ change ∈ changes.delete, change.record.key ≠ pair.existing.key) ∧
        ∀ change ∈ changes.create, change.record.key ≠ pair.existing.key := by
    intro pair asked
    obtain ⟨present, wanted, agree⟩ := ((mem_modify_iff compared).1 asked).1
    refine ⟨fun change asked' same => ?_, fun change asked' same => ?_⟩
    · exact (accounts.delete_unwanted change asked').1
        (same ▸ agree ▸ List.mem_map_of_mem wanted)
    · exact accounts.create_new change asked' (same ▸ List.mem_map_of_mem present)
  refine List.nodup_append.2 ⟨List.nodup_append.2 ⟨(delete_ordered compared).nodup_map,
    (create_ordered compared).nodup_map, ?_⟩, (modify_ordered compared).nodup_map, ?_⟩
  · simpa only [List.forall_mem_map] using deleted_apart
  · simp only [List.forall_mem_append, List.forall_mem_map]
    exact ⟨fun change asked pair asked' => (modified_apart pair asked').1 change asked,
      fun change asked pair asked' => (modified_apart pair asked').2 change asked⟩

/-- Whatever brings a zone into its desired state has a step about each changed key. -/
theorem exists_step_of_changed
    (lead : Action.Lead (comparison.participating desired existing) actions final)
    (meets : comparison.Meets desired existing final) {key : RecordKey}
    (changed : key ∈ changes.changedKeys) : some key ∈ actions.map Action.key? := by
  by_contra untouched
  have stays {record : Record} (same : record.key = key) :
      record ∈ final ↔ record ∈ comparison.participating desired existing := by
    apply lead.mem_iff
    intro action member concerned
    exact untouched (List.mem_map.2 ⟨action, member, concerned.trans (congrArg some same)⟩)
  have accounts := accounts_of_changes compared
  simp only [Changeset.changedKeys, List.mem_append, List.mem_map] at changed
  rcases changed with (⟨change, asked, rfl⟩ | ⟨change, asked, rfl⟩) | ⟨pair, asked, rfl⟩
  · -- A record that should be gone would still be there.
    obtain ⟨unwanted, exposed⟩ := accounts.delete_unwanted change asked
    have present := ((mem_delete_iff compared).1 asked).1.1
    exact exposed (meets.spared change.record ((stays rfl).2 present) unwanted).2
  · -- A record that should be there would have been there before.
    have wanted := ((mem_create_iff compared).1 asked).1.1
    obtain ⟨found, member, same, -⟩ := meets.served change.record wanted
    exact accounts.create_new change asked
      (List.mem_map.2 ⟨found, (stays same).1 member, same⟩)
  · -- A record that should be replaced would agree with the desired one.
    obtain ⟨agree, differ⟩ := accounts.modify_differ pair asked
    obtain ⟨present, wanted, -⟩ := ((mem_modify_iff compared).1 asked).1
    obtain ⟨found, member, same, alike⟩ := meets.served pair.desired wanted
    have same := same.trans agree.symm
    have distinct := (changes_eq_ok_iff.1 compared).1.existing_distinct
    obtain rfl := eq_of_key_eq distinct ((stays same).1 member) present same
    exact alike differ

/-! ## The way of the changeset -/

/-- Records that take no part do not matter. -/
theorem changes_participating :
    comparison.changes desired (comparison.participating desired existing) = .ok changes := by
  obtain ⟨admitted, made⟩ := changes_eq_ok_iff.1 compared
  have again : comparison.participating desired (comparison.participating desired existing) =
      comparison.participating desired existing :=
    List.filter_eq_self.2 fun _ member => (List.mem_filter.1 member).2
  refine changes_eq_ok_iff.2 ⟨⟨admitted.permitted, admitted.desired_fit, ?_,
    admitted.desired_distinct, ?_⟩, ?_⟩
  · exact fun record member => admitted.existing_fit record (List.mem_of_mem_filter member)
  · rw [again]
    exact admitted.existing_distinct
  · rw [again]
    exact made

/-- What is there once the corrections of a changeset have been carried out. -/
theorem mem_carryOut_sequence_iff {record : Record} :
    record ∈ Correction.carryOut (Correction.sequence changes)
        (comparison.participating desired existing) ↔
      (record ∈ comparison.participating desired existing ∧
          (∀ change ∈ changes.delete, change.record.key ≠ record.key) ∧
          ∀ pair ∈ changes.modify, pair.existing.key ≠ record.key) ∨
        (∃ pair ∈ changes.modify, pair.desired = record) ∨
          ∃ change ∈ changes.create, change.record = record := by
  have all := Changeset.isPartOf_refl changes
  rw [(carryOut_sequence_perm (changes_participating compared)).mem_iff,
    ← mem_participating_outcome_iff compared all, participating_outcome compared all]
  rfl

/-- An observed record that agrees with a desired one stays. -/
theorem mem_carryOut_sequence_of_agree {found record : Record}
    (present : found ∈ comparison.participating desired existing) (wanted : record ∈ desired)
    (same : found.key = record.key) (agree : ¬ comparison.Differ found record) :
    found ∈ Correction.carryOut (Correction.sequence changes)
      (comparison.participating desired existing) := by
  have accounts := accounts_of_changes compared
  obtain ⟨admitted, -⟩ := changes_eq_ok_iff.1 compared
  refine (mem_carryOut_sequence_iff compared).2 (Or.inl ⟨present, ?_, ?_⟩)
  · intro change asked same'
    exact (accounts.delete_unwanted change asked).1
      (same' ▸ same ▸ List.mem_map_of_mem wanted)
  · intro pair asked same'
    obtain ⟨present', wanted', agree'⟩ := ((mem_modify_iff compared).1 asked).1
    have first := eq_of_key_eq admitted.existing_distinct present' present same'
    have second := eq_of_key_eq admitted.desired_distinct wanted' wanted
      (agree'.symm.trans (same'.trans same))
    have differ := (accounts.modify_differ pair asked).2
    rw [first, second] at differ
    exact agree differ

/-- The corrections of a changeset leave a counterpart for every desired record. -/
theorem served_by_sequence {record : Record} (wanted : record ∈ desired) :
    ∃ found ∈ Correction.carryOut (Correction.sequence changes)
        (comparison.participating desired existing),
      found.key = record.key ∧ ¬ comparison.Differ found record := by
  by_cases present : record.key ∈ (comparison.participating desired existing).map Record.key
  · obtain ⟨found, member, same⟩ := List.mem_map.1 present
    by_cases differ : comparison.Differ found record
    · obtain ⟨pair, asked, -, rfl⟩ :=
        (exists_modify_iff compared).2 ⟨⟨member, wanted, same⟩, differs_iff.2 differ⟩
      exact ⟨pair.desired,
        (mem_carryOut_sequence_iff compared).2 (Or.inr (Or.inl ⟨pair, asked, rfl⟩)),
        rfl, not_differ_self pair.desired⟩
    · exact ⟨found, mem_carryOut_sequence_of_agree compared member wanted same differ, same,
        differ⟩
  · obtain ⟨change, asked, rfl⟩ :=
      List.mem_map.1 ((mem_created_iff compared).2 ⟨wanted, present⟩)
    exact ⟨change.record,
      (mem_carryOut_sequence_iff compared).2 (Or.inr (Or.inr ⟨change, asked, rfl⟩)),
      rfl, not_differ_self change.record⟩

/-- What they leave under other keys was there and is protected. -/
theorem spared_by_sequence {record : Record}
    (member : record ∈ Correction.carryOut (Correction.sequence changes)
      (comparison.participating desired existing))
    (unwanted : record.key ∉ desired.map Record.key) :
    record ∈ existing ∧ comparison.Protected record := by
  rcases (mem_carryOut_sequence_iff compared).1 member with
    ⟨present, stays, -⟩ | ⟨pair, asked, rfl⟩ | ⟨change, asked, rfl⟩
  · refine ⟨List.mem_of_mem_filter present, ?_⟩
    by_contra exposed
    rw [← protects_iff, Bool.not_eq_true] at exposed
    obtain ⟨change, asked, rfl⟩ :=
      List.mem_map.1 ((mem_deleted_iff compared).2 ⟨present, unwanted, exposed⟩)
    exact stays change asked rfl
  · exact absurd (List.mem_map_of_mem ((mem_modify_iff compared).1 asked).1.2.1) unwanted
  · exact absurd (List.mem_map_of_mem ((mem_create_iff compared).1 asked).1.1) unwanted

/-- The corrections of a changeset are steps that can be taken one after another. -/
theorem lead_sequence :
    Action.Lead (comparison.participating desired existing)
      ((Correction.sequence changes).map (·.action))
      (Correction.carryOut (Correction.sequence changes)
        (comparison.participating desired existing)) := by
  have apart := (Changeset.keys_sequence_perm changes).nodup_iff.2
    ((nodup_changedKeys compared).map fun _ _ => Option.some.inj)
  rw [Correction.carryOut, ← List.foldl_map]
  refine Action.lead_of_isStep (List.forall_mem_map.2 fun correction member => ?_) apart
  rcases Correction.mem_sequence_iff.1 member with
    ⟨change, asked, rfl⟩ | ⟨change, asked, rfl⟩ | ⟨pair, asked, rfl⟩
  · exact ((mem_delete_iff compared).1 asked).1.1
  · exact ((mem_create_iff compared).1 asked).1.2
  · exact ⟨((mem_modify_iff compared).1 asked).1.1, (key_eq_of_modify compared asked).symm⟩

end Compared

/-- Whatever steps bring the records that take part into the desired state, they are at least as
many as the changeset has changes. The corrections of the changeset are such steps, and no more
than that. -/
theorem changes_minimal (comparison : Comparison) {desired existing : List Record}
    {changes : Changeset} (compared : comparison.changes desired existing = .ok changes) :
    (∀ actions final, Action.Lead (comparison.participating desired existing) actions final →
        comparison.Meets desired existing final → changes.changeCount ≤ actions.length) ∧
      ∃ final, Action.Lead (comparison.participating desired existing)
          ((Correction.sequence changes).map (·.action)) final ∧
        comparison.Meets desired existing final ∧
        (Correction.sequence changes).length = changes.changeCount := by
  refine ⟨fun actions final lead meets => ?_, _, lead_sequence compared,
    ⟨fun _ => served_by_sequence compared, fun _ => spared_by_sequence compared⟩, ?_⟩
  · -- The changed keys are different, and each of them takes a step.
    have once := (nodup_changedKeys compared).map fun _ _ => Option.some.inj
    have covered : changes.changedKeys.map some ⊆ actions.map Action.key? := by
      intro key member
      obtain ⟨key, changed, rfl⟩ := List.mem_map.1 member
      exact exists_step_of_changed compared lead meets changed
    have bound := (List.subperm_of_subset once covered).length_le
    rwa [List.length_map, List.length_map, Changeset.length_changedKeys] at bound
  · have sizes := (Changeset.keys_sequence_perm changes).length_eq
    rwa [List.length_map, List.length_map, List.length_map,
      Changeset.length_changedKeys] at sizes

/-- A creation, a deletion and a modification: there is no way with fewer than three steps. -/
theorem changes_minimal_of_mixed_zone :
    let comparison : Comparison := ⟨{ ignoreLabels := ["vpn"] }, .exact, fun _ => ∅⟩
    let desired : List Record :=
      [.ofPayload "api" (.txt ["new"]), .ofPayload "mail" (.txt ["kept"]),
        .ofPayload "www" (.cname "new.example.net.")]
    let existing : List Record :=
      [.ofPayload "@" (.ns "ns.example.net."), .ofPayload "mail" (.txt ["kept"]),
        .ofPayload "old" (.txt ["gone"]), .ofPayload "vpn" (.txt ["theirs"]),
        .ofPayload "www" (.cname "old.example.net.")]
    ∃ changes, comparison.changes desired existing = .ok changes ∧
      (∀ actions final, Action.Lead (comparison.participating desired existing) actions final →
        comparison.Meets desired existing final → 3 ≤ actions.length) ∧
      ∃ final, Action.Lead (comparison.participating desired existing)
          ((Correction.sequence changes).map (·.action)) final ∧
        comparison.Meets desired existing final ∧ (Correction.sequence changes).length = 3 := by
  intro comparison desired existing
  have admitted : comparison.Admits desired existing :=
    ⟨by decide, by decide, by decide, by decide +kernel, by decide +kernel⟩
  have compared := changes_eq_ok_iff.2 ⟨admitted, rfl⟩
  have three : (comparison.classify (correlations desired
      (comparison.participating desired existing))).changeCount = 3 := by decide +kernel
  have minimal := changes_minimal comparison compared
  rw [three] at minimal
  exact ⟨_, compared, minimal⟩

end Comparison

end DnsReconcile
