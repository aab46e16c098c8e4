/-
# Stopping half-way

The corrections of a changeset may be stopped anywhere. If a zone is managed as a whole, no
label is ever left in a state that a zone cannot have: as long as records are deleted, those
that are there were there before; after that, each of them is desired or stands in the place
of one that is. Both are said by keys, which is enough, as keys tell what may share a label.
-/

import DnsReconcile.Proofs.Changeset.Accounting
import DnsReconcile.Proofs.Changeset.CarryingOut
import DnsReconcile.Proofs.Zone.RecordSets
import Mathlib.Data.List.Perm.Subperm

namespace DnsReconcile

variable {records : List Record}

/-! ## Keys that go together -/

/-- Records with some of the keys of records that go together go together as well. -/
theorem pairwise_compatible_of_subperm {others : List Record}
    (part : (records.map Record.key).Subperm (others.map Record.key))
    (together : others.Pairwise Record.Compatible) : records.Pairwise Record.Compatible := by
  have by_keys (list : List Record) :
      (list.map Record.key).Pairwise RecordKey.Compatible ↔ list.Pairwise Record.Compatible :=
    List.pairwise_map
  obtain ⟨chosen, same, part⟩ := part
  rw [← by_keys, ← List.Perm.pairwise_iff RecordKey.Compatible.symm same]
  exact ((by_keys others).2 together).sublist part

namespace Comparison

/-! ## Zones that are managed as a whole -/

variable {comparison : Comparison} {desired existing : List Record} {changes : Changeset}

/-- Everything in the zone is compared, and what nobody desires is deleted. -/
structure CoversZone (comparison : Comparison) (desired existing : List Record) : Prop where
  purges : comparison.zone.purge = true
  labels : comparison.zone.ignoreLabels = []
  targets : comparison.zone.ignoreTargets = []
  /-- The name servers of the zone itself are managed, or there are none. -/
  apex : comparison.zone.managesApexNs desired = true ∨
    ∀ record ∈ existing, ¬ record.IsApexNs

variable (whole : comparison.CoversZone desired existing)
include whole

theorem participating_of_coversZone : comparison.participating desired existing = existing := by
  apply List.filter_eq_self.2
  intro record member
  exact participates_iff.2 (whole.apex.imp_right fun absent => absent record member)

theorem protects_of_coversZone (record : Record) : comparison.protects record = false := by
  rw [← Bool.not_eq_true, protects_iff, Protected, whole.purges, whole.labels, whole.targets]
  simp

variable (compared : comparison.changes desired existing = .ok changes)
include compared

theorem nodup_keys_of_coversZone : (existing.map Record.key).Nodup := by
  have distinct := (changes_eq_ok_iff.1 compared).1.existing_distinct
  rw [participating_of_coversZone whole] at distinct
  exact distinct

/-- Once all deletions are done, what is left is desired. -/
theorem mem_keys_diff_delete_iff {key : RecordKey} :
    key ∈ (existing.map Record.key).diff (changes.delete.map fun change => change.record.key) ↔
      key ∈ existing.map Record.key ∧ key ∈ desired.map Record.key := by
  rw [(nodup_keys_of_coversZone whole compared).mem_sdiff_iff, and_congr_right_iff]
  intro present
  apply Iff.intro
  · intro stays
    by_contra unwanted
    obtain ⟨record, member, rfl⟩ := List.mem_map.1 present
    rw [← participating_of_coversZone whole] at member
    have deleted := (mem_deleted_iff compared).2
      ⟨member, unwanted, protects_of_coversZone whole record⟩
    obtain ⟨change, asked, rfl⟩ := List.mem_map.1 deleted
    exact stays (List.mem_map_of_mem asked)
  · intro wanted deleted
    obtain ⟨change, asked, rfl⟩ := List.mem_map.1 deleted
    exact ((mem_delete_iff compared).1 asked).1.2 wanted

/-- What is created is desired and was not there. -/
theorem mem_keys_create {key : RecordKey}
    (created : key ∈ changes.create.map fun change => change.record.key) :
    key ∈ desired.map Record.key ∧ key ∉ existing.map Record.key := by
  obtain ⟨change, asked, rfl⟩ := List.mem_map.1 created
  obtain ⟨⟨wanted, absent⟩, -⟩ := (mem_create_iff compared).1 asked
  rw [participating_of_coversZone whole] at absent
  exact ⟨List.mem_map_of_mem wanted, absent⟩

/-- At any time the keys in the zone are some of those that were there, or some of those that
are desired. -/
theorem keys_carryOut_subperm {done : List Correction}
    (before : done <+: Correction.sequence changes) :
    ((Correction.carryOut done existing).map Record.key).Subperm (existing.map Record.key) ∨
      ((Correction.carryOut done existing).map Record.key).Subperm (desired.map Record.key) := by
  have deletions := Correction.typeFirst_perm .ds changes.delete
  have creations := (Correction.typeFirst_perm .ns changes.create).map fun change =>
    change.record.key
  rw [List.prefix_iff_eq_take.1 before,
    Correction.keys_carryOut_take fun _ => key_eq_of_modify compared]
  by_cases early : done.length ≤ changes.delete.length
  · -- Nothing has been created yet.
    rw [Nat.sub_eq_zero_of_le early, List.take_zero, List.map_nil, List.append_nil]
    exact Or.inl (List.diff_sublist _ _).subperm
  · -- Nothing is left to delete.
    rw [List.take_of_length_le (by rw [deletions.length_eq]; omega),
      (deletions.map _).diff_left]
    have part := (List.take_sublist (done.length - changes.delete.length)
      (Correction.typeFirst .ns changes.create)).map fun change => change.record.key
    have left_once : ((existing.map Record.key).diff
        (changes.delete.map fun change => change.record.key)).Nodup :=
      (nodup_keys_of_coversZone whole compared).sublist (List.diff_sublist _ _)
    have created_once := (creations.nodup_iff.2 (create_ordered compared).nodup_map).sublist part
    have created {key : RecordKey} (member : key ∈ ((Correction.typeFirst .ns changes.create).take
        (done.length - changes.delete.length)).map fun change => change.record.key) :=
      mem_keys_create whole compared (creations.subset (part.subset member))
    apply Or.inr
    apply List.subperm_of_subset
    · apply List.nodup_append.2 ⟨left_once, created_once, ?_⟩
      intro key left other added same
      have present := ((mem_keys_diff_delete_iff whole compared).1 left).1
      exact (created added).2 (same ▸ present)
    · intro key member
      cases List.mem_append.1 member with
      | inl left =>
          exact ((mem_keys_diff_delete_iff whole compared).1 left).2
      | inr added =>
          exact (created added).1

/-- The corrections of a zone that is managed as a whole may be stopped anywhere: the records
that are then in the zone pass the check for their labels, any two of them go together. -/
theorem check_interrupted_carryOut {origin origin' : Origin} {authored observed : List Record}
    (wanted : RecordSet.normalize origin authored = .ok desired)
    (found : RecordSet.normalize origin' observed = .ok existing) :
    ∀ done, done <+: Correction.sequence changes →
      RecordSet.check (RecordSet.sorted (Correction.carryOut done existing)) = .ok () ∧
        (Correction.carryOut done existing).Pairwise Record.Compatible := by
  intro done before
  rw [RecordSet.check_sorted_eq_ok_iff, and_self]
  cases keys_carryOut_subperm whole compared before with
  | inl old =>
      exact pairwise_compatible_of_subperm old (RecordSet.pairwise_of_normalize found)
  | inr new =>
      exact pairwise_compatible_of_subperm new (RecordSet.pairwise_of_normalize wanted)

omit whole compared in
/-- A CNAME and an address change places. The zone is sound at any time, while the last of the
corrections cannot come first. -/
theorem check_interrupted_carryOut_of_exchange :
    let zone : Zone := { name := "example.com", manageApexNs := true }
    let comparison : Comparison := ⟨zone, .exact, fun _ => ∅⟩
    let origin := Origin.ofZone zone
    let address : Payload := .a ⟨192, 0, 2, 1⟩
    let authored : List Record :=
      [.ofPayload "api" (.cname "new.example.net."), .ofPayload "www" address]
    let observed : List Record :=
      [.ofPayload "api" address, .ofPayload "www" (.cname "old.example.net.")]
    let sound (records : List Record) := RecordSet.check (RecordSet.sorted records) = .ok ()
    ∃ desired existing changes, RecordSet.normalize origin authored = .ok desired ∧
      RecordSet.normalize origin observed = .ok existing ∧
      comparison.changes desired existing = .ok changes ∧
      (Correction.sequence changes).length = 4 ∧
      (∀ count, sound (Correction.carryOut ((Correction.sequence changes).take count) existing)) ∧
      ¬ sound (Correction.carryOut ((Correction.sequence changes).drop 3) existing) := by
  intro zone comparison origin address authored observed sound
  let computed : Except Error (List Record × Changeset) := do
    let desired ← RecordSet.normalize origin authored
    let existing ← RecordSet.normalize origin observed
    return (existing, ← comparison.changes desired existing)
  obtain ⟨⟨_, _⟩, result, seen⟩ := exists_eq_ok_of_map
    (show computed.toOption.map (fun (existing, changes) =>
        ((Correction.sequence changes).length,
          (RecordSet.check (RecordSet.sorted (Correction.carryOut
            ((Correction.sequence changes).drop 3) existing))).isOk)) =
      some (4, false) by decide +kernel)
  simp only [computed, bind_eq_ok_iff, pure_eq_ok_iff, Prod.mk.injEq] at result
  obtain ⟨desired, wanted, existing, found, changes, compared, rfl, rfl⟩ := result
  obtain ⟨four, broken⟩ := Prod.mk.inj seen
  have whole : comparison.CoversZone desired existing := ⟨rfl, rfl, rfl, Or.inl rfl⟩
  refine ⟨desired, existing, changes, wanted, found, compared, four, ?_, ?_⟩
  · intro count
    exact (check_interrupted_carryOut whole compared wanted found _ (List.take_prefix _ _)).1
  · intro passed
    have passed : RecordSet.check _ = .ok () := passed
    rw [passed] at broken
    exact Bool.noConfusion broken

end Comparison

end DnsReconcile
