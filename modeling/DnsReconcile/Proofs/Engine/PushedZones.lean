/-
# Zones that have been pushed

Whether a zone is at rest after a push. It is if every record that was written is its own
canonical form and no CNAME came to stand beside a record that the push has left alone.
Both can fail: canonical forms of labels are not always canonical, and nothing compares
desired records with protected ones before they are written.
-/

import DnsReconcile.Proofs.Engine.PushedRecords
import DnsReconcile.Proofs.Zone.CanonicalForms
import Mathlib.Data.Set.Finite.Lemmas

namespace DnsReconcile

open Comparison

namespace Store

variable {matcher : LabelMatcher} {zone : Zone} {store after : Store}
variable {wanted existing : List Record} {changes : Changeset}

/-- What has to hold of a plan, and of the stored records it was made for, so that a push
leaves nothing to do. -/
structure Lasting (zone : Zone) (changes : Changeset) (stored : List Record) : Prop where
  /-- The records that are written are their own canonical forms. -/
  canonical : ∀ record ∈ changes.written, (Origin.ofZone zone).record record = .ok record
  /-- No CNAME is written beside a record that stays, and no record beside a CNAME that
  stays. -/
  alone : ∀ record ∈ changes.written, ∀ kept ∈ stored, Untouched changes kept →
    ∀ form, (Origin.ofZone zone).record kept = .ok form → form.label = record.label →
      form.type.isPseudo = false → record.type.isPseudo = false →
        form.type ≠ .cname ∧ record.type ≠ .cname

theorem Lasting.eq_of_written {stored : List Record} {record form : Record}
    (lasting : Lasting zone changes stored) (written : record ∈ changes.written)
    (own : (Origin.ofZone zone).record record = .ok form) : record = form :=
  Except.ok.inj ((lasting.canonical record written).symm.trans own)

/-! ## What a plan writes and what it leaves alone -/

section Planned

variable (planning : Planning matcher zone store wanted existing changes)
include planning

/-- A record is written if it is desired and nothing that agrees with it is there. -/
theorem Planning.mem_written_iff {record : Record} :
    record ∈ changes.written ↔
      record ∈ wanted ∧ ∀ other ∈ existing, TakesPart zone wanted other →
        other.key = record.key →
          (comparison matcher zone wanted).differs other record = true := by
  have distinct := (changes_eq_ok_iff.1 planning.compared).1.existing_distinct
  rw [Changeset.written, List.mem_append, mem_created_iff planning.compared]
  apply Iff.intro
  · rintro (⟨member, absent⟩ | replaced)
    · refine ⟨member, fun other listed part same => ?_⟩
      exact absurd (List.mem_map.2 ⟨other, mem_participating_iff.2 ⟨listed, part⟩, same⟩) absent
    · obtain ⟨pair, asked, rfl⟩ := List.mem_map.1 replaced
      obtain ⟨⟨present, member, same⟩, differ, -⟩ := (mem_modify_iff planning.compared).1 asked
      refine ⟨member, fun other listed part same' => ?_⟩
      have equal := List.inj_on_of_nodup_map distinct
        (mem_participating_iff.2 ⟨listed, part⟩) present (same'.trans same.symm)
      exact equal ▸ differ
  · rintro ⟨member, differ⟩
    by_cases known : record.key ∈
        ((comparison matcher zone wanted).participating wanted existing).map Record.key
    · obtain ⟨other, present, same⟩ := List.mem_map.1 known
      obtain ⟨listed, part⟩ := mem_participating_iff.1 present
      obtain ⟨pair, asked, -, rfl⟩ := (exists_modify_iff planning.compared).2
        ⟨⟨present, member, same⟩, differ other listed part same⟩
      exact Or.inr (List.mem_map_of_mem asked)
    · exact Or.inl ⟨member, known⟩

/-- A record is removed or replaced if it takes part and either differs from what is
desired under its key or is neither desired nor protected. -/
theorem Planning.mem_targets_iff {record : Record} :
    record ∈ targets changes ↔
      (record ∈ existing ∧ TakesPart zone wanted record) ∧
        ((∃ desired ∈ wanted, record.key = desired.key ∧
            (comparison matcher zone wanted).differs record desired = true) ∨
          record.key ∉ wanted.map Record.key ∧
            (comparison matcher zone wanted).protects record = false) := by
  rw [targets, List.mem_append, mem_deleted_iff planning.compared, mem_participating_iff]
  apply Iff.intro
  · rintro (⟨observed, unwanted, exposed⟩ | replaced)
    · exact ⟨observed, Or.inr ⟨unwanted, exposed⟩⟩
    · obtain ⟨pair, asked, rfl⟩ := List.mem_map.1 replaced
      obtain ⟨⟨present, member, same⟩, differ, -⟩ := (mem_modify_iff planning.compared).1 asked
      exact ⟨mem_participating_iff.1 present, Or.inl ⟨_, member, same, differ⟩⟩
  · rintro ⟨observed, ⟨desired, member, same, differ⟩ | ⟨unwanted, exposed⟩⟩
    · obtain ⟨pair, asked, rfl, -⟩ := (exists_modify_iff planning.compared).2
        ⟨⟨mem_participating_iff.2 observed, member, same⟩, differ⟩
      exact Or.inr (List.mem_map_of_mem asked)
    · exact Or.inl ⟨observed, unwanted, exposed⟩

/-- What is written is part of what is desired, without repetition. -/
theorem Planning.written_subperm : changes.written.Subperm wanted := by
  have once := (accounts_of_changes planning.compared).desired_once
  rw [List.append_assoc] at once
  exact (List.sublist_append_right _ _).subperm.trans once.subperm

/-- A stored record stays if nothing needs to be done about its canonical form. -/
theorem Planning.untouched_iff_of_form (numbered : store.Numbered) {stored form : Record}
    (present : stored ∈ store.records zone.name)
    (own : (Origin.ofZone zone).record stored = .ok form) :
    Untouched changes stored ↔ form ∉ targets changes := by
  apply Iff.intro
  · intro untouched member
    have meant := (isMeant_iff_eq numbered present own present).2 rfl
    exact Bool.false_ne_true ((untouched form member).symm.trans meant)
  · intro spared target member
    apply Bool.eq_false_iff.2
    intro meant
    apply spared
    obtain ⟨other, present', own'⟩ := planning.exists_stored member
    obtain rfl := (isMeant_iff_eq numbered present' own' present).1 meant
    exact Except.ok.inj (own'.symm.trans own) ▸ member

/-- Nothing that stays and takes part has the key of a record that is written. -/
theorem Planning.key_ne_of_untouched (numbered : store.Numbered) {stored form record : Record}
    (present : stored ∈ store.records zone.name) (untouched : Untouched changes stored)
    (own : (Origin.ofZone zone).record stored = .ok form) (part : TakesPart zone wanted form)
    (written : record ∈ changes.written) : form.key ≠ record.key := by
  intro same
  have listed := (RecordSet.mem_normalize_iff planning.stored_forms).2 ⟨stored, present, own⟩
  obtain ⟨member, differ⟩ := planning.mem_written_iff.1 written
  apply (planning.untouched_iff_of_form numbered present own).1 untouched
  exact planning.mem_targets_iff.2
    ⟨⟨listed, part⟩, Or.inl ⟨record, member, same, differ form listed part same⟩⟩

end Planned

/-! ## A push that lasts -/

theorem key_eq_of_single {first second : Record} (label : first.label = second.label)
    (type : first.type = second.type) (single : first.type.isMultiValue = false) :
    first.key = second.key := by
  rw [Record.key, Record.key, label, ← type, single]
  rfl

theorem takesPart_of_single {record : Record} (single : record.type.isMultiValue = false) :
    TakesPart zone wanted record := by
  apply participates_iff.2 (Or.inr ?_)
  intro apex
  rw [apex.1] at single
  exact Bool.false_ne_true single.symm

section Lasts

variable (numbered : store.Numbered)
variable (planning : Planning matcher zone store wanted existing changes)
variable (lasting : Lasting zone changes (store.records zone.name))
include numbered planning lasting

/-- A record that stays and one that is written can both be there. -/
theorem beside_of_lasting {kept record : Record} (present : kept ∈ store.records zone.name)
    (untouched : Untouched changes kept) (written : record ∈ changes.written) :
    Beside zone wanted kept record where
  together form form' own own' := by
    obtain rfl := lasting.eq_of_written written own'
    intro label plain plain'
    have alone := lasting.alone record written kept present untouched form own label plain plain'
    refine ⟨alone, fun type => ?_⟩
    by_contra single
    rw [Bool.not_eq_true] at single
    exact planning.key_ne_of_untouched numbered present untouched own (takesPart_of_single single)
      written (key_eq_of_single label type single)
  apart form form' own own' part _ := by
    obtain rfl := lasting.eq_of_written written own'
    exact planning.key_ne_of_untouched numbered present untouched own part written

theorem pairwise_of_lasting :
    (remaining changes (store.records zone.name) ++ changes.written).Pairwise
      (Beside zone wanted) := by
  obtain ⟨admitted, -⟩ := changes_eq_ok_iff.1 planning.compared
  refine List.pairwise_append.2 ⟨?_, ?_, ?_⟩
  · have stored := beside_iff.2
      ⟨existing, planning.stored_forms, admitted.existing_distinct⟩
    exact stored.2.sublist List.filter_sublist
  · have desired : wanted.Pairwise fun first second =>
        first.Compatible second ∧ first.key ≠ second.key :=
      (RecordSet.pairwise_of_normalize planning.desired_forms).and
        (List.pairwise_map.1 admitted.desired_distinct)
    obtain ⟨part, same, inside⟩ := planning.written_subperm
    have written := (List.Perm.pairwise_iff
      (fun both => ⟨both.1.symm, both.2.symm⟩) same).1 (desired.sublist inside)
    apply written.imp_of_mem
    intro first second member member' both
    constructor
    · intro form form' own own'
      rw [← lasting.eq_of_written member own, ← lasting.eq_of_written member' own']
      exact both.1
    · intro form form' own own' _ _
      rw [← lasting.eq_of_written member own, ← lasting.eq_of_written member' own']
      exact both.2
  · intro kept stays record written
    obtain ⟨present, untouched⟩ := mem_remaining_iff.1 stays
    exact beside_of_lasting numbered planning lasting present untouched written

/-- What stays and what is written is at rest. -/
theorem atRest_of_lasting :
    AtRest matcher zone wanted
      (remaining changes (store.records zone.name) ++ changes.written) := by
  obtain ⟨admitted, -⟩ := changes_eq_ok_iff.1 planning.compared
  refine ⟨?_, pairwise_of_lasting numbered planning lasting, ?_, ?_⟩
  · intro record member
    cases List.mem_append.1 member with
    | inl stays =>
        obtain ⟨form, -, own⟩ :=
          RecordSet.exists_mem_normalize planning.stored_forms (mem_remaining_iff.1 stays).1
        exact ⟨form, own⟩
    | inr written =>
        exact ⟨record, lasting.canonical record written⟩
  · intro desired member
    by_cases written : desired ∈ changes.written
    · have part : participates ((comparison matcher zone wanted).zone.managesApexNs wanted)
          desired = true := participates_of_desired member
      exact ⟨desired, List.mem_append_right _ written, desired, lasting.canonical desired written,
        part, rfl, differs_self desired⟩
    · -- Something that agrees with it was there already, so there was no reason to touch that.
      rw [planning.mem_written_iff, not_and] at written
      have agreeing := written member
      push Not at agreeing
      obtain ⟨form, listed, part, same, agree⟩ := agreeing
      have agree := Bool.eq_false_iff.2 agree
      obtain ⟨stored, present, own⟩ := (RecordSet.mem_normalize_iff planning.stored_forms).1 listed
      have untouched : Untouched changes stored := by
        rw [planning.untouched_iff_of_form numbered present own, planning.mem_targets_iff]
        rintro ⟨-, ⟨other, member', same', differ⟩ | ⟨unwanted, -⟩⟩
        · have equal :=
            eq_of_key_eq admitted.desired_distinct member' member (same'.symm.trans same)
          exact Bool.false_ne_true ((equal ▸ agree).symm.trans differ)
        · exact unwanted (same ▸ List.mem_map_of_mem member)
      have stays := mem_remaining_iff.2 ⟨present, untouched⟩
      exact ⟨stored, List.mem_append_left _ stays, form, own, part, same, agree⟩
  · intro record member form own part unwanted
    cases List.mem_append.1 member with
    | inl stays =>
        obtain ⟨present, untouched⟩ := mem_remaining_iff.1 stays
        by_contra exposed
        refine (planning.untouched_iff_of_form numbered present own).1
          untouched (planning.mem_targets_iff.2 ⟨⟨?_, part⟩, Or.inr ?_⟩)
        · exact (RecordSet.mem_normalize_iff planning.stored_forms).2 ⟨record, present, own⟩
        · exact ⟨unwanted, Bool.eq_false_iff.2 exposed⟩
    | inr written =>
        obtain rfl := lasting.eq_of_written written own
        exact absurd (List.mem_map_of_mem (planning.mem_written_iff.1 written).1) unwanted

end Lasts

section Rests

variable (numbered : store.Numbered)
variable (planning : Planning matcher zone store wanted existing changes)
variable (rest : AtRest matcher zone wanted
  (remaining changes (store.records zone.name) ++ changes.written))
include numbered planning rest

/-- A record that is written is found again as the canonical form of such a record. -/
theorem exists_written_form {record : Record} (written : record ∈ changes.written) :
    ∃ source ∈ changes.written, ∃ form, (Origin.ofZone zone).record source = .ok form ∧
      form.key = record.key := by
  have member := (planning.mem_written_iff.1 written).1
  obtain ⟨source, found, form, own, part, same, -⟩ := rest.found record member
  cases List.mem_append.1 found with
  | inl stays =>
      obtain ⟨present, untouched⟩ := mem_remaining_iff.1 stays
      exact absurd same (planning.key_ne_of_untouched numbered present
        untouched own part written)
  | inr source_written =>
      exact ⟨source, source_written, form, own, same⟩

/-- Records that are written and are at rest are their own canonical forms: one that is not
would be found as the canonical form of another one of larger size, which is not its own
canonical form either. -/
theorem canonical_of_atRest {record : Record} (written : record ∈ changes.written) :
    (Origin.ofZone zone).record record = .ok record := by
  by_contra other
  let unsettled : Set Record :=
    {record | record ∈ changes.written ∧ (Origin.ofZone zone).record record ≠ .ok record}
  have finite : unsettled.Finite := (List.finite_toSet changes.written).subset fun _ both => both.1
  obtain ⟨largest, ⟨member, moves⟩, bound⟩ :=
    Set.exists_max_image unsettled Origin.recordWeight finite ⟨record, written, other⟩
  obtain ⟨source, member', form, own, same⟩ := exists_written_form numbered planning rest member
  have distinct := (changes_eq_ok_iff.1 planning.compared).1.desired_distinct
  have wish := (planning.mem_written_iff.1 member).1
  have wish' := (planning.mem_written_iff.1 member').1
  obtain ⟨authored, -, given⟩ := (RecordSet.mem_normalize_iff planning.desired_forms).1 wish'
  cases Origin.record_again (Origin.sound_ofZone zone) given own with
  | inl stays =>
      obtain rfl := eq_of_key_eq distinct wish' wish (stays ▸ same)
      exact moves (stays ▸ own)
  | inr smaller =>
      have label : form.label = largest.label := congrArg RecordKey.label same
      have size : Origin.recordWeight form = Origin.recordWeight largest := by
        rw [Origin.recordWeight, Origin.recordWeight, label]
      have moves' : (Origin.ofZone zone).record source ≠ .ok source := fun settled =>
        Nat.lt_irrefl _ (Except.ok.inj (own.symm.trans settled) ▸ smaller)
      have small := bound source ⟨member', moves'⟩
      omega

theorem lasting_of_atRest : Lasting zone changes (store.records zone.name) where
  canonical record written := canonical_of_atRest numbered planning rest written
  alone record written kept present untouched form own label plain plain' := by
    have beside := (List.pairwise_append.1 rest.beside).2.2 kept
      (mem_remaining_iff.2 ⟨present, untouched⟩) record written
    have again := canonical_of_atRest numbered planning rest written
    exact (beside.together form record own again label plain plain').1

end Rests

end Store

end DnsReconcile
