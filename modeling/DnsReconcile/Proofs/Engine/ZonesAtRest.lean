/-
# Zones at rest

A zone is at rest if planning it succeeds and asks for no change of its records. Whether
it is can be read off the stored records, one by one and two by two, so neither their
order nor their identifiers have any influence on it.
-/

import DnsReconcile.Proofs.Changeset.Emptiness
import DnsReconcile.Proofs.Engine.StorePlans
import DnsReconcile.Proofs.Zone.RecordSets

namespace DnsReconcile

/-- The record without its reference to the provider's copy. -/
def Record.bare (record : Record) : Record :=
  { record with ref := none }

namespace Store

open Comparison

variable {matcher : LabelMatcher} {zone : Zone} {store after : Store}
variable {wanted existing stored : List Record} {changes : Changeset}

/-- Whether a canonical record takes part when a zone is compared with its desired
records. -/
def TakesPart (zone : Zone) (wanted : List Record) (record : Record) : Prop :=
  participates (zone.managesApexNs wanted) record = true

/-- Two records can both be stored: their canonical forms can be in one zone, and a
comparison can tell them apart. -/
structure Beside (zone : Zone) (wanted : List Record) (first second : Record) : Prop where
  together : ∀ form form', (Origin.ofZone zone).record first = .ok form →
    (Origin.ofZone zone).record second = .ok form' → form.Compatible form'
  apart : ∀ form form', (Origin.ofZone zone).record first = .ok form →
    (Origin.ofZone zone).record second = .ok form' →
      TakesPart zone wanted form → TakesPart zone wanted form' → form.key ≠ form'.key

theorem Beside.symm {first second : Record} (beside : Beside zone wanted first second) :
    Beside zone wanted second first where
  together form form' own own' := (beside.together form' form own' own).symm
  apart form form' own own' part part' same :=
    beside.apart form' form own' own part' part same.symm

/-- Stored records of a zone at rest. -/
structure AtRest (matcher : LabelMatcher) (zone : Zone) (wanted stored : List Record) : Prop where
  forms : ∀ record ∈ stored, ∃ form, (Origin.ofZone zone).record record = .ok form
  beside : stored.Pairwise (Beside zone wanted)
  found : ∀ desired ∈ wanted, ∃ record ∈ stored, ∃ form,
    (Origin.ofZone zone).record record = .ok form ∧ TakesPart zone wanted form ∧
      form.key = desired.key ∧ (comparison matcher zone wanted).differs form desired = false
  spared : ∀ record ∈ stored, ∀ form, (Origin.ofZone zone).record record = .ok form →
    TakesPart zone wanted form → form.key ∉ wanted.map Record.key →
      (comparison matcher zone wanted).protects form = true

/-! ## Planning a zone at rest -/

theorem mem_participating_iff {record : Record} :
    record ∈ (comparison matcher zone wanted).participating wanted existing ↔
      record ∈ existing ∧ TakesPart zone wanted record :=
  List.mem_filter

/-- Records that can all be there have a canonical form, and it can be compared. -/
theorem beside_iff :
    ((∀ record ∈ stored, ∃ form, (Origin.ofZone zone).record record = .ok form) ∧
      stored.Pairwise (Beside zone wanted)) ↔
      ∃ existing, RecordSet.normalize (Origin.ofZone zone) stored = .ok existing ∧
        (((comparison matcher zone wanted).participating wanted existing).map
          Record.key).Nodup := by
  have apart {existing : List Record}
      (listed : RecordSet.normalize (Origin.ofZone zone) stored = .ok existing) :
      (((comparison matcher zone wanted).participating wanted existing).map Record.key).Nodup ↔
        stored.Pairwise fun first second => ∀ form form',
          (Origin.ofZone zone).record first = .ok form →
            (Origin.ofZone zone).record second = .ok form' →
              TakesPart zone wanted form → TakesPart zone wanted form' → form.key ≠ form'.key := by
    simp only [participating]
    rw [List.Nodup, List.pairwise_map, List.pairwise_filter]
    apply RecordSet.pairwise_normalize_iff listed
    intro first second apart part part' same
    exact apart part' part same.symm
  apply Iff.intro
  · rintro ⟨forms, beside⟩
    obtain ⟨existing, listed⟩ :=
      RecordSet.exists_normalize_iff.2 ⟨forms, beside.imp Beside.together⟩
    exact ⟨existing, listed, (apart listed).2 (beside.imp Beside.apart)⟩
  · rintro ⟨existing, listed, distinct⟩
    obtain ⟨forms, together⟩ := RecordSet.exists_normalize_iff.1 ⟨existing, listed⟩
    refine ⟨forms, (together.and ((apart listed).1 distinct)).imp ?_⟩
    rintro first second ⟨both, keys⟩
    exact ⟨both, keys⟩

/-- A zone that could be planned once and whose stored records are others now can be
planned again without any change if it is at rest, and only then. -/
theorem Planning.atRest_iff (planning : Planning matcher zone store wanted existing changes) :
    (∃ existing changes, Planning matcher zone after wanted existing changes ∧
        changes.isEmpty = true) ↔
      AtRest matcher zone wanted (after.records zone.name) := by
  obtain ⟨admitted, -⟩ := changes_eq_ok_iff.1 planning.compared
  apply Iff.intro
  · rintro ⟨existing', changes', again, empty⟩
    have settled := (isEmpty_iff_settled again.compared).1 empty
    have distinct := (changes_eq_ok_iff.1 again.compared).1.existing_distinct
    obtain ⟨forms, beside⟩ := beside_iff.2 ⟨existing', again.stored_forms, distinct⟩
    refine ⟨forms, beside, ?_, ?_⟩
    · intro desired member
      obtain ⟨form, present, same, agree⟩ := settled.found desired member
      obtain ⟨listed, part⟩ := mem_participating_iff.1 present
      obtain ⟨record, inside, own⟩ := (RecordSet.mem_normalize_iff again.stored_forms).1 listed
      exact ⟨record, inside, form, own, part, same, agree⟩
    · intro record inside form own part unwanted
      have listed := (RecordSet.mem_normalize_iff again.stored_forms).2 ⟨record, inside, own⟩
      exact settled.spared form (mem_participating_iff.2 ⟨listed, part⟩) unwanted
  · intro rest
    obtain ⟨existing', listed, distinct⟩ := beside_iff.1 ⟨rest.forms, rest.beside⟩
    have member {form : Record} :
        form ∈ (comparison matcher zone wanted).participating wanted existing' ↔
          (∃ record ∈ after.records zone.name, (Origin.ofZone zone).record record = .ok form) ∧
            TakesPart zone wanted form := by
      rw [mem_participating_iff, RecordSet.mem_normalize_iff listed]
    have admitted' : (comparison matcher zone wanted).Admits wanted existing' := by
      refine ⟨admitted.permitted, admitted.desired_fit, ?_, admitted.desired_distinct, distinct⟩
      intro form present
      obtain ⟨record, -, own⟩ := (RecordSet.mem_normalize_iff listed).1 present
      exact Origin.fits_of_record own
    have compared := changes_eq_ok_iff.2 ⟨admitted', rfl⟩
    refine ⟨existing', _, ⟨planning.desired_forms, planning.valid, planning.audited, listed,
      compared⟩, (isEmpty_iff_settled compared).2 ⟨?_, ?_⟩⟩
    · intro desired wish
      obtain ⟨record, inside, form, own, part, same, agree⟩ := rest.found desired wish
      exact ⟨form, member.2 ⟨⟨record, inside, own⟩, part⟩, same, agree⟩
    · intro form present unwanted
      obtain ⟨⟨record, inside, own⟩, part⟩ := member.1 present
      exact rest.spared record inside form own part unwanted

/-! ## Identifiers -/

/-- Bare records decide what canonical forms look like. -/
theorem record_of_bare_eq {first second form : Record} (same : first.bare = second.bare)
    (own : (Origin.ofZone zone).record first = .ok form) :
    (Origin.ofZone zone).record second = .ok { form with ref := second.ref } := by
  have other : second = { first with ref := second.ref } := by
    have relabelled := congrArg (fun record : Record => { record with ref := second.ref }) same
    exact relabelled.symm
  rw [other]
  exact Origin.record_of_ref own second.ref

theorem Beside.of_bare_eq {first second first' second' : Record}
    (beside : Beside zone wanted first second) (same : first'.bare = first.bare)
    (same' : second'.bare = second.bare) : Beside zone wanted first' second' where
  together form form' own own' := by
    have bare := beside.together _ _ (record_of_bare_eq same own) (record_of_bare_eq same' own')
    exact bare
  apart form form' own own' := by
    have bare := beside.apart _ _ (record_of_bare_eq same own) (record_of_bare_eq same' own')
    exact bare

/-- Neither the order of stored records nor their identifiers matter. -/
theorem AtRest.of_perm {others : List Record} (rest : AtRest matcher zone wanted stored)
    (same : (others.map Record.bare).Perm (stored.map Record.bare)) :
    AtRest matcher zone wanted others := by
  have counterpart : ∀ record ∈ others, ∃ other ∈ stored, other.bare = record.bare :=
    fun record member => List.mem_map.1 (same.subset (List.mem_map_of_mem member))
  have counterpart' : ∀ record ∈ stored, ∃ other ∈ others, other.bare = record.bare :=
    fun record member => List.mem_map.1 (same.symm.subset (List.mem_map_of_mem member))
  refine ⟨?_, ?_, ?_, ?_⟩
  · intro record member
    obtain ⟨other, member', equal⟩ := counterpart record member
    obtain ⟨form, own⟩ := rest.forms other member'
    exact ⟨_, record_of_bare_eq equal own⟩
  · have bare : (stored.map Record.bare).Pairwise (Beside zone wanted) :=
      List.pairwise_map.2 (rest.beside.imp fun beside => beside.of_bare_eq rfl rfl)
    rw [← List.Perm.pairwise_iff Beside.symm same] at bare
    exact (List.pairwise_map.1 bare).imp fun beside => beside.of_bare_eq rfl rfl
  · intro desired wish
    obtain ⟨record, member, form, own, part, agree⟩ := rest.found desired wish
    obtain ⟨other, member', equal⟩ := counterpart' record member
    exact ⟨other, member', _, record_of_bare_eq equal.symm own, part, agree⟩
  · intro record member form own part unwanted
    obtain ⟨other, member', equal⟩ := counterpart record member
    have bare := rest.spared other member' _ (record_of_bare_eq equal.symm own)
    exact bare part unwanted

end Store

end DnsReconcile
