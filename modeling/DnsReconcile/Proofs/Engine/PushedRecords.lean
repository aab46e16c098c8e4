/-
# The records of a zone after a push

What a store holds after a plan has been carried out, without regard to order and
identifiers: the stored records that the plan leaves alone, and the desired records that
it writes.
-/

import DnsReconcile.Proofs.Changeset.Resumption
import DnsReconcile.Proofs.Engine.AppliedPlans
import DnsReconcile.Proofs.Engine.ZonesAtRest

namespace DnsReconcile

/-- The desired records that a changeset writes. -/
def Changeset.written (changes : Changeset) : List Record :=
  changes.create.map (·.record) ++ changes.modify.map (·.desired)

namespace Store

variable {matcher : LabelMatcher} {zone : Zone} {store after : Store}
variable {wanted existing : List Record} {changes : Changeset} {record stored : Record}

/-- A stored record that a changeset neither removes nor replaces. -/
def Untouched (changes : Changeset) (stored : Record) : Prop :=
  ∀ target ∈ targets changes, isMeant target stored = false

instance : DecidablePred (Untouched changes) :=
  fun stored : Record =>
    inferInstanceAs (Decidable (∀ target ∈ targets changes, isMeant target stored = false))

/-- The stored records that a changeset leaves alone. -/
def remaining (changes : Changeset) (records : List Record) : List Record :=
  records.filter (Untouched changes ·)

theorem mem_remaining_iff {records : List Record} :
    stored ∈ remaining changes records ↔ stored ∈ records ∧ Untouched changes stored := by
  simp only [remaining, List.mem_filter, decide_eq_true_eq]

theorem untouched_iff :
    Untouched changes stored ↔
      (∀ change ∈ changes.delete, isMeant change.record stored = false) ∧
        ∀ pair ∈ changes.modify, isMeant pair.existing stored = false := by
  simp only [Untouched, targets]
  simp only [List.forall_mem_append, List.forall_mem_map]

theorem id?_of_settled (becomes : settled changes stored = some record) :
    record.id? = stored.id? := by
  obtain ⟨result, -, rfl⟩ := Option.map_eq_some_iff.1 becomes
  rfl

theorem stamped_bare (given : Nat) (records : List Record) :
    (stamped given records).map Record.bare = records.map Record.bare := by
  induction records generalizing given with
  | nil => rfl
  | cons record rest ih =>
      rw [stamped, List.map_cons, List.map_cons, ih]
      rfl

section Planned

variable (numbered : store.Numbered)
variable (planning : Planning matcher zone store wanted existing changes)
include numbered planning

theorem id?_of_meant {target : Record} (known : target ∈ targets changes)
    (meant : isMeant target stored = true) : stored.id? = target.id? := by
  obtain ⟨id, named⟩ := numbered.exists_id (planning.targets_known known)
  rw [named, (isMeant_iff named).1 meant]

theorem settled_eq_some_iff :
    settled changes stored = some record ↔
      (∀ change ∈ changes.delete, isMeant change.record stored = false) ∧
        ((∃ pair ∈ changes.modify, isMeant pair.existing stored = true ∧
            { pair.desired with ref := stored.ref } = record) ∨
          (∀ pair ∈ changes.modify, isMeant pair.existing stored = false) ∧ stored = record) := by
  have once := planning.targets_once numbered
  rw [targets, List.map_append, List.map_map, List.map_map, List.nodup_append] at once
  simp only [settled]
  simp only [Option.map_eq_some_iff]
  rw [exists_congr fun result => and_congr_left' (Changeset.fate_eq_some_iff ?_)]
  · apply Iff.intro
    · rintro ⟨result, ⟨undeleted, ⟨pair, asked, meant, rfl⟩ | ⟨unmodified, rfl⟩⟩, rfl⟩
      · exact ⟨undeleted, Or.inl ⟨pair, asked, meant, rfl⟩⟩
      · exact ⟨undeleted, Or.inr ⟨unmodified, rfl⟩⟩
    · rintro ⟨undeleted, ⟨pair, asked, meant, rfl⟩ | ⟨unmodified, rfl⟩⟩
      · exact ⟨_, ⟨undeleted, Or.inl ⟨pair, asked, meant, rfl⟩⟩, rfl⟩
      · exact ⟨_, ⟨undeleted, Or.inr ⟨unmodified, rfl⟩⟩, rfl⟩
  · intro pair asked other asked' meant meant'
    have own := id?_of_meant numbered planning (modified_mem_targets asked) meant
    have own' := id?_of_meant numbered planning (modified_mem_targets asked') meant'
    rw [List.inj_on_of_nodup_map once.2.1 asked asked' (own.symm.trans own')]

/-- A stored record that is replaced gives its identifier, which is also that of its
canonical form, to the desired record. All others stay or are gone. -/
theorem mem_settled_iff :
    record ∈ (store.records zone.name).filterMap (settled changes) ↔
      (record ∈ store.records zone.name ∧ Untouched changes record) ∨
        ∃ pair ∈ changes.modify, { pair.desired with ref := pair.existing.ref } = record := by
  rw [List.mem_filterMap]
  simp only [settled_eq_some_iff numbered planning, untouched_iff]
  apply Iff.intro
  · rintro ⟨stored, present, undeleted, ⟨pair, asked, meant, rfl⟩ | ⟨unmodified, rfl⟩⟩
    · obtain ⟨other, present', form⟩ := planning.exists_stored (modified_mem_targets asked)
      obtain rfl := (isMeant_iff_eq numbered present' form present).1 meant
      exact Or.inr ⟨pair, asked, by rw [Origin.ref_of_record form]⟩
    · exact Or.inl ⟨present, undeleted, unmodified⟩
  · rintro (⟨present, undeleted, unmodified⟩ | ⟨pair, asked, rfl⟩)
    · exact ⟨record, present, undeleted, Or.inr ⟨unmodified, rfl⟩⟩
    · obtain ⟨stored, present, form⟩ := planning.exists_stored (modified_mem_targets asked)
      have meant := (isMeant_iff_eq numbered present form present).2 rfl
      have own := id?_of_meant numbered planning (modified_mem_targets asked) meant
      have once := planning.targets_once numbered
      rw [targets, List.map_append, List.map_map, List.map_map, List.nodup_append] at once
      refine ⟨stored, present, ?_, Or.inl ⟨pair, asked, meant, ?_⟩⟩
      · intro change deleted
        apply Bool.eq_false_iff.2
        intro meant'
        have own' := id?_of_meant numbered planning (deleted_mem_targets deleted) meant'
        exact once.2.2 _ (List.mem_map_of_mem deleted) _ (List.mem_map_of_mem asked)
          (own'.symm.trans own)
      · rw [Origin.ref_of_record form]

/-- The stored records after modifications and deletions, in another order. -/
theorem settled_perm :
    ((store.records zone.name).filterMap (settled changes)).Perm
      (remaining changes (store.records zone.name) ++
        changes.modify.map fun pair => { pair.desired with ref := pair.existing.ref }) := by
  have once := planning.targets_once numbered
  rw [targets, List.map_append, List.nodup_append, List.map_map, List.map_map] at once
  refine (List.perm_ext_iff_of_nodup (List.Nodup.of_map Record.id? ?_)
    (List.Nodup.of_map Record.id? ?_)).2 fun record => ?_
  · exact (map_filterMap_sublist fun _ _ => id?_of_settled).nodup
      (numbered.distinct zone.name)
  · rw [List.map_append, List.map_map]
    refine List.nodup_append.2 ⟨?_, once.2.1, ?_⟩
    · exact (List.filter_sublist.map _).nodup (numbered.distinct zone.name)
    · intro first kept second replaced same
      obtain ⟨stored, inside, rfl⟩ := List.mem_map.1 kept
      obtain ⟨pair, asked, rfl⟩ := List.mem_map.1 replaced
      have spared := (mem_remaining_iff.1 inside).2 _ (modified_mem_targets asked)
      obtain ⟨id, named⟩ := numbered.exists_id (planning.targets_known (modified_mem_targets asked))
      have meant := (isMeant_iff named).2 (same.trans named)
      exact Bool.false_ne_true (spared.symm.trans meant)
  · rw [mem_settled_iff numbered planning, List.mem_append, mem_remaining_iff, List.mem_map]

/-- After a push a zone consists of what the plan has left alone and what it has written. -/
theorem CarriedOut.records_perm
    (carried_out : CarriedOut zone (store.planOf zone changes) store after) :
    ((after.records zone.name).map Record.bare).Perm
      ((remaining changes (store.records zone.name) ++ changes.written).map
        Record.bare) := by
  have stayed := (settled_perm numbered planning).map Record.bare
  have came := ((Correction.typeFirst_perm .ns changes.create).map (·.record)).map Record.bare
  have replaced : (changes.modify.map fun pair =>
        { pair.desired with ref := pair.existing.ref }).map Record.bare =
      (changes.modify.map (·.desired)).map Record.bare := by
    rw [List.map_map, List.map_map]
    rfl
  rw [List.map_append, replaced] at stayed
  rw [carried_out.records_eq, List.map_append, stamped_bare, Changeset.written, List.map_append,
    List.map_append]
  apply (stayed.append came).trans
  rw [List.append_assoc]
  exact List.Perm.append_left _ List.perm_append_comm

end Planned

end Store

end DnsReconcile
