/-
# Changesets carried out in a store

The corrections of a changeset, one after another, on a store whose records they are
about. Deletions go first, so the positions of all later records shift; the identifiers
do not. In the end each stored record has met its fate, and the created ones follow.
-/

import DnsReconcile.Proofs.Changeset.Fate
import DnsReconcile.Proofs.Correction.Phases
import DnsReconcile.Proofs.Provider.StoreWrites

namespace DnsReconcile

namespace Correction

/-- The records that corrections create, in the order of the corrections. -/
def created (corrections : List Correction) : List Record :=
  corrections.filterMap fun correction =>
    match correction.action with
    | .create record => some record
    | _ => none

/-- A changeset is carried out in three series. -/
theorem sequence_actions (changes : Changeset) :
    (sequence changes).map (·.action) =
      ((typeFirst .ds changes.delete).map (·.record)).map Action.delete ++
        (((typeFirst .ns changes.create).map (·.record)).map Action.create ++
          changes.modify.map fun pair => Action.modify pair.existing pair.desired) := by
  rw [sequence_eq, List.map_append, List.map_append, List.append_assoc]
  simp only [List.map_map]
  rfl

theorem created_sequence (changes : Changeset) :
    created (sequence changes) = (typeFirst .ns changes.create).map (·.record) := by
  have none_deleted (list : List LoneChange) : created (list.map ofDelete) = [] := by
    simp [created, ofDelete]
  have all_created (list : List LoneChange) :
      created (list.map ofCreate) = list.map (·.record) := by
    simp only [created]
    rw [List.filterMap_map]
    exact List.filterMap_eq_map' ▸ rfl
  have none_modified (list : List PairedChange) : created (list.map ofModify) = [] := by
    simp [created, ofModify]
  have append (first second : List Correction) :
      created (first ++ second) = created first ++ created second := List.filterMap_append
  rw [sequence_eq, append, append, none_deleted, all_created, none_modified, List.append_nil,
    List.nil_append]

end Correction

namespace Store

variable {store before after : Store} {zone : String} {changes : Changeset}

/-- What becomes of a stored record when a changeset is carried out: it is gone if a
deletion means it, and the desired record stands in its place, under the old identifier,
if a modification does. -/
def settled (changes : Changeset) (stored : Record) : Option Record :=
  (changes.fate isMeant stored).map fun record => { record with ref := stored.ref }

theorem settled_eq (changes : Changeset) (stored : Record) :
    settled changes stored =
      if changes.delete.any fun change => isMeant change.record stored then none
      else some (revise changes.modify stored) := by
  simp only [settled, Changeset.fate, revise]
  split
  · rfl
  · cases changes.modify.find? fun pair => isMeant pair.existing stored <;> rfl

/-- The observed records that a changeset wants removed or replaced. -/
def targets (changes : Changeset) : List Record :=
  changes.delete.map (·.record) ++ changes.modify.map (·.existing)

theorem deleted_mem_targets {change : LoneChange} (asked : change ∈ changes.delete) :
    change.record ∈ targets changes :=
  List.mem_append_left _ (List.mem_map_of_mem asked)

theorem modified_mem_targets {pair : PairedChange} (asked : pair ∈ changes.modify) :
    pair.existing ∈ targets changes :=
  List.mem_append_right _ (List.mem_map_of_mem asked)

/-- The corrections of a changeset whose targets are different stored records all
succeed. Each stored record meets its fate where it is, and the created records are
appended under the identifiers that come next. -/
theorem writeAll_sequence (numbered : store.Numbered)
    (known : ∀ record ∈ targets changes, record.id? ∈ store.ids zone)
    (once : ((targets changes).map Record.id?).Nodup) :
    ∃ after, store.writeAll zone ((Correction.sequence changes).map (·.action)) = .ok after ∧
      Rewrites zone
        ((store.records zone).filterMap (settled changes) ++
          stamped store.issued (Correction.created (Correction.sequence changes)))
        (Correction.created (Correction.sequence changes)).length store after := by
  rw [targets, List.map_append, List.nodup_append] at once
  obtain ⟨deleted_once, modified_once, apart⟩ := once
  have removals := (Correction.typeFirst_perm .ds changes.delete).map (·.record)
  obtain ⟨first, deletions, one⟩ := writeAll_delete numbered
    (fun record member => known record (List.mem_append_left _ (removals.subset member)))
    ((removals.map Record.id?).nodup_iff.2 deleted_once)
  obtain ⟨second, creations, two⟩ := writeAll_create first zone
    ((Correction.typeFirst .ns changes.create).map (·.record))
  have numbered' : second.Numbered := (numbered.writeAll deletions).writeAll creations
  have known' : ∀ pair ∈ changes.modify, pair.existing.id? ∈ second.ids zone := by
    intro pair member
    have target := List.mem_map_of_mem (f := fun pair : PairedChange => pair.existing) member
    obtain ⟨stored, present, same⟩ := List.mem_map.1 (known _ (List.mem_append_right _ target))
    refine List.mem_map.2 ⟨stored, ?_, same⟩
    rw [two.here, one.here]
    refine List.mem_append_left _ (List.mem_filter.2 ⟨present, ?_⟩)
    rw [removals.any_eq, Bool.not_eq_true', List.any_eq_false]
    intro record removed meant
    obtain ⟨id, named⟩ := numbered.exists_id (known record (List.mem_append_left _ removed))
    apply apart _ (List.mem_map_of_mem removed) _ (List.mem_map_of_mem target)
    rw [named, ← (isMeant_iff named).1 meant, same]
  rw [List.map_map] at modified_once
  obtain ⟨after, modifications, three⟩ := writeAll_modify numbered' known' modified_once
  refine ⟨after, ?_, ?_⟩
  · rw [Correction.sequence_actions]
    exact writeAll_append.2
      ⟨first, deletions, writeAll_append.2 ⟨second, creations, modifications⟩⟩
  · have kept : ((store.records zone).filter fun stored =>
          !((Correction.typeFirst .ds changes.delete).map (·.record)).any (isMeant · stored)).map
            (revise changes.modify) = (store.records zone).filterMap (settled changes) := by
      rw [← List.filterMap_eq_map, List.filterMap_filter]
      apply List.filterMap_congr
      intro stored _
      rw [removals.any_eq, List.any_map, settled_eq]
      show (if (!changes.delete.any fun change => isMeant change.record stored) = true
        then some (revise changes.modify stored) else none) = _
      cases changes.delete.any fun change => isMeant change.record stored <;> rfl
    -- The created records are too new to be meant by a modification.
    have new : (stamped store.issued (Correction.created (Correction.sequence changes))).map
          (revise changes.modify) =
        stamped store.issued (Correction.created (Correction.sequence changes)) := by
      refine (List.map_congr_left fun record member => ?_).trans (List.map_id _)
      refine revise_eq_self fun pair asked => Bool.eq_false_iff.2 fun meant => ?_
      have target := List.mem_map_of_mem (f := fun pair : PairedChange => pair.existing) asked
      obtain ⟨n, bound, named⟩ :=
        numbered.issued zone _ (known _ (List.mem_append_right _ target))
      obtain ⟨m, behind, -, named'⟩ := id?_of_mem_stamped member
      have same := named'.symm.trans ((isMeant_iff named).1 meant)
      have number := identifier_injective (Option.some.inj same)
      omega
    have all := (one.trans two).trans three
    rw [two.here, one.here, one.issued, Nat.add_zero, Nat.add_zero, Nat.zero_add,
      ← Correction.created_sequence, List.map_append, kept, new] at all
    exact all

end Store

end DnsReconcile
