/-
# The phases of a changeset

A changeset is carried out in five phases, and within a phase in its own order: nothing is
lost, doubled or moved past its neighbours. The order of phases keeps delegations and their
signatures together: signatures are gone before a delegation is taken down, and a delegation
is back before its signatures are. The check for this remembers labels as it goes; it comes
to a condition on any two corrections.

All this holds of loose changesets too, if their entries have the records that their class asks
for, with one exception. A deletion is put in its phase by the record it goes by, which is the
desired one if it has any, while the observed record is what it deletes. So either both or
neither of the two must be a signature. A single entry of which this is not true can spoil the
order, and nothing else can.
-/

import DnsReconcile.Proofs.Correction.LooseEntries

namespace DnsReconcile.Correction

variable {changes : Changeset} {loose : LooseChangeset} {corrections : List Correction}
variable {removed added : List String} {type : RecordType} {entries : List LoneChange}

/-! ## Phases -/

/-- The corrections of a changeset are one for each entry that asks for a change. -/
theorem mem_sequence_iff {changes : Changeset} {correction : Correction} :
    correction ∈ sequence changes ↔
      (∃ change ∈ changes.delete, ofDelete change = correction) ∨
        (∃ change ∈ changes.create, ofCreate change = correction) ∨
          ∃ pair ∈ changes.modify, ofModify pair = correction := by
  rw [(sequence_perm changes).mem_iff]
  simp only [ofChangeset, List.mem_append, List.mem_map, or_assoc]

/-- The corrections that delete a record are those for the deletions of the changeset. -/
theorem exists_delete_iff {changes : Changeset} {record : Record} :
    (∃ correction ∈ sequence changes, correction.action = .delete record) ↔
      record ∈ changes.delete.map (·.record) := by
  apply Iff.intro
  · rintro ⟨correction, member, action⟩
    rcases mem_sequence_iff.1 member with
      ⟨change, deleted, rfl⟩ | ⟨change, created, rfl⟩ | ⟨pair, modified, rfl⟩
    · exact List.mem_map.2 ⟨change, deleted, Action.delete.inj action⟩
    · cases action
    · cases action
  · intro deleted
    obtain ⟨change, member, rfl⟩ := List.mem_map.1 deleted
    exact ⟨_, mem_sequence_iff.2 (Or.inl ⟨change, member, rfl⟩), rfl⟩

/-- The correction deletes a record of a type at a label. -/
def Deletes (type : RecordType) (label : String) (correction : Correction) : Prop :=
  ∃ record, correction.action = .delete record ∧ record.type = type ∧ record.label = label

end DnsReconcile.Correction
