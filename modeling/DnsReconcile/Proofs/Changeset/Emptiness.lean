/-
# When nothing needs to change

A comparison asks for nothing if the two record sets already fit: every desired record
has a counterpart that agrees with it, and whatever else takes part is protected.
-/

import DnsReconcile.Proofs.Changeset.Entries

namespace DnsReconcile.Comparison

variable {comparison : Comparison} {desired existing : List Record} {changes : Changeset}

/-- Observed records that are as they should be. -/
structure Settled (comparison : Comparison) (desired existing : List Record) : Prop where
  /-- Every desired record is there. -/
  found : ∀ wanted ∈ desired, ∃ record ∈ comparison.participating desired existing,
    record.key = wanted.key ∧ comparison.differs record wanted = false
  /-- Whatever nobody desires may stay. -/
  spared : ∀ record ∈ comparison.participating desired existing,
    record.key ∉ desired.map Record.key → comparison.protects record = true

/-- The changeset is empty for records that are as they should be, and for no others. -/
theorem isEmpty_iff_settled (compared : comparison.changes desired existing = .ok changes) :
    changes.isEmpty = true ↔ comparison.Settled desired existing := by
  simp only [Changeset.isEmpty]
  rw [Bool.and_eq_true, Bool.and_eq_true, List.isEmpty_iff, List.isEmpty_iff, List.isEmpty_iff]
  apply Iff.intro
  · rintro ⟨⟨none_created, none_deleted⟩, none_modified⟩
    constructor
    · intro wanted member
      by_cases known : wanted.key ∈ (comparison.participating desired existing).map Record.key
      · obtain ⟨record, present, same⟩ := List.mem_map.1 known
        refine ⟨record, present, same, Bool.eq_false_iff.2 fun differ => ?_⟩
        obtain ⟨pair, asked, -⟩ := (exists_modify_iff compared).2 ⟨⟨present, member, same⟩, differ⟩
        exact List.not_mem_nil (none_modified ▸ asked)
      · have asked := (mem_created_iff compared).2 ⟨member, known⟩
        rw [none_created] at asked
        exact absurd asked List.not_mem_nil
    · intro record present unwanted
      by_contra exposed
      have asked := (mem_deleted_iff compared).2 ⟨present, unwanted, Bool.eq_false_iff.2 exposed⟩
      rw [none_deleted] at asked
      exact List.not_mem_nil asked
  · intro settled
    have distinct := (changes_eq_ok_iff.1 compared).1.existing_distinct
    refine ⟨⟨?_, ?_⟩, ?_⟩
    · apply List.eq_nil_iff_forall_not_mem.2
      intro change asked
      obtain ⟨⟨member, absent⟩, -⟩ := (mem_create_iff compared).1 asked
      obtain ⟨record, present, same, -⟩ := settled.found _ member
      exact absent (List.mem_map.2 ⟨record, present, same⟩)
    · apply List.eq_nil_iff_forall_not_mem.2
      intro change asked
      obtain ⟨⟨present, unwanted⟩, exposed, -⟩ := (mem_delete_iff compared).1 asked
      exact Bool.false_ne_true (exposed.symm.trans (settled.spared _ present unwanted))
    · apply List.eq_nil_iff_forall_not_mem.2
      intro pair asked
      obtain ⟨⟨present, member, same⟩, differ, -⟩ := (mem_modify_iff compared).1 asked
      obtain ⟨record, present', same', agree⟩ := settled.found _ member
      have equal := List.inj_on_of_nodup_map distinct present' present (same'.trans same.symm)
      exact Bool.false_ne_true ((equal ▸ agree).symm.trans differ)

end DnsReconcile.Comparison
