/-
# The fate of a record

What a changeset does to one record that is there already. How a record is recognised
is left open: a comparison knows records by their keys, a store by its identifiers.
-/

import DnsReconcile.Changeset.Basic

namespace DnsReconcile.Changeset

/-- What becomes of a record when the deletions and modifications of a changeset are
carried out. `meant wanted record` says that an entry about `wanted` concerns it. -/
def fate (changes : Changeset) (meant : Record → Record → Bool) (record : Record) :
    Option Record :=
  if changes.delete.any fun change => meant change.record record then none
  else
    match changes.modify.find? fun pair => meant pair.existing record with
    | some pair => some pair.desired
    | none => some record

variable {changes : Changeset} {meant : Record → Record → Bool} {record result : Record}

/-- A record that is not deleted ends up as the desired record of the modification that
concerns it, or stays if there is none. No two modifications may contradict each other. -/
theorem fate_eq_some_iff
    (unique : ∀ pair ∈ changes.modify, ∀ other ∈ changes.modify,
      meant pair.existing record = true → meant other.existing record = true →
        pair.desired = other.desired) :
    changes.fate meant record = some result ↔
      (∀ change ∈ changes.delete, meant change.record record = false) ∧
        ((∃ pair ∈ changes.modify, meant pair.existing record = true ∧ pair.desired = result) ∨
          (∀ pair ∈ changes.modify, meant pair.existing record = false) ∧ record = result) := by
  simp only [fate]
  by_cases deleted : changes.delete.any (fun change => meant change.record record) = true
  · rw [if_pos deleted]
    obtain ⟨change, member, concerned⟩ := List.any_eq_true.1 deleted
    apply iff_of_false (by simp)
    intro given
    exact Bool.false_ne_true ((given.1 change member).symm.trans concerned)
  · rw [if_neg deleted]
    simp only [List.any_eq_true, not_exists, not_and, Bool.not_eq_true] at deleted
    rw [and_iff_right deleted]
    split
    · next pair found =>
      have asked := List.mem_of_find?_eq_some found
      have concerned : meant pair.existing record = true :=
        List.find?_some (p := fun pair : PairedChange => meant pair.existing record) found
      apply Iff.intro
      · intro given
        exact Or.inl ⟨pair, asked, concerned, Option.some.inj given⟩
      · rintro (⟨other, asked', concerned', rfl⟩ | ⟨spared, -⟩)
        · rw [unique pair asked other asked' concerned concerned']
        · exact absurd ((spared pair asked).symm.trans concerned) Bool.false_ne_true
    · next none_found =>
      have spared : ∀ pair ∈ changes.modify, meant pair.existing record = false :=
        fun pair member => Bool.eq_false_iff.2 (List.find?_eq_none.1 none_found pair member)
      apply Iff.intro
      · intro given
        exact Or.inr ⟨spared, Option.some.inj given⟩
      · rintro (⟨pair, asked, concerned, -⟩ | ⟨-, rfl⟩)
        · exact absurd ((spared pair asked).symm.trans concerned) Bool.false_ne_true
        · rfl

end DnsReconcile.Changeset
