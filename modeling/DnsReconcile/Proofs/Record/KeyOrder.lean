/-
# The order of keys

Records are listed by label, then by type, then by payload. This order is linear:
it compares any two keys, and two keys that come before each other are the same.
-/

import DnsReconcile.Proofs.Sorting
import DnsReconcile.Record.Key

namespace DnsReconcile

namespace RecordType

/-- The place of a type in the order determines the type. -/
theorem rank_injective {first second : RecordType} (same : first.rank = second.rank) :
    first = second := by
  have decoded := congrArg RecordType.ofNat same
  simpa only [rank, RecordType.ofNat_ctorIdx] using decoded

end RecordType

namespace RecordKey

theorem payloadLe_total (first second : Option String) :
    payloadLe first second = true ∨ payloadLe second first = true := by
  cases first with
  | none => exact Or.inl rfl
  | some first =>
      cases second with
      | none => exact Or.inr rfl
      | some second => simpa [payloadLe] using String.le_total first second

theorem payloadLe_trans {first second third : Option String}
    (before : payloadLe first second = true) (after : payloadLe second third = true) :
    payloadLe first third = true := by
  cases first <;> cases second <;> cases third <;> simp_all [payloadLe]
  exact String.le_trans before after

theorem payloadLe_antisymm {first second : Option String}
    (before : payloadLe first second = true) (after : payloadLe second first = true) :
    first = second := by
  cases first <;> cases second <;> simp_all [payloadLe]
  exact String.le_antisymm before after

/-- What it means for one key to come before another: the first difference decides. -/
theorem le_iff {first second : RecordKey} :
    first.le second = true ↔
      first.label < second.label ∨
        first.label = second.label ∧
          (first.type.rank < second.type.rank ∨
            first.type = second.type ∧ payloadLe first.payload second.payload = true) := by
  simp only [le]
  by_cases label : first.label = second.label
  · by_cases type : first.type = second.type
    · rw [if_pos label, if_pos type]
      simp [label, type]
    · have rank : first.type.rank ≠ second.type.rank := fun same =>
        type (RecordType.rank_injective same)
      simp only [label, type, if_true, if_false, decide_eq_true_eq, String.lt_irrefl, true_and,
        false_and, or_false, false_or]
      omega
  · simp only [label, if_false, decide_eq_true_eq, false_and, or_false]
    exact ⟨fun before => String.not_le.1 fun after => label (String.le_antisymm before after),
      fun before => (String.le_total _ _).resolve_right (String.not_le.2 before)⟩

theorem label_trichotomy (first second : String) :
    first < second ∨ first = second ∨ second < first := by
  by_cases before : first < second
  · exact Or.inl before
  · by_cases after : second < first
    · exact Or.inr (Or.inr after)
    · exact Or.inr (Or.inl (String.le_antisymm (String.not_lt.1 after) (String.not_lt.1 before)))

/-- Keys are compared by a linear order. -/
theorem isPreorder_le : IsPreorder le where
  total first second := by
    simp only [le_iff]
    rcases label_trichotomy first.label second.label with label | label | label
    · exact Or.inl (Or.inl label)
    · rcases Nat.lt_trichotomy first.type.rank second.type.rank with rank | rank | rank
      · exact Or.inl (Or.inr ⟨label, Or.inl rank⟩)
      · have type := RecordType.rank_injective rank
        cases payloadLe_total first.payload second.payload with
        | inl payload =>
            exact Or.inl (Or.inr ⟨label, Or.inr ⟨type, payload⟩⟩)
        | inr payload =>
            exact Or.inr (Or.inr ⟨label.symm, Or.inr ⟨type.symm, payload⟩⟩)
      · exact Or.inr (Or.inr ⟨label.symm, Or.inl rank⟩)
    · exact Or.inr (Or.inl label)
  trans {first second third} before after := by
    rw [le_iff] at before after ⊢
    rcases before with before | ⟨label, before⟩
    · rcases after with after | ⟨label', -⟩
      · exact Or.inl (String.lt_trans before after)
      · exact Or.inl (label' ▸ before)
    · rcases after with after | ⟨label', after⟩
      · exact Or.inl (label ▸ after)
      · refine Or.inr ⟨label.trans label', ?_⟩
        rcases before with rank | ⟨type, payload⟩ <;> rcases after with rank' | ⟨type', payload'⟩
        · exact Or.inl (Nat.lt_trans rank rank')
        · exact Or.inl (type' ▸ rank)
        · exact Or.inl (type ▸ rank')
        · exact Or.inr ⟨type.trans type', payloadLe_trans payload payload'⟩

theorem le_antisymm (first second : RecordKey) (before : first.le second = true)
    (after : second.le first = true) : first = second := by
  rw [le_iff] at before after
  rcases before with before | ⟨label, before⟩
  · rcases after with after | ⟨label', -⟩
    · exact absurd (String.lt_trans before after) (String.lt_irrefl _)
    · exact absurd (label' ▸ before) (String.lt_irrefl _)
  · rcases after with after | ⟨-, after⟩
    · exact absurd (label ▸ after) (String.lt_irrefl _)
    · rcases before with rank | ⟨type, payload⟩ <;> rcases after with rank' | ⟨type', payload'⟩
      · omega
      · exact absurd (type' ▸ rank) (Nat.lt_irrefl _)
      · exact absurd (type ▸ rank') (Nat.lt_irrefl _)
      · exact RecordKey.mk.injEq .. |>.mpr ⟨label, type, payloadLe_antisymm payload payload'⟩

end RecordKey

end DnsReconcile
