/-
# Records that can stand together

The rules for the records at one label, said of two records at a time. Checking a sorted
list label by label is the same as asking of every two of its records whether they go
together, in whatever order the list is.
-/

import DnsReconcile.Proofs.Zone.CanonicalRecords

namespace DnsReconcile

/-- Two types can occur at one label: neither is CNAME, and if they are the same type, it
is one that may occur several times. -/
def RecordType.GoWith (first second : RecordType) : Prop :=
  (first ≠ .cname ∧ second ≠ .cname) ∧ (first = second → first.isMultiValue = true)

/-- Two records can be in one zone. Only DNS records at one label get in each other's
way. -/
def Record.Compatible (first second : Record) : Prop :=
  first.label = second.label → first.type.isPseudo = false → second.type.isPseudo = false →
    first.type.GoWith second.type

/-- Records under two keys can be in one zone. -/
def RecordKey.Compatible (first second : RecordKey) : Prop :=
  first.label = second.label → first.type.isPseudo = false → second.type.isPseudo = false →
    first.type.GoWith second.type

theorem RecordKey.Compatible.symm {first second : RecordKey} (together : first.Compatible second) :
    second.Compatible first := by
  intro label plain plain'
  obtain ⟨⟨other, other'⟩, several⟩ := together label.symm plain' plain
  exact ⟨⟨other', other⟩, fun same => same ▸ several same.symm⟩

/-- Which records go together can be told from their keys. -/
theorem Record.compatible_key_iff {first second : Record} :
    first.key.Compatible second.key ↔ first.Compatible second := Iff.rfl

theorem Record.Compatible.symm {first second : Record} (together : first.Compatible second) :
    second.Compatible first :=
  compatible_key_iff.1 (compatible_key_iff.2 together).symm

namespace RecordSet

variable {types : List RecordType} {records listed : List Record} {origin : Origin}

/-! ## One label -/

/-- Among types in order, the same type twice stands in a row. -/
theorem repeated?_eq_none_iff
    (ordered : types.Pairwise fun first second => first.rank ≤ second.rank) :
    repeated? types = none ↔
      types.Pairwise fun first second => first = second → first.isMultiValue = true := by
  induction types with
  | nil => exact iff_of_true rfl List.Pairwise.nil
  | cons first tail ih =>
      obtain ⟨behind, ordered'⟩ := List.pairwise_cons.1 ordered
      cases tail with
      | nil => exact iff_of_true rfl (List.pairwise_singleton _ _)
      | cons second rest =>
          have same_as_next : ∀ type ∈ second :: rest, first = type → first = second := by
            intro type member same
            rcases List.mem_cons.1 member with rfl | later
            · exact same
            · have up := behind second List.mem_cons_self
              have down := (List.pairwise_cons.1 ordered').1 type later
              exact RecordType.rank_injective (Nat.le_antisymm up (same ▸ down))
          rw [repeated?, List.pairwise_cons, ← ih ordered']
          by_cases bad : first = second ∧ (!first.isMultiValue) = true
          · rw [if_pos bad]
            apply iff_of_false (by simp)
            intro given
            have several := given.1 second List.mem_cons_self bad.1
            rw [several] at bad
            exact Bool.false_ne_true bad.2
          · rw [if_neg bad, iff_and_self]
            intro _ type member same
            rw [not_and, Bool.not_eq_true', Bool.not_eq_false] at bad
            exact bad (same_as_next type member same)

/-- A CNAME stands alone if no pair of types contains one. -/
theorem cname_alone_iff :
    (types.contains .cname && 1 < types.length) = false ↔
      types.Pairwise fun first second => first ≠ .cname ∧ second ≠ .cname := by
  cases types with
  | nil => exact iff_of_true rfl List.Pairwise.nil
  | cons first tail =>
      cases tail with
      | nil => exact iff_of_true (Bool.and_false _) (List.pairwise_singleton _ _)
      | cons second rest =>
          have several : decide (1 < (first :: second :: rest).length) = true :=
            decide_eq_true (by simp)
          rw [several, Bool.and_true, List.contains_eq_mem, decide_eq_false_iff_not]
          apply Iff.intro
          · intro absent
            refine List.Pairwise.imp_of_mem (fun member member' _ => ?_)
              (List.pairwise_of_forall fun _ _ => True.intro)
            exact ⟨fun same => absent (same ▸ member), fun same => absent (same ▸ member')⟩
          · intro pairs present
            obtain ⟨behind, -⟩ := List.pairwise_cons.1 pairs
            cases List.mem_cons.1 present with
            | inl same =>
                exact (behind second List.mem_cons_self).1 same.symm
            | inr later =>
                exact (behind _ later).2 rfl

/-- The rules for one label, pair by pair. -/
theorem checkTypes_eq_ok_iff {label : String}
    (ordered : types.Pairwise fun first second => first.rank ≤ second.rank) :
    checkTypes label types = .ok () ↔ types.Pairwise RecordType.GoWith := by
  unfold RecordType.GoWith
  rw [List.pairwise_and_iff, ← cname_alone_iff, ← repeated?_eq_none_iff ordered]
  simp only [checkTypes]
  by_cases crowded : (types.contains .cname && 1 < types.length) = true
  · rw [if_pos crowded, crowded]
    exact iff_of_false (by simp [Record.refuse]) fun given => Bool.false_ne_true given.1.symm
  · rw [if_neg crowded, and_iff_right (Bool.eq_false_iff.2 crowded)]
    cases repeated? types with
    | none => exact iff_of_true rfl rfl
    | some type => exact iff_of_false (by simp [Record.refuse]) (by simp)

/-! ## All labels -/

theorem isPreorder_listing : IsPreorder fun first second : Record =>
    RecordKey.le first.listingKey second.listingKey :=
  ⟨fun _ _ => RecordKey.isPreorder_le.total _ _, RecordKey.isPreorder_le.trans⟩

/-- Sorted records are in the order of their listing keys. -/
theorem pairwise_sorted (records : List Record) :
    (sorted records).Pairwise fun first second =>
      RecordKey.le first.listingKey second.listingKey = true :=
  isPreorder_listing.pairwise_sortBy records

theorem sorted_sorted (records : List Record) : sorted (sorted records) = sorted records :=
  sortBy_eq_self (pairwise_sorted records)

/-- Types at a label come in order if the records do. -/
theorem typesAt_sorted (label : String) (records : List Record) :
    (typesAt label (sorted records)).Pairwise fun first second => first.rank ≤ second.rank := by
  simp only [typesAt]
  rw [List.pairwise_map, List.pairwise_filter]
  refine (pairwise_sorted records).imp @fun first second before here here' => ?_
  rw [Bool.and_eq_true, beq_iff_eq] at here here'
  rcases RecordKey.le_iff.1 before with smaller | ⟨-, rank | ⟨type, -⟩⟩
  · have smaller : first.label < second.label := smaller
    rw [here.2, here'.2] at smaller
    exact absurd smaller (String.lt_irrefl _)
  · exact Nat.le_of_lt rank
  · exact Nat.le_of_eq (congrArg RecordType.rank type)

/-- What is asked of the types at each label is asked of every two records. -/
theorem forall_typesAt_iff :
    (∀ label, (typesAt label records).Pairwise RecordType.GoWith) ↔
      records.Pairwise Record.Compatible := by
  have seen (label : String) : (typesAt label records).Pairwise RecordType.GoWith ↔
      records.Pairwise fun first second =>
        (first.type.isPseudo = false ∧ first.label = label) →
          (second.type.isPseudo = false ∧ second.label = label) →
            first.type.GoWith second.type := by
    simp only [typesAt]
    rw [List.pairwise_map, List.pairwise_filter]
    simp only [Bool.and_eq_true, Bool.not_eq_true', beq_iff_eq]
  simp only [seen, List.pairwise_iff_forall_sublist]
  apply Iff.intro
  · intro at_labels first second inside label plain plain'
    exact at_labels second.label inside ⟨plain, label⟩ ⟨plain', rfl⟩
  · rintro pairs label first second inside ⟨plain, here⟩ ⟨plain', here'⟩
    exact pairs inside (here.trans here'.symm) plain plain'

/-- The rules for all labels, pair by pair. -/
theorem check_sorted_eq_ok_iff :
    check (sorted records) = .ok () ↔ records.Pairwise Record.Compatible := by
  rw [← List.Perm.pairwise_iff Record.Compatible.symm (sorted_perm records),
    ← forall_typesAt_iff]
  simp only [check]
  rw [forM_eq_ok_iff]
  apply forall_congr'
  intro label
  rw [checkTypes_eq_ok_iff (typesAt_sorted label records)]
  by_cases present : label ∈ labels (sorted records)
  · rw [forall_prop_of_true present]
  · rw [forall_prop_of_false present, true_iff]
    have empty : typesAt label (sorted records) = [] := by
      simp only [typesAt]
      rw [List.map_eq_nil_iff, List.filter_eq_nil_iff]
      intro record member here
      rw [Bool.and_eq_true, beq_iff_eq] at here
      refine present (List.mem_eraseDups.2 (List.mem_map.2 ⟨record, ?_, here.2⟩))
      exact List.mem_filter.2 ⟨member, here.1⟩
    rw [empty]
    exact List.Pairwise.nil

/-- A list has a canonical form if each record has one and every two of these go
together. -/
theorem exists_normalize_iff :
    (∃ listed, normalize origin records = .ok listed) ↔
      (∀ record ∈ records, ∃ form, origin.record record = .ok form) ∧
        records.Pairwise fun first second => ∀ form form', origin.record first = .ok form →
          origin.record second = .ok form' → form.Compatible form' := by
  simp only [normalize_eq_ok_iff, check_sorted_eq_ok_iff, ← exists_mapM_eq_ok_iff]
  apply Iff.intro
  · rintro ⟨-, canonical, forms, together, -⟩
    exact ⟨⟨canonical, forms⟩, (pairwise_mapM_iff forms).1 together⟩
  · rintro ⟨⟨canonical, forms⟩, together⟩
    exact ⟨_, canonical, forms, (pairwise_mapM_iff forms).2 together, rfl⟩

/-- The records of a canonical list go together. -/
theorem pairwise_of_normalize (found : normalize origin records = .ok listed) :
    listed.Pairwise Record.Compatible := by
  obtain ⟨canonical, -, checked, rfl⟩ := normalize_eq_ok_iff.1 found
  rw [List.Perm.pairwise_iff Record.Compatible.symm (sorted_perm canonical)]
  exact check_sorted_eq_ok_iff.1 checked

end RecordSet

end DnsReconcile
