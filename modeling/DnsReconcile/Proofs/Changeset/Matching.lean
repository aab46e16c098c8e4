/-
# Matching records by key

When two record sets can be compared, and what the comparison then pairs up. Records
of either side are found by their keys; as keys do not repeat, a key leads to one
record at most. So the correlations of two sets are known from their members alone,
and they come in the order of their keys.
-/

import DnsReconcile.Changeset.Comparison
import DnsReconcile.Proofs.Record.KeyOrder
import DnsReconcile.Proofs.Refusals
import Mathlib.Data.List.Nodup

namespace DnsReconcile

/-- The key under which the records of a correlation were found. -/
def Correlation.key : Correlation → RecordKey
  | .both existing _ => existing.key
  | .onlyDesired desired => desired.key
  | .onlyExisting existing => existing.key

namespace Comparison

variable {comparison : Comparison} {desired existing records : List Record} {record : Record}
variable {key : RecordKey}

/-- The observed records that take part in a comparison. -/
def participating (comparison : Comparison) (desired existing : List Record) : List Record :=
  existing.filter (participates (comparison.zone.managesApexNs desired))

/-- What a comparison asks of the two record sets: no desired record belongs to
somebody else, every payload has the form its type asks for, and neither side has two
records under one key. -/
structure Admits (comparison : Comparison) (desired existing : List Record) : Prop where
  permitted : comparison.zone.checkIgnored comparison.matcher desired = .ok ()
  desired_fit : ∀ record ∈ desired, record.payload.fits record.type = true
  existing_fit : ∀ record ∈ existing, record.payload.fits record.type = true
  desired_distinct : (desired.map Record.key).Nodup
  existing_distinct : ((comparison.participating desired existing).map Record.key).Nodup

/-! ## Acceptance -/

theorem checkShape_eq_ok_iff :
    checkShape record = .ok () ↔ record.payload.fits record.type = true := by
  simp only [checkShape]
  split
  · next fits => exact iff_of_true rfl fits
  · next misfits => exact iff_of_false (by simp) misfits

/-- Going through one side succeeds if all payloads fit and the keys of the records
that take part differ from each other and from those seen before. -/
theorem checkSide_eq_ok_iff {side : String} {takesPart : Record → Bool} {seen : List RecordKey} :
    checkSide side takesPart seen records = .ok () ↔
      (∀ record ∈ records, record.payload.fits record.type = true) ∧
        ((records.filter takesPart).map Record.key).Nodup ∧
        ∀ record ∈ records.filter takesPart, record.key ∉ seen := by
  induction records generalizing seen with
  | nil => simp [checkSide]
  | cons record rest ih =>
      simp only [checkSide, check_bind_eq_ok_iff, checkShape_eq_ok_iff, List.forall_mem_cons,
        and_assoc]
      apply and_congr_right
      intro _
      by_cases part : takesPart record = true
      · by_cases known : record.key ∈ seen
        · simp [part, known]
        · simp only [part, known, if_true, List.contains_eq_mem, decide_false,
            Bool.false_eq_true, if_false, ih, List.filter_cons_of_pos, List.map_cons,
            List.nodup_cons, List.mem_map, List.mem_cons, forall_eq_or_imp, not_or,
            not_false_eq_true, true_and, not_exists, not_and]
          apply Iff.intro
          · rintro ⟨shapes, distinct, fresh⟩
            exact ⟨shapes, ⟨fun other member => (fresh other member).1, distinct⟩,
              fun other member => (fresh other member).2⟩
          · rintro ⟨shapes, ⟨apart, distinct⟩, fresh⟩
            exact ⟨shapes, distinct, fun other member => ⟨apart other member, fresh other member⟩⟩
      · simp [part, ih]

/-- A comparison gives a changeset exactly for the record sets it admits. -/
theorem changes_eq_ok_iff {changes : Changeset} :
    comparison.changes desired existing = .ok changes ↔
      comparison.Admits desired existing ∧
        comparison.classify (correlations desired (comparison.participating desired existing)) =
          changes := by
  simp only [Comparison.changes, check_bind_eq_ok_iff, checkSide_eq_ok_iff, pure_eq_ok_iff,
    List.not_mem_nil, not_false_eq_true, implies_true, and_true, List.filter_true]
  apply Iff.intro
  · rintro ⟨permitted, ⟨existing_fit, existing_distinct⟩, ⟨desired_fit, desired_distinct⟩, same⟩
    exact ⟨⟨permitted, desired_fit, existing_fit, desired_distinct, existing_distinct⟩, same⟩
  · rintro ⟨admitted, same⟩
    exact ⟨admitted.permitted, ⟨admitted.existing_fit, admitted.existing_distinct⟩,
      ⟨admitted.desired_fit, admitted.desired_distinct⟩, same⟩

/-! ## Records by key -/

theorem keyed_map_fst (records : List Record) :
    (keyed records).map (·.1) = records.map Record.key := by
  simp [keyed]

theorem lookup_keyed (records : List Record) (key : RecordKey) :
    (keyed records).lookup key = records.find? fun record => record.key == key := by
  induction records with
  | nil => rfl
  | cons record rest ih =>
      simp only [keyed, List.map_cons, List.lookup_cons, List.find?_cons] at ih ⊢
      rw [ih, BEq.comm]

theorem lookup_keyed_eq_some_iff (distinct : (records.map Record.key).Nodup) :
    (keyed records).lookup key = some record ↔ record ∈ records ∧ record.key = key := by
  rw [lookup_keyed]
  apply Iff.intro
  · intro found
    exact ⟨List.mem_of_find?_eq_some found, by simpa using List.find?_some found⟩
  · rintro ⟨member, rfl⟩
    have found : (records.find? fun other => other.key == record.key).isSome :=
      List.find?_isSome.2 ⟨record, member, beq_self_eq_true _⟩
    obtain ⟨other, found⟩ := Option.isSome_iff_exists.1 found
    have same : other.key = record.key := by simpa using List.find?_some found
    rw [found, List.inj_on_of_nodup_map distinct (List.mem_of_find?_eq_some found) member same]

theorem lookup_keyed_eq_none_iff :
    (keyed records).lookup key = none ↔ key ∉ records.map Record.key := by
  simp [lookup_keyed]

/-- Looking up every key of a list that contains the keys of some records finds exactly
these records. -/
theorem filterMap_lookup_perm {keys : List RecordKey} (once : keys.Nodup)
    (distinct : (records.map Record.key).Nodup)
    (covered : ∀ record ∈ records, record.key ∈ keys) :
    (keys.filterMap fun key => (keyed records).lookup key).Perm records := by
  refine (List.perm_ext_iff_of_nodup ?_ (List.Nodup.of_map _ distinct)).2 fun record => ?_
  · refine List.Nodup.filterMap (fun first second record found found' => ?_) once
    rw [← ((lookup_keyed_eq_some_iff distinct).1 found).2,
      ← ((lookup_keyed_eq_some_iff distinct).1 found').2]
  · simp only [List.mem_filterMap, lookup_keyed_eq_some_iff distinct]
    apply Iff.intro
    · rintro ⟨key, -, member, -⟩
      exact member
    · intro member
      exact ⟨record.key, covered record member, member, rfl⟩

/-! ## Correlations -/

theorem mem_keys {observed wanted : List Record} :
    key ∈ keys (keyed wanted) (keyed observed) ↔
      key ∈ observed.map Record.key ∨ key ∈ wanted.map Record.key := by
  simp only [keys, keyed_map_fst, mem_sortBy, List.mem_append, List.mem_filter,
    List.contains_eq_mem, Bool.not_eq_true', decide_eq_false_iff_not]
  by_cases present : key ∈ observed.map Record.key <;> simp [present]

/-- No key occurs twice among the keys of both sides, and they are in order. -/
theorem keys_ordered {observed wanted : List Record}
    (observed_distinct : (observed.map Record.key).Nodup)
    (wanted_distinct : (wanted.map Record.key).Nodup) :
    StrictlyOrderedBy RecordKey.le id (keys (keyed wanted) (keyed observed)) := by
  have once : (keys (keyed wanted) (keyed observed)).Nodup := by
    simp only [keys, keyed_map_fst, nodup_sortBy]
    refine List.nodup_append.2 ⟨observed_distinct, wanted_distinct.filter _, ?_⟩
    intro first present second fresh same
    have absent := (List.mem_filter.1 fresh).2
    simp only [List.contains_eq_mem, Bool.not_eq_true', decide_eq_false_iff_not] at absent
    exact absent (same ▸ present)
  exact List.Pairwise.and (RecordKey.isPreorder_le.pairwise_sortBy _) once

/-- What is found under a key on both sides. -/
def correlation? (wanted observed : List Record) (key : RecordKey) : Option Correlation :=
  match (keyed observed).lookup key, (keyed wanted).lookup key with
  | some existing, some desired => some (.both existing desired)
  | none, some desired => some (.onlyDesired desired)
  | some existing, none => some (.onlyExisting existing)
  | none, none => none

theorem correlations_eq_filterMap (wanted observed : List Record) :
    correlations wanted observed =
      (keys (keyed wanted) (keyed observed)).filterMap (correlation? wanted observed) := rfl

section Found

variable {wanted observed : List Record} {correlation : Correlation}
variable (wanted_distinct : (wanted.map Record.key).Nodup)
variable (observed_distinct : (observed.map Record.key).Nodup)
include wanted_distinct observed_distinct

theorem correlation?_eq_both_iff {first second : Record} :
    correlation? wanted observed key = some (.both first second) ↔
      (first ∈ observed ∧ first.key = key) ∧ second ∈ wanted ∧ second.key = key := by
  rw [← lookup_keyed_eq_some_iff observed_distinct, ← lookup_keyed_eq_some_iff wanted_distinct]
  simp only [correlation?]
  cases (keyed observed).lookup key <;> cases (keyed wanted).lookup key <;> simp

omit observed_distinct in
theorem correlation?_eq_onlyDesired_iff {second : Record} :
    correlation? wanted observed key = some (.onlyDesired second) ↔
      key ∉ observed.map Record.key ∧ second ∈ wanted ∧ second.key = key := by
  rw [← lookup_keyed_eq_none_iff, ← lookup_keyed_eq_some_iff wanted_distinct]
  simp only [correlation?]
  cases (keyed observed).lookup key <;> cases (keyed wanted).lookup key <;> simp

omit wanted_distinct in
theorem correlation?_eq_onlyExisting_iff {first : Record} :
    correlation? wanted observed key = some (.onlyExisting first) ↔
      (first ∈ observed ∧ first.key = key) ∧ key ∉ wanted.map Record.key := by
  rw [← lookup_keyed_eq_none_iff, ← lookup_keyed_eq_some_iff observed_distinct]
  simp only [correlation?]
  cases (keyed observed).lookup key <;> cases (keyed wanted).lookup key <;> simp

theorem key_of_correlation? (found : correlation? wanted observed key = some correlation) :
    correlation.key = key := by
  cases correlation with
  | both first second =>
      exact ((correlation?_eq_both_iff wanted_distinct observed_distinct).1 found).1.2
  | onlyDesired second =>
      exact ((correlation?_eq_onlyDesired_iff wanted_distinct).1 found).2.2
  | onlyExisting first =>
      exact ((correlation?_eq_onlyExisting_iff observed_distinct).1 found).1.2

/-- Correlations come in the order of their keys, each key once. -/
theorem correlations_ordered :
    StrictlyOrderedBy RecordKey.le Correlation.key (correlations wanted observed) := by
  rw [correlations_eq_filterMap]
  refine List.pairwise_filterMap.2 ((keys_ordered observed_distinct wanted_distinct).imp ?_)
  intro first second ordered correlation found other found'
  rw [key_of_correlation? wanted_distinct observed_distinct found,
    key_of_correlation? wanted_distinct observed_distinct found']
  exact ordered

/-- The pairs are an observed and a desired record with the same key. -/
theorem both_mem_correlations_iff {first second : Record} :
    .both first second ∈ correlations wanted observed ↔
      first ∈ observed ∧ second ∈ wanted ∧ first.key = second.key := by
  simp only [correlations_eq_filterMap, List.mem_filterMap, mem_keys,
    correlation?_eq_both_iff wanted_distinct observed_distinct]
  apply Iff.intro
  · rintro ⟨key, -, ⟨present, rfl⟩, member, same⟩
    exact ⟨present, member, same.symm⟩
  · rintro ⟨present, member, same⟩
    exact ⟨first.key, Or.inl (List.mem_map_of_mem present), ⟨present, rfl⟩, member, same.symm⟩

omit observed_distinct in
theorem onlyDesired_mem_correlations_iff {second : Record} :
    .onlyDesired second ∈ correlations wanted observed ↔
      second ∈ wanted ∧ second.key ∉ observed.map Record.key := by
  simp only [correlations_eq_filterMap, List.mem_filterMap, mem_keys,
    correlation?_eq_onlyDesired_iff wanted_distinct]
  apply Iff.intro
  · rintro ⟨key, -, absent, member, rfl⟩
    exact ⟨member, absent⟩
  · rintro ⟨member, absent⟩
    exact ⟨second.key, Or.inr (List.mem_map_of_mem member), absent, member, rfl⟩

omit wanted_distinct in
theorem onlyExisting_mem_correlations_iff {first : Record} :
    .onlyExisting first ∈ correlations wanted observed ↔
      first ∈ observed ∧ first.key ∉ wanted.map Record.key := by
  simp only [correlations_eq_filterMap, List.mem_filterMap, mem_keys,
    correlation?_eq_onlyExisting_iff observed_distinct]
  apply Iff.intro
  · rintro ⟨key, -, ⟨present, rfl⟩, absent⟩
    exact ⟨present, absent⟩
  · rintro ⟨present, absent⟩
    exact ⟨first.key, Or.inl (List.mem_map_of_mem present), ⟨present, rfl⟩, absent⟩

end Found

end Comparison

end DnsReconcile
