/-
# What a changeset accounts for

A comparison loses no record, repeats none and pairs none wrongly. Every desired record
has one entry; every observed record that takes part has one entry too, unless nobody
desires it and it is protected. The protection is spelled out here, and the comparison
decides it.
-/

import DnsReconcile.Proofs.Changeset.Entries
import DnsReconcile.Proofs.Zone.Ownership

namespace DnsReconcile

universe u v

/-- Two partial functions that are never both defined split what they find between
them. -/
theorem filterMap_append_filterMap_perm {α : Type u} {β : Type v} {f g : α → Option β}
    {list : List α} (apart : ∀ x ∈ list, f x = none ∨ g x = none) :
    (list.filterMap f ++ list.filterMap g).Perm (list.filterMap fun x => (f x).or (g x)) := by
  induction list with
  | nil => exact List.Perm.refl _
  | cons x rest ih =>
      have tail := ih fun y member => apart y (List.mem_cons_of_mem x member)
      cases apart x List.mem_cons_self with
      | inl none_left =>
          rw [List.filterMap_cons_none none_left]
          cases found : g x with
          | none =>
              rw [List.filterMap_cons_none found,
                List.filterMap_cons_none (by rw [none_left, found, Option.none_or])]
              exact tail
          | some entry =>
              rw [List.filterMap_cons_some found,
                List.filterMap_cons_some (b := entry) (by rw [none_left, found, Option.none_or])]
              exact List.perm_middle.trans (tail.cons entry)
      | inr none_right =>
          rw [List.filterMap_cons_none none_right]
          cases found : f x with
          | none =>
              rw [List.filterMap_cons_none found,
                List.filterMap_cons_none (by rw [none_right, found, Option.none_or])]
              exact tail
          | some entry =>
              rw [List.filterMap_cons_some found,
                List.filterMap_cons_some (b := entry) (by rw [found, Option.some_or])]
              exact tail.cons entry

/-- The observed record of a correlation. -/
def Correlation.existing? : Correlation → Option Record
  | .both existing _ => some existing
  | .onlyDesired _ => none
  | .onlyExisting existing => some existing

/-- The desired record of a correlation. -/
def Correlation.desired? : Correlation → Option Record
  | .both _ desired => some desired
  | .onlyDesired desired => some desired
  | .onlyExisting _ => none

namespace Comparison

variable {comparison : Comparison} {desired existing : List Record} {changes : Changeset}

/-- An observed record stays although nobody desires it if the zone does not purge, or
if it belongs to somebody else: by its label or, for a CNAME, by its target. -/
def Protected (comparison : Comparison) (record : Record) : Prop :=
  comparison.zone.purge = false ∨
    (∃ pattern ∈ comparison.zone.ignoreLabels,
      comparison.matcher.covers pattern record.label = true) ∨
    ∃ target, record.payload = .cname target ∧
      ∃ pattern ∈ comparison.zone.ignoreTargets,
        comparison.matcher.covers (withoutFinalDots pattern) (withoutFinalDots target) = true

theorem protects_iff {record : Record} :
    comparison.protects record = true ↔ comparison.Protected record := by
  simp only [protects, Bool.or_eq_true, Bool.not_eq_true', Zone.isSome_ignoredLabel?_iff,
    Zone.isSome_ignoredByTarget?_iff, or_assoc]
  rfl

instance (record : Record) : Decidable (comparison.Protected record) :=
  decidable_of_iff _ protects_iff

/-- The records of a pair differ in what counts. -/
def Differ (comparison : Comparison) (first second : Record) : Prop :=
  first.ttl ≠ second.ttl ∨ first.payload ≠ second.payload ∨
    comparison.comparable first ≠ comparison.comparable second

/-- A changeset that does justice to the record sets it was made from. -/
structure Accounts (comparison : Comparison) (desired existing : List Record)
    (changes : Changeset) : Prop where
  /-- Every desired record is the desired side of exactly one entry. -/
  desired_once :
    (changes.unchanged.map (·.desired) ++ changes.create.map (·.record) ++
      changes.modify.map (·.desired)).Perm desired
  /-- Every observed record that takes part is the existing side of exactly one entry,
  unless nobody desires it and it is protected; then it has none. -/
  existing_once :
    (changes.unchanged.map (·.existing) ++ changes.modify.map (·.existing) ++
      changes.delete.map (·.record)).Perm
      ((comparison.participating desired existing).filter fun record =>
        record.key ∈ desired.map Record.key ∨ ¬ comparison.Protected record)
  unchanged_agree : ∀ pair ∈ changes.unchanged,
    pair.existing.key = pair.desired.key ∧ ¬ comparison.Differ pair.existing pair.desired
  modify_differ : ∀ pair ∈ changes.modify,
    pair.existing.key = pair.desired.key ∧ comparison.Differ pair.existing pair.desired
  create_new : ∀ change ∈ changes.create,
    change.record.key ∉ (comparison.participating desired existing).map Record.key
  delete_unwanted : ∀ change ∈ changes.delete,
    change.record.key ∉ desired.map Record.key ∧ ¬ comparison.Protected change.record

/-! ## Every record once -/

/-- The desired sides of all entries, correlation by correlation. -/
theorem desired_sides_perm (list : List Correlation) :
    ((comparison.classify list).unchanged.map (·.desired) ++
      (comparison.classify list).create.map (·.record) ++
      (comparison.classify list).modify.map (·.desired)).Perm
      (list.filterMap Correlation.desired?) := by
  simp only [classify, List.map_filterMap]
  have first := filterMap_append_filterMap_perm
    (f := fun correlation => (comparison.unchanged? correlation).map (·.desired))
    (g := fun correlation => (comparison.create? correlation).map (·.record))
    (fun correlation (_ : correlation ∈ list) => by
      cases correlation <;> simp [unchanged?, create?])
  refine (first.append_right _).trans ((filterMap_append_filterMap_perm ?_).trans (.of_eq ?_))
  · intro correlation _
    cases correlation with
    | both observed wanted => simp only [unchanged?, create?, modify?]; split <;> simp
    | onlyDesired wanted => exact Or.inr rfl
    | onlyExisting observed => exact Or.inr rfl
  · apply List.filterMap_congr
    intro correlation _
    cases correlation with
    | both observed wanted =>
        simp only [unchanged?, create?, modify?, Correlation.desired?]
        split <;> rfl
    | onlyDesired wanted => rfl
    | onlyExisting observed => rfl

/-- The existing sides of all entries, correlation by correlation. -/
theorem existing_sides_perm (list : List Correlation) :
    ((comparison.classify list).unchanged.map (·.existing) ++
      (comparison.classify list).modify.map (·.existing) ++
      (comparison.classify list).delete.map (·.record)).Perm
      (list.filterMap fun correlation => correlation.existing?.filter fun record =>
        correlation.desired?.isSome || !comparison.protects record) := by
  simp only [classify, List.map_filterMap]
  have first := filterMap_append_filterMap_perm
    (f := fun correlation => (comparison.unchanged? correlation).map (·.existing))
    (g := fun correlation => (comparison.modify? correlation).map (·.existing))
    (fun correlation (_ : correlation ∈ list) => by
      cases correlation with
      | both observed wanted => simp only [unchanged?, modify?]; split <;> simp
      | onlyDesired wanted => exact Or.inr rfl
      | onlyExisting observed => exact Or.inr rfl)
  refine (first.append_right _).trans ((filterMap_append_filterMap_perm ?_).trans (.of_eq ?_))
  · intro correlation _
    cases correlation <;> simp [unchanged?, modify?, delete?]
  · apply List.filterMap_congr
    intro correlation _
    cases correlation with
    | both observed wanted =>
        simp only [unchanged?, modify?, delete?, Correlation.existing?, Correlation.desired?]
        split <;> rfl
    | onlyDesired wanted => rfl
    | onlyExisting observed =>
        simp only [unchanged?, modify?, delete?, Correlation.existing?, Correlation.desired?,
          Option.filter_some, Option.isSome_none, Bool.false_or]
        cases comparison.protects observed <;> rfl

theorem correlation?_bind_desired? (wanted observed : List Record) (key : RecordKey) :
    (correlation? wanted observed key).bind Correlation.desired? = (keyed wanted).lookup key := by
  simp only [correlation?]
  cases (keyed observed).lookup key <;> cases (keyed wanted).lookup key <;> rfl

theorem correlation?_bind_existing? (comparison : Comparison) (wanted observed : List Record)
    (key : RecordKey) :
    ((correlation? wanted observed key).bind fun correlation =>
      correlation.existing?.filter fun record =>
        correlation.desired?.isSome || !comparison.protects record) =
      ((keyed observed).lookup key).filter fun record =>
        ((keyed wanted).lookup key).isSome || !comparison.protects record := by
  simp only [correlation?]
  cases (keyed observed).lookup key <;> cases (keyed wanted).lookup key <;> rfl

/-- A comparison that succeeds accounts for every record of both sides. -/
theorem accounts_of_changes (compared : comparison.changes desired existing = .ok changes) :
    comparison.Accounts desired existing changes := by
  have admitted := (changes_eq_ok_iff.1 compared).1
  obtain rfl := (changes_eq_ok_iff.1 compared).2
  have once := (keys_ordered admitted.existing_distinct admitted.desired_distinct).nodup
  refine ⟨?_, ?_, ?_, ?_, ?_, ?_⟩
  · apply (desired_sides_perm _).trans
    rw [correlations_eq_filterMap, List.filterMap_filterMap]
    simp only [correlation?_bind_desired?]
    exact filterMap_lookup_perm once admitted.desired_distinct fun record member =>
      mem_keys.2 (Or.inr (List.mem_map_of_mem member))
  · apply (existing_sides_perm _).trans
    rw [correlations_eq_filterMap, List.filterMap_filterMap]
    simp only [correlation?_bind_existing?]
    have found := filterMap_lookup_perm once admitted.existing_distinct fun record member =>
      mem_keys.2 (Or.inl (List.mem_map_of_mem member))
    refine List.Perm.trans (.of_eq ?_) (found.filter _)
    rw [List.filter_filterMap]
    apply List.filterMap_congr
    intro key _
    cases observed : (keyed (comparison.participating desired existing)).lookup key with
    | none => rfl
    | some record =>
        have same := ((lookup_keyed_eq_some_iff admitted.existing_distinct).1 observed).2
        have wanted : ((keyed desired).lookup key).isSome = true ↔
            record.key ∈ desired.map Record.key := by
          rw [same, ← not_iff_not, ← lookup_keyed_eq_none_iff, Option.not_isSome_iff_eq_none]
        simp only [Option.filter_some, Bool.or_eq_true, wanted, Bool.not_eq_true',
          decide_eq_true_eq, ← protects_iff, Bool.not_eq_true]
  · intro pair member
    obtain ⟨⟨-, -, same⟩, agree, -⟩ := (mem_unchanged_iff compared).1 member
    exact ⟨same, fun differ => Bool.false_ne_true (agree.symm.trans (differs_iff.2 differ))⟩
  · intro pair member
    obtain ⟨⟨-, -, same⟩, differ, -⟩ := (mem_modify_iff compared).1 member
    exact ⟨same, differs_iff.1 differ⟩
  · intro change member
    exact ((mem_create_iff compared).1 member).1.2
  · intro change member
    obtain ⟨⟨-, unwanted⟩, exposed, -⟩ := (mem_delete_iff compared).1 member
    exact ⟨unwanted, fun kept => Bool.false_ne_true (exposed.symm.trans (protects_iff.2 kept))⟩

/-- A comparison gives a changeset exactly for the record sets it admits, and whatever
changeset it gives accounts for every record of both sides. -/
theorem changes_accounted (comparison : Comparison) (desired existing : List Record) :
    ((∃ changes, comparison.changes desired existing = .ok changes) ↔
      comparison.Admits desired existing) ∧
      ∀ changes, comparison.changes desired existing = .ok changes →
        comparison.Accounts desired existing changes := by
  refine ⟨⟨?_, fun admitted => ?_⟩, fun changes compared => accounts_of_changes compared⟩
  · rintro ⟨changes, compared⟩
    exact (changes_eq_ok_iff.1 compared).1
  · exact ⟨_, changes_eq_ok_iff.2 ⟨admitted, rfl⟩⟩

/-- One record of each class, one that belongs to somebody else, and a name server of the
zone itself that nobody manages. -/
theorem changes_accounted_of_mixed_zone :
    let comparison : Comparison := ⟨{ ignoreLabels := ["vpn"] }, .exact, fun _ => ∅⟩
    let desired : List Record :=
      [.ofPayload "api" (.txt ["new"]), .ofPayload "mail" (.txt ["kept"]),
        .ofPayload "www" (.cname "new.example.net.")]
    let existing : List Record :=
      [.ofPayload "@" (.ns "ns.example.net."), .ofPayload "mail" (.txt ["kept"]),
        .ofPayload "old" (.txt ["gone"]), .ofPayload "vpn" (.txt ["theirs"]),
        .ofPayload "www" (.cname "old.example.net.")]
    ∃ changes, comparison.changes desired existing = .ok changes ∧
      (changes.unchanged.length = 1 ∧ changes.create.length = 1 ∧ changes.delete.length = 1 ∧
        changes.modify.length = 1) ∧
      comparison.Accounts desired existing changes := by
  intro comparison desired existing
  have admitted : comparison.Admits desired existing :=
    ⟨by decide, by decide, by decide, by decide +kernel, by decide +kernel⟩
  have accounted := changes_accounted comparison desired existing
  obtain ⟨changes, compared⟩ := accounted.1.2 admitted
  refine ⟨changes, compared, ?_, accounted.2 changes compared⟩
  obtain ⟨-, rfl⟩ := changes_eq_ok_iff.1 compared
  decide +kernel

end Comparison

end DnsReconcile
