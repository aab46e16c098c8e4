/-
# Plans for a zone in a store

What a plan is made of: the canonical forms of desired and stored records, and the
comparison of the two. The records that the plan removes or replaces are canonical forms
of stored records, so their identifiers lead back to these.
-/

import DnsReconcile.Proofs.Changeset.Accounting
import DnsReconcile.Proofs.Engine.StoreRuns
import DnsReconcile.Proofs.Provider.StoreChangesets
import DnsReconcile.Proofs.Zone.CanonicalRecords

namespace DnsReconcile.Store

variable {matcher : LabelMatcher} {zone : Zone} {store : Store}
variable {wanted existing : List Record} {changes : Changeset} {plan : ZonePlan}

/-- How the records of a zone are compared with those in a store. -/
def comparison (matcher : LabelMatcher) (zone : Zone) (wanted : List Record) : Comparison :=
  ⟨{ zone with records := wanted }, matcher, adapter.comparable⟩

/-- What leads to a plan: the desired records have canonical forms and pass the checks,
the stored records have canonical forms, and the two can be compared. -/
structure Planning (matcher : LabelMatcher) (zone : Zone) (store : Store)
    (wanted existing : List Record) (changes : Changeset) : Prop where
  desired_forms : RecordSet.normalize (Origin.ofZone zone) zone.records = .ok wanted
  valid : Zone.validate { zone with records := wanted } matcher = .ok ()
  audited : adapter.audit wanted = .ok ()
  stored_forms : RecordSet.normalize (Origin.ofZone zone) (store.records zone.name) = .ok existing
  compared : (comparison matcher zone wanted).changes wanted existing = .ok changes

/-- The corrections that a plan consists of. -/
def corrections (zone : Zone) (store : Store) (changes : Changeset) : List Correction :=
  Correction.sequence changes ++
    Correction.ofFeatures zone.name zone.features (store.featuresOf zone.name)

/-- The plan that a changeset leads to. -/
def planOf (zone : Zone) (store : Store) (changes : Changeset) : ZonePlan :=
  ⟨zone.name, zone.provider, changes, store.corrections zone changes⟩

@[simp] theorem planOf_changes (zone : Zone) (store : Store) (changes : Changeset) :
    (store.planOf zone changes).changes = changes := rfl

@[simp] theorem planOf_corrections (zone : Zone) (store : Store) (changes : Changeset) :
    (store.planOf zone changes).corrections = store.corrections zone changes := rfl

theorem compare_eq_ok_iff {observed : List Record} :
    adapter.compare matcher { zone with records := wanted } observed = .ok changes ↔
      ∃ existing, RecordSet.normalize (Origin.ofZone zone) observed = .ok existing ∧
        (comparison matcher zone wanted).changes wanted existing = .ok changes := by
  simp only [Adapter.compare]
  rw [bind_eq_ok_iff]
  rfl

/-- When there is a plan, and which. -/
theorem plan?_eq_ok_iff :
    store.plan? matcher zone = .ok plan ↔
      ∃ wanted existing changes, Planning matcher zone store wanted existing changes ∧
        plan = store.planOf zone changes := by
  simp only [plan?]
  simp only [bind_eq_ok_iff, pure_eq_ok_iff, Adapter.check_eq_ok_iff]
  apply Iff.intro
  · rintro ⟨desired, ⟨wanted, canonical, valid, audited, rfl⟩, changes, compared, rfl⟩
    obtain ⟨existing, observed, compared⟩ := compare_eq_ok_iff.1 compared
    exact ⟨wanted, existing, changes, ⟨canonical, valid, audited, observed, compared⟩, rfl⟩
  · rintro ⟨wanted, existing, changes, planning, rfl⟩
    exact ⟨_, ⟨wanted, planning.desired_forms, planning.valid, planning.audited, rfl⟩, changes,
      compare_eq_ok_iff.2 ⟨existing, planning.stored_forms, planning.compared⟩, rfl⟩

/-- The identifier of a target leads to one stored record. -/
theorem isMeant_iff_eq (numbered : store.Numbered) {target stored other : Record}
    (present : stored ∈ store.records zone.name)
    (form : (Origin.ofZone zone).record stored = .ok target)
    (present' : other ∈ store.records zone.name) :
    isMeant target other = true ↔ other = stored := by
  have same : target.id? = stored.id? := by
    rw [Record.id?, Record.id?, Origin.ref_of_record form]
  obtain ⟨id, named⟩ := numbered.exists_id (List.mem_map_of_mem (f := Record.id?) present)
  rw [isMeant_iff (same.trans named), ← named]
  apply Iff.intro
  · exact List.inj_on_of_nodup_map (numbered.distinct zone.name) present' present
  · rintro rfl
    rfl

namespace Planning

variable (planning : Planning matcher zone store wanted existing changes)
include planning

/-- Each record that is to be removed or replaced is the canonical form of a stored
one. -/
theorem exists_stored {target : Record} (member : target ∈ targets changes) :
    ∃ stored ∈ store.records zone.name, (Origin.ofZone zone).record stored = .ok target := by
  have observed : target ∈ existing := by
    cases List.mem_append.1 member with
    | inl deleted =>
        obtain ⟨change, asked, rfl⟩ := List.mem_map.1 deleted
        exact Comparison.mem_existing_of_delete planning.compared asked
    | inr modified =>
        obtain ⟨pair, asked, rfl⟩ := List.mem_map.1 modified
        exact Comparison.mem_existing_of_modify planning.compared asked
  exact (RecordSet.mem_normalize_iff planning.stored_forms).1 observed

theorem targets_known {target : Record} (member : target ∈ targets changes) :
    target.id? ∈ store.ids zone.name := by
  obtain ⟨stored, present, form⟩ := planning.exists_stored member
  refine List.mem_map.2 ⟨stored, present, ?_⟩
  rw [Record.id?, Record.id?, Origin.ref_of_record form]

/-- No stored record is removed or replaced twice. -/
theorem targets_once (numbered : store.Numbered) : ((targets changes).map Record.id?).Nodup := by
  have ids : (existing.map Record.id?).Nodup := by
    have same := (RecordSet.normalize_refs_perm planning.stored_forms).map (Option.map (·.id))
    rw [List.map_map, List.map_map] at same
    exact same.nodup_iff.2 (numbered.distinct zone.name)
  have sides := (Comparison.accounts_of_changes planning.compared).existing_once.map Record.id?
  have whole := sides.nodup_iff.2
    (((List.filter_sublist.trans List.filter_sublist).map Record.id?).nodup ids)
  rw [List.append_assoc, List.map_append, List.nodup_append] at whole
  rw [targets]
  exact (List.perm_append_comm.map _).nodup_iff.1 whole.2.1

end Planning

end DnsReconcile.Store
