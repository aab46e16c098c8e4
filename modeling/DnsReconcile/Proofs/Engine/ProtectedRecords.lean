/-
# Records that survive

What belongs to somebody else is still in a zone after the zone has been reconciled, whatever
the mode and whatever came of it. A protected record may be replaced, but only under its own
identifier and only if a desired record has its key; at an ignored label that record has to say
so. Name servers of the zone itself that nobody manages are not touched at all.
-/

import DnsReconcile.Proofs.Engine.Outcomes
import DnsReconcile.Proofs.Engine.PlannedCorrections
import DnsReconcile.Proofs.Engine.PushedZones

namespace DnsReconcile

/-- The zone neither manages its own name servers nor asks for any. -/
def Zone.LeavesApexNs (zone : Zone) : Prop :=
  zone.manageApexNs = false ∧
    ∀ wanted, RecordSet.normalize (Origin.ofZone zone) zone.records = .ok wanted →
      ∀ record ∈ wanted, ¬ record.IsApexNs

/-- The zone asks for a record with this key that overrides the label rule. -/
def Zone.OverridesAt (zone : Zone) (key : RecordKey) : Prop :=
  ∃ wanted, RecordSet.normalize (Origin.ofZone zone) zone.records = .ok wanted ∧
    ∃ desired ∈ wanted, desired.hasIgnoreOverride = true ∧ desired.key = key

/-- The correction puts a record into the zone. -/
def Correction.Writes (correction : Correction) (record : Record) : Prop :=
  correction.action = .create record ∨ ∃ existing, correction.action = .modify existing record

/-- The plan that an outcome tells of. -/
def ZoneOutcome.plan? : ZoneOutcome → Option ZonePlan
  | .failed _ _ => none
  | .planned plan => some plan
  | .applied plan _ => some plan

namespace Store

open Comparison

variable {matcher : LabelMatcher} {zone : Zone} {store after : Store}
variable {wanted existing : List Record} {changes : Changeset} {stored form record : Record}

/-- A stored record that has to survive: nothing is deleted in its zone, or its canonical form
belongs to somebody else. -/
inductive Spared (matcher : LabelMatcher) (zone : Zone) (stored : Record) : Prop where
  | unpurged (keeps : zone.purge = false)
  | label {form : Record} (own : (Origin.ofZone zone).record stored = .ok form)
      (ignored : zone.IgnoresLabel matcher form.label)
  | target {form : Record} (own : (Origin.ofZone zone).record stored = .ok form)
      (ignored : zone.IgnoresTarget matcher form)
  | nameServer {form : Record} (own : (Origin.ofZone zone).record stored = .ok form)
      (apex : form.IsApexNs) (left : zone.LeavesApexNs)

/-- What is kept of the protected records of a zone when one store comes after another. -/
structure Respects (matcher : LabelMatcher) (zone : Zone) (before after : Store) : Prop where
  /-- A protected record is still there under its identifier. -/
  kept : ∀ stored ∈ before.records zone.name, Spared matcher zone stored →
    ∃ id, stored.id? = some id ∧ ∃ record ∈ after.records zone.name, record.id? = some id
  /-- Unmanaged name servers of the zone itself are as they were. -/
  nameServers : ∀ stored ∈ before.records zone.name, ∀ form,
    (Origin.ofZone zone).record stored = .ok form → form.IsApexNs → zone.LeavesApexNs →
      stored ∈ after.records zone.name
  /-- A record at an ignored label is as it was unless the label rule is overridden. -/
  labels : ∀ stored ∈ before.records zone.name, ∀ form,
    (Origin.ofZone zone).record stored = .ok form → zone.IgnoresLabel matcher form.label →
      ¬ zone.OverridesAt form.key → stored ∈ after.records zone.name
  /-- What is new at an ignored label overrides the label rule. -/
  written : ∀ record ∈ after.records zone.name, record ∉ before.records zone.name →
    zone.IgnoresLabel matcher record.label → record.hasIgnoreOverride = true

theorem respects_refl (numbered : store.Numbered) : Respects matcher zone store store where
  kept stored present _ := by
    obtain ⟨id, named⟩ := numbered.exists_id (List.mem_map_of_mem (f := Record.id?) present)
    exact ⟨id, named, stored, present, named⟩
  nameServers _ present _ _ _ _ := present
  labels _ present _ _ _ _ := present
  written _ present new := absurd present new

/-! ## What a plan does to protected records -/

section Planned

variable (planning : Planning matcher zone store wanted existing changes)
include planning

/-- A record that is desired at an ignored label overrides the label rule. -/
theorem Planning.hasIgnoreOverride (desired : record ∈ wanted)
    (ignored : zone.IgnoresLabel matcher record.label) : record.hasIgnoreOverride = true := by
  have permitted := forM_eq_ok_iff.1 (changes_eq_ok_iff.1 planning.compared).1.permitted
  cases Zone.checkRecord_eq_ok_iff.1 (permitted record desired) with
  | inl override => exact override
  | inr foreign => exact absurd ignored foreign.1

/-- Name servers of the zone itself that nobody manages take no part. -/
theorem Planning.not_takesPart (left : zone.LeavesApexNs) (apex : form.IsApexNs) :
    ¬ TakesPart zone wanted form := by
  intro part
  cases participates_iff.1 part with
  | inl managed =>
      cases Zone.managesApexNs_iff.1 managed with
      | inl managed => exact Bool.false_ne_true (left.1.symm.trans managed)
      | inr desired =>
          obtain ⟨record, member, apex⟩ := desired
          exact left.2 wanted planning.desired_forms record member apex
  | inr other => exact other apex

/-- No protected record is deleted. -/
theorem Planning.not_deleted_of_spared (spared : Spared matcher zone stored)
    (own : (Origin.ofZone zone).record stored = .ok form) :
    form ∉ changes.delete.map (·.record) := by
  intro deleted
  obtain ⟨present, -, exposed⟩ := (mem_deleted_iff planning.compared).1 deleted
  have foreign (protected_form : (comparison matcher zone wanted).Protected form) : False :=
    Bool.false_ne_true (exposed.symm.trans (protects_iff.2 protected_form))
  cases spared with
  | unpurged keeps => exact foreign (Or.inl keeps)
  | label own' ignored =>
      obtain rfl := Except.ok.inj (own.symm.trans own')
      exact foreign (Or.inr (Or.inl ignored))
  | target own' ignored =>
      obtain rfl := Except.ok.inj (own.symm.trans own')
      exact foreign (Or.inr (Or.inr ignored))
  | nameServer own' apex left =>
      obtain rfl := Except.ok.inj (own.symm.trans own')
      exact planning.not_takesPart left apex (mem_participating_iff.1 present).2

/-- A record at an ignored label is neither deleted nor replaced unless the label rule is
overridden. -/
theorem Planning.not_target_of_label (ignored : zone.IgnoresLabel matcher form.label)
    (plain : ¬ zone.OverridesAt form.key) : form ∉ targets changes := by
  rw [planning.mem_targets_iff]
  intro asked
  cases asked.2 with
  | inl replaced =>
      obtain ⟨desired, member, same, -⟩ := replaced
      have label : form.label = desired.label := congrArg RecordKey.label same
      have override := planning.hasIgnoreOverride member (label ▸ ignored)
      exact plain ⟨wanted, planning.desired_forms, desired, member, override, same.symm⟩
  | inr deleted =>
      have protected_form : (comparison matcher zone wanted).Protected form :=
        Or.inr (Or.inl ignored)
      exact Bool.false_ne_true (deleted.2.symm.trans (protects_iff.2 protected_form))

end Planned

/-! ## What a push does to protected records -/

section Pushed

variable (numbered : store.Numbered)
variable (planning : Planning matcher zone store wanted existing changes)
variable (carried_out : CarriedOut zone (store.planOf zone changes) store after)
include numbered planning carried_out

theorem mem_records_of_untouched (present : stored ∈ store.records zone.name)
    (untouched : Untouched changes stored) : stored ∈ after.records zone.name := by
  rw [carried_out.records_eq]
  exact List.mem_append_left _
    ((mem_settled_iff numbered planning).2 (Or.inl ⟨present, untouched⟩))

/-- What is not deleted is there afterwards under its identifier. -/
theorem exists_id?_eq_of_not_deleted (present : stored ∈ store.records zone.name)
    (own : (Origin.ofZone zone).record stored = .ok form)
    (kept : form ∉ changes.delete.map (·.record)) :
    ∃ record ∈ after.records zone.name, record.id? = stored.id? := by
  by_cases untouched : Untouched changes stored
  · exact ⟨stored, mem_records_of_untouched numbered planning carried_out present untouched, rfl⟩
  · rw [planning.untouched_iff_of_form numbered present own, not_not] at untouched
    cases List.mem_append.1 untouched with
    | inl deleted => exact absurd deleted kept
    | inr modified =>
        obtain ⟨pair, asked, same⟩ := List.mem_map.1 modified
        refine ⟨{ pair.desired with ref := pair.existing.ref }, ?_, ?_⟩
        · rw [carried_out.records_eq]
          exact List.mem_append_left _
            ((mem_settled_iff numbered planning).2 (Or.inr ⟨pair, asked, rfl⟩))
        · have same_ref : pair.existing.ref = stored.ref := by
            rw [same, Origin.ref_of_record own]
          exact congrArg (Option.map (·.id)) same_ref

/-- What is new after a push is a record that the plan writes, but for its identifier. -/
theorem exists_written_of_new (present : record ∈ after.records zone.name)
    (new : record ∉ store.records zone.name) :
    ∃ source ∈ changes.written, { source with ref := record.ref } = record := by
  rw [carried_out.records_eq, List.mem_append] at present
  cases present with
  | inl settled =>
      cases (mem_settled_iff numbered planning).1 settled with
      | inl old => exact absurd old.1 new
      | inr replaced =>
          obtain ⟨pair, asked, rfl⟩ := replaced
          exact ⟨pair.desired, List.mem_append_right _ (List.mem_map_of_mem asked), rfl⟩
  | inr created =>
      obtain ⟨source, member, same⟩ := exists_of_mem_stamped created
      have asked := ((Correction.typeFirst_perm .ns changes.create).map (·.record)).subset member
      exact ⟨source, List.mem_append_left _ asked, same⟩

theorem respects_of_push : Respects matcher zone store after where
  kept stored present spared := by
    obtain ⟨form, -, own⟩ := RecordSet.exists_mem_normalize planning.stored_forms present
    obtain ⟨id, named⟩ := numbered.exists_id (List.mem_map_of_mem (f := Record.id?) present)
    obtain ⟨record, present', same⟩ := exists_id?_eq_of_not_deleted numbered planning carried_out
      present own (planning.not_deleted_of_spared spared own)
    exact ⟨id, named, record, present', same.trans named⟩
  nameServers stored present form own apex left := by
    apply mem_records_of_untouched numbered planning carried_out present
    rw [planning.untouched_iff_of_form numbered present own, planning.mem_targets_iff]
    exact fun asked => planning.not_takesPart left apex asked.1.2
  labels stored present form own ignored plain := by
    apply mem_records_of_untouched numbered planning carried_out present
    rw [planning.untouched_iff_of_form numbered present own]
    exact planning.not_target_of_label ignored plain
  written record present new ignored := by
    obtain ⟨source, written, same⟩ :=
      exists_written_of_new numbered planning carried_out present new
    rw [← same] at ignored ⊢
    have override : source.hasIgnoreOverride = true :=
      planning.hasIgnoreOverride (planning.mem_written_iff.1 written).1 ignored
    exact override

end Pushed

/-- However reconciling a zone ends, its protected records survive. -/
theorem respects_of_reconciled {mode : Mode} {outcome : ZoneOutcome} (numbered : store.Numbered)
    (reconciled : Reconciled matcher zone store mode outcome after) :
    Respects matcher zone store after := by
  cases reconciled with
  | unknown => exact respects_refl numbered
  | refused refusal => exact respects_refl numbered
  | planned planning => exact respects_refl numbered
  | applied planning success carried_out =>
      exact respects_of_push numbered planning carried_out

/-- The records that the corrections of a plan put into the zone are those that the changeset
writes. -/
theorem mem_written_of_writes {correction : Correction}
    (member : correction ∈ store.corrections zone changes) (writes : correction.Writes record) :
    record ∈ changes.written := by
  cases List.mem_append.1 member with
  | inl sequenced =>
      rcases Correction.mem_sequence_iff.1 sequenced with
        ⟨change, -, rfl⟩ | ⟨change, asked, rfl⟩ | ⟨pair, asked, rfl⟩
      · simp [Correction.Writes, Correction.ofDelete] at writes
      · have same : change.record = record := by
          simpa [Correction.Writes, Correction.ofCreate] using writes
        exact List.mem_append_left _ (List.mem_map.2 ⟨change, asked, same⟩)
      · have same : pair.desired = record := by
          simpa [Correction.Writes, Correction.ofModify] using writes
        exact List.mem_append_right _ (List.mem_map.2 ⟨pair, asked, same⟩)
  | inr toggle =>
      obtain ⟨feature, enabled, switches⟩ := Correction.exists_toggle_of_mem_ofFeatures toggle
      simp [Correction.Writes, switches] at writes

/-- No correction writes at an ignored label without overriding the label rule. -/
theorem hasIgnoreOverride_of_reconciled {mode : Mode} {outcome : ZoneOutcome} {plan : ZonePlan}
    (reconciled : Reconciled matcher zone store mode outcome after)
    (told : outcome.plan? = some plan) {correction : Correction}
    (member : correction ∈ plan.corrections) (writes : correction.Writes record)
    (ignored : zone.IgnoresLabel matcher record.label) : record.hasIgnoreOverride = true := by
  have of_plan {wanted existing : List Record} {changes : Changeset}
      (planning : Planning matcher zone store wanted existing changes)
      (same : some (store.planOf zone changes) = some plan) : record.hasIgnoreOverride = true := by
    obtain rfl := Option.some.inj same
    have written := mem_written_of_writes member writes
    exact planning.hasIgnoreOverride (planning.mem_written_iff.1 written).1 ignored
  cases reconciled with
  | unknown => cases told
  | refused refusal => cases told
  | planned planning => exact of_plan planning told
  | applied planning success carried_out => exact of_plan planning told

end Store

open Store

/-- Protected records survive whatever is done to a store that serves their zone: after any
history of the store, for any zone, in either mode and whatever comes of it. No correction writes
at an ignored label unless the record that is written overrides the label rule. -/
theorem protected_records_survive (providers : Dict (Provider Store)) (settings : EngineSettings)
    (matcher : LabelMatcher) {zone : Zone} {mode : Mode} {outcome : ZoneOutcome}
    {state final : Surroundings Store}
    (served : ∀ provider, providers.get? zone.provider = some provider →
      provider = Store.provider)
    (reachable : state.services.Reachable)
    (ran : Surroundings.run providers
      ((Engine.ofProviders providers settings matcher).reconcileZone mode zone) state =
      (outcome, final)) :
    Respects matcher zone state.services final.services ∧
      ∀ plan, outcome.plan? = some plan → ∀ correction ∈ plan.corrections, ∀ record,
        correction.Writes record → zone.IgnoresLabel matcher record.label →
          record.hasIgnoreOverride = true := by
  have reconciled : Reconciled matcher zone state.services mode outcome final.services :=
    reconciled_of_run served reachable.numbered ran
  refine ⟨respects_of_reconciled reachable.numbered reconciled, ?_⟩
  intro plan told correction member record writes ignored
  exact hasIgnoreOverride_of_reconciled reconciled told member writes ignored

/-- A push that deletes, creates and overrides. The CNAME into a foreign zone survives it. -/
theorem protected_records_survive_of_push :
    let providers : Dict (Provider Store) := .ofList [("memory", Store.provider)]
    let own : Record :=
      { Record.ofPayload "vpn-2" (.txt ["ours"]) with
        metadata := .ofList [("ignore_override", "true")] }
    let zone : Zone :=
      { name := "example.com", provider := "memory", ignoreLabels := ["vpn-*"]
        ignoreTargets := ["*.partner.net"], records := [.ofPayload "new" (.txt ["new"]), own] }
    let store : Store := Store.after {} (.seed "example.com"
      [.ofPayload "VPN-1" (.txt ["theirs"]), .ofPayload "@" (.ns "ns.example.net."),
        .ofPayload "cdn" (.cname "Edge.Partner.NET."), .ofPayload "old" (.txt ["gone"])])
    let engine := Engine.ofProviders providers {} .glob
    ∃ outcome final,
      Surroundings.run providers (engine.reconcileZone .push zone) ⟨store, .ofCapacity 8, []⟩ =
        (outcome, final) ∧
      outcome.plan?.map (·.corrections.length) = some 3 ∧
      Respects .glob zone store final.services ∧
      ∃ record ∈ final.services.records "example.com", record.id? = some "mem-3" := by
  intro providers own zone store engine
  have served : ∀ provider, providers.get? zone.provider = some provider →
      provider = Store.provider := fun _ found => (Option.some.inj found).symm
  have reachable : store.Reachable := Reachable.empty.after _
  let pushed := Surroundings.run providers (engine.reconcileZone .push zone)
    ⟨store, .ofCapacity 8, []⟩
  have ran : Surroundings.run providers (engine.reconcileZone .push zone)
      ⟨store, .ofCapacity 8, []⟩ = (pushed.1, pushed.2) := rfl
  obtain ⟨respects, -⟩ := protected_records_survive providers {} .glob served reachable ran
  have three : (pushed.1.plan?.map fun plan => plan.corrections.length) = some 3 := by
    decide +kernel
  refine ⟨pushed.1, pushed.2, ran, three, respects, ?_⟩
  obtain ⟨pointer, present, named⟩ := List.mem_map.1
    (show some "mem-3" ∈ store.ids "example.com" by decide +kernel)
  have foreign := List.all_eq_true.1
    (show (store.records "example.com").all (fun record => record.id? != some "mem-3" ||
        ((Origin.ofZone zone).record record).toOption.any fun form =>
          (zone.ignoredByTarget? .glob form).isSome) = true by decide +kernel) pointer present
  rw [named, bne_self_eq_false, Bool.false_or] at foreign
  cases canonical : (Origin.ofZone zone).record pointer with
  | error error =>
      rw [canonical] at foreign
      cases foreign
  | ok form =>
      rw [canonical] at foreign
      have spared := Spared.target canonical (Zone.isSome_ignoredByTarget?_iff.1 foreign)
      obtain ⟨id, same, record, survives, known⟩ := respects.kept pointer present spared
      exact ⟨record, survives, known.trans (same.symm.trans named)⟩

end DnsReconcile
