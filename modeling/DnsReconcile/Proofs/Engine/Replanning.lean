/-
# Planning again

What the plan after a push asks for. A push that was applied has succeeded, so only the
records it found and wrote decide whether anything is left to do.
-/

import DnsReconcile.Proofs.Engine.Outcomes
import DnsReconcile.Proofs.Engine.PushedZones

namespace DnsReconcile

namespace Store

variable {matcher : LabelMatcher} {zone : Zone} {store after : Store}
variable {wanted existing : List Record} {changes : Changeset}

/-! ## What is left to do -/

theorem sequence_eq_nil_iff : Correction.sequence changes = [] ↔ changes.isEmpty = true := by
  have reordered (type : RecordType) (list : List LoneChange) :
      Correction.typeFirst type list = [] ↔ list = [] := by
    have same := (Correction.typeFirst_perm type list).length_eq
    rw [← List.length_eq_zero_iff, same, List.length_eq_zero_iff]
  rw [← List.map_eq_nil_iff (f := fun correction : Correction => correction.action),
    Correction.sequence_actions]
  simp only [List.append_eq_nil_iff, List.map_eq_nil_iff, reordered, Changeset.isEmpty,
    Bool.and_eq_true, List.isEmpty_iff]
  apply Iff.intro
  · rintro ⟨deleted, created, modified⟩
    exact ⟨⟨created, deleted⟩, modified⟩
  · rintro ⟨⟨created, deleted⟩, modified⟩
    exact ⟨deleted, created, modified⟩

theorem CarriedOut.ofFeatures_eq_nil {plan : ZonePlan}
    (carried_out : CarriedOut zone plan store after) :
    Correction.ofFeatures zone.name zone.features (after.featuresOf zone.name) = [] := by
  simp only [Correction.ofFeatures]
  apply List.filterMap_eq_nil_iff.2
  rintro ⟨feature, enabled⟩ member
  have desired : zone.features.get? feature = some enabled := Dict.get?_of_mem member
  have reported := carried_out.features feature
  rw [desired] at reported
  dsimp only
  rw [reported]
  cases (store.featuresOf zone.name).get? feature with
  | none => rfl
  | some actual => exact if_pos rfl

/-- After a push the next plan has no corrections if the push lasts, and only then. -/
theorem Planning.nothing_left_iff (numbered : store.Numbered)
    (planning : Planning matcher zone store wanted existing changes)
    (carried_out : CarriedOut zone (store.planOf zone changes) store after) :
    (∃ next, after.plan? matcher zone = .ok next ∧ next.corrections = []) ↔
      Lasting zone (store.planOf zone changes).changes (store.records zone.name) := by
  have same := carried_out.records_perm numbered planning
  have rest : AtRest matcher zone wanted (after.records zone.name) ↔
      Lasting zone changes (store.records zone.name) :=
    ⟨fun rest => lasting_of_atRest numbered planning (rest.of_perm same.symm),
      fun lasting => (atRest_of_lasting numbered planning lasting).of_perm same⟩
  have none_left {others : Changeset} :
      after.corrections zone others = [] ↔ others.isEmpty = true := by
    rw [corrections, carried_out.ofFeatures_eq_nil, List.append_nil, sequence_eq_nil_iff]
  rw [planOf_changes, ← rest, ← planning.atRest_iff]
  simp only [plan?_eq_ok_iff]
  apply Iff.intro
  · rintro ⟨next, ⟨wanted', existing', changes', again, rfl⟩, nothing⟩
    obtain rfl := Except.ok.inj (again.desired_forms.symm.trans planning.desired_forms)
    exact ⟨existing', changes', again, none_left.1 nothing⟩
  · rintro ⟨existing', changes', again, nothing⟩
    exact ⟨_, ⟨wanted, existing', changes', again, rfl⟩, none_left.2 nothing⟩

end Store

open Store Surroundings

/-- A push that was applied has succeeded, and if nobody has changed anything since, the
next plan succeeds and has no corrections exactly if the push lasts. -/
theorem plan_of_push_iff (providers : Dict (Provider Store)) (settings : EngineSettings)
    (matcher : LabelMatcher) {zone : Zone} {plan : ZonePlan} {report : ApplyReport}
    {state pushed start : Surroundings Store}
    (served : providers.get? zone.provider = some Store.provider)
    (reachable : state.services.Reachable)
    (ran : Surroundings.run providers
      ((Engine.ofProviders providers settings matcher).reconcileZone .push zone) state =
      (.applied plan report, pushed))
    (untouched : start.services = pushed.services) :
    report.isSuccess = true ∧
      ((∃ next planned, Surroundings.run providers
          ((Engine.ofProviders providers settings matcher).plan zone) start = (.ok next, planned) ∧
          next.corrections = []) ↔
        Lasting zone plan.changes (state.services.records zone.name)) := by
  cases decided : state.services.plan? matcher zone with
  | error error =>
      have refused := yields_push_of_error settings served decided state rfl
      rw [ran] at refused
      cases refused.1
  | ok plan' =>
      obtain ⟨wanted, existing, changes, planning, rfl⟩ := plan?_eq_ok_iff.1 decided
      obtain ⟨report', after, push, success, carried_out⟩ :=
        yields_push_of_plan settings served reachable.numbered planning
      obtain ⟨same, services⟩ := push state rfl
      rw [ran] at same services
      obtain ⟨rfl, rfl⟩ := ZoneOutcome.applied.inj same
      refine ⟨success, ?_⟩
      rw [← planning.nothing_left_iff reachable.numbered carried_out]
      have again : Yields providers ((Engine.ofProviders providers settings matcher).plan zone)
          after (after.plan? matcher zone) after := yields_plan served
      obtain ⟨result, -⟩ := again start (untouched.trans services)
      apply Iff.intro
      · rintro ⟨next, planned, repeated, nothing⟩
        rw [repeated] at result
        exact ⟨next, result.symm, nothing⟩
      · rintro ⟨next, found, nothing⟩
        exact ⟨next, _, Prod.ext (result.trans found) rfl, nothing⟩

/-- A push that creates, modifies and leaves alone, and lasts. -/
theorem plan_of_push_iff_of_unpurged_zone :
    let providers : Dict (Provider Store) := .ofList [("memory", Store.provider)]
    let zone : Zone :=
      { name := "example.com", provider := "memory", purge := false
        records := [.ofPayload "www" (.cname "new"), .ofPayload "api" (.txt ["new"])] }
    let store : Store := Store.after {} (.seed "example.com"
      [.ofPayload "WWW" (.cname "old"), .ofPayload "other" (.txt ["kept"])])
    let engine := Engine.ofProviders providers {} .glob
    ∃ plan report pushed next planned,
      Surroundings.run providers (engine.reconcileZone .push zone) ⟨store, .ofCapacity 8, []⟩ =
        (.applied plan report, pushed) ∧
      plan.corrections.length = 2 ∧ report.isSuccess = true ∧
      Lasting zone plan.changes (store.records "example.com") ∧
      Surroundings.run providers (engine.plan zone) pushed = (.ok next, planned) ∧
      next.corrections = [] := by
  intro providers zone store engine
  have served : providers.get? zone.provider = some Store.provider := rfl
  have reachable : store.Reachable := Reachable.empty.after _
  let push := Surroundings.run providers (engine.reconcileZone .push zone)
    ⟨store, .ofCapacity 8, []⟩
  let again := Surroundings.run providers (engine.plan zone) push.2
  have count : (match push.1 with
      | .applied plan _ => plan.corrections.length
      | _ => 0) = 2 := by decide +kernel
  obtain ⟨next, result, nothing⟩ := exists_eq_ok_of_map
    (show again.1.toOption.map (·.corrections.length) = some 0 by decide +kernel)
  cases outcome : push.1 with
  | failed name error =>
      rw [outcome] at count
      cases count
  | planned plan =>
      rw [outcome] at count
      cases count
  | applied plan report =>
      rw [outcome] at count
      have ran : push = (.applied plan report, push.2) := Prod.ext outcome rfl
      obtain ⟨success, lasting⟩ := plan_of_push_iff providers _ _ served reachable ran rfl
      have replanned : again = (.ok next, again.2) := Prod.ext result rfl
      have none_left := List.eq_nil_of_length_eq_zero nothing
      exact ⟨plan, report, _, next, _, ran, count, success,
        lasting.1 ⟨next, _, replanned, none_left⟩, replanned, none_left⟩

/-- Two pushes that succeed and do not last: a CNAME comes to stand beside a record that
stays, and a label is written whose canonical form is another one. -/
theorem plan_of_push_not_empty :
    let providers : Dict (Provider Store) := .ofList [("memory", Store.provider)]
    let beside : Zone :=
      { name := "example.com", provider := "memory", purge := false
        records := [.ofPayload "www" (.cname "target.example.net.")] }
    let blank : Zone :=
      { name := "example.com", provider := "memory"
        records := [.ofPayload "a .example.com." (.txt ["text"])] }
    let store : Store := Store.after {} (.seed "example.com" [.ofPayload "www" (.txt ["kept"])])
    let engine := Engine.ofProviders providers {} .glob
    store.Reachable ∧ ∀ zone ∈ [beside, blank], ∃ plan report pushed,
      Surroundings.run providers (engine.reconcileZone .push zone) ⟨store, .ofCapacity 8, []⟩ =
        (.applied plan report, pushed) ∧
      report.isSuccess = true ∧
      ¬ ∃ next planned, Surroundings.run providers (engine.plan zone) pushed =
          (.ok next, planned) ∧ next.corrections = [] := by
  intro providers beside blank store engine
  refine ⟨Reachable.empty.after _, ?_⟩
  have succeeded : ∀ zone ∈ [beside, blank],
      (match (Surroundings.run providers (engine.reconcileZone .push zone)
          ⟨store, .ofCapacity 8, []⟩).1 with
        | .applied _ report => report.isSuccess
        | _ => false) = true := by decide +kernel
  have unfinished : ∀ zone ∈ [beside, blank],
      ((Surroundings.run providers (engine.plan zone)
        (Surroundings.run providers (engine.reconcileZone .push zone)
          ⟨store, .ofCapacity 8, []⟩).2).1.toOption.any (·.corrections.isEmpty)) = false := by
    decide +kernel
  intro zone member
  have success := succeeded zone member
  have work := unfinished zone member
  cases outcome : (Surroundings.run providers (engine.reconcileZone .push zone)
      ⟨store, .ofCapacity 8, []⟩).1 with
  | failed name error =>
      rw [outcome] at success
      cases success
  | planned plan =>
      rw [outcome] at success
      cases success
  | applied plan report =>
      rw [outcome] at success
      refine ⟨plan, report, _, Prod.ext outcome rfl, success, ?_⟩
      rintro ⟨next, planned, replanned, nothing⟩
      rw [replanned] at work
      have empty : next.corrections.isEmpty = false := work
      rw [nothing] at empty
      cases empty

end DnsReconcile
