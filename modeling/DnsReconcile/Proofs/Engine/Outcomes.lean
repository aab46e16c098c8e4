/-
# Outcomes

What reconciling a zone that a store serves can end in. A zone that cannot be planned is given
up, and a preview only shows the plan; neither changes the store. A push carries out the plan
and cannot fail.
-/

import DnsReconcile.Proofs.Engine.AppliedPlans

namespace DnsReconcile

namespace Store

open Surroundings

variable {providers : Dict (Provider Store)} {matcher : LabelMatcher} {zone : Zone} {store : Store}
variable {wanted existing : List Record} {changes : Changeset}

/-- What can come of a zone in a store, and the store afterwards. -/
inductive Reconciled (matcher : LabelMatcher) (zone : Zone) (before : Store) :
    Mode → ZoneOutcome → Store → Prop where
  | unknown {mode : Mode} :
      Reconciled matcher zone before mode
        (.failed zone.name (Engine.unknownProvider zone.provider)) before
  | refused {mode : Mode} {error : Error} (refusal : before.plan? matcher zone = .error error) :
      Reconciled matcher zone before mode (.failed zone.name error) before
  | planned {wanted existing : List Record} {changes : Changeset}
      (planning : Planning matcher zone before wanted existing changes) :
      Reconciled matcher zone before .preview (.planned (before.planOf zone changes)) before
  | applied {wanted existing : List Record} {changes : Changeset} {report : ApplyReport}
      {after : Store} (planning : Planning matcher zone before wanted existing changes)
      (success : report.isSuccess = true)
      (carried_out : CarriedOut zone (before.planOf zone changes) before after) :
      Reconciled matcher zone before .push (.applied (before.planOf zone changes) report) after

section Served

variable (settings : EngineSettings)
variable (served : providers.get? zone.provider = some Store.provider)
include served

theorem yields_push_of_error {error : Error} (refused : store.plan? matcher zone = .error error) :
    Yields providers ((Engine.ofProviders providers settings matcher).reconcileZone .push zone)
      store (.failed zone.name error) store :=
  yields_reconcileZone_of_error (refused ▸ yields_plan served)

theorem yields_push_of_plan (numbered : store.Numbered)
    (planning : Planning matcher zone store wanted existing changes) :
    ∃ report after, Yields providers
        ((Engine.ofProviders providers settings matcher).reconcileZone .push zone) store
        (.applied (store.planOf zone changes) report) after ∧
      report.isSuccess = true ∧ CarriedOut zone (store.planOf zone changes) store after := by
  obtain ⟨after, written, carried_out⟩ := writeAll_corrections numbered planning
  have planned : Yields providers ((Engine.ofProviders providers settings matcher).plan zone)
      store _ store := yields_plan served
  rw [plan?_eq_ok_iff.2 ⟨wanted, existing, changes, planning, rfl⟩] at planned
  have applied : Yields providers ((Engine.ofProviders providers settings matcher).apply
      (store.planOf zone changes)) store _ after := yields_apply served written
  exact ⟨_, after, yields_push planned applied, isSuccess_of_success _ _, carried_out⟩

end Served

/-- Reconciling a zone ends in one of these ways, whatever the mode. The zone need not have a
provider, but it has no other than the store. -/
theorem reconciled_of_run {settings : EngineSettings} {mode : Mode} {outcome : ZoneOutcome}
    {state final : Surroundings Store}
    (served : ∀ provider, providers.get? zone.provider = some provider →
      provider = Store.provider)
    (numbered : state.services.Numbered)
    (ran : Surroundings.run providers
      ((Engine.ofProviders providers settings matcher).reconcileZone mode zone) state =
      (outcome, final)) :
    Reconciled matcher zone state.services mode outcome final.services := by
  -- A run that yields something has yielded this.
  have determined {outcome' : ZoneOutcome} {after : Store}
      (yields : Yields providers ((Engine.ofProviders providers settings matcher).reconcileZone
        mode zone) state.services outcome' after)
      (reconciled : Reconciled matcher zone state.services mode outcome' after) :
      Reconciled matcher zone state.services mode outcome final.services := by
    obtain ⟨result, services⟩ := yields state rfl
    rw [ran] at result services
    obtain rfl : outcome = outcome' := result
    obtain rfl : final.services = after := services
    exact reconciled
  cases found : providers.get? zone.provider with
  | none =>
      have planning : Yields providers ((Engine.ofProviders providers settings matcher).plan zone)
          state.services _ state.services := yields_plan_of_unknown settings matcher found
      exact determined (yields_reconcileZone_of_error planning) .unknown
  | some provider =>
      obtain rfl := served provider found
      have planning : Yields providers ((Engine.ofProviders providers settings matcher).plan zone)
          state.services _ state.services := yields_plan found
      cases decided : state.services.plan? matcher zone with
      | error error =>
          rw [decided] at planning
          exact determined (yields_reconcileZone_of_error planning) (.refused decided)
      | ok plan =>
          rw [decided] at planning
          obtain ⟨wanted, existing, changes, made, rfl⟩ := plan?_eq_ok_iff.1 decided
          cases mode with
          | preview => exact determined (yields_preview planning) (.planned made)
          | push =>
              obtain ⟨report, after, pushed, success, carried_out⟩ :=
                yields_push_of_plan settings found numbered made
              exact determined pushed (.applied made success carried_out)

end Store

end DnsReconcile
