/-
# Runs on a store

What the engine computes when a zone is served by a store. Planning turns out to be a
function of zone and store that changes nothing, applying a series of writes.
-/

import DnsReconcile.Proofs.Engine.Runs
import DnsReconcile.Proofs.Provider.StoreWrites

namespace DnsReconcile

namespace Store

/-- The plan for a zone that a store serves. -/
def plan? (matcher : LabelMatcher) (zone : Zone) (store : Store) : Except Error ZonePlan := do
  let desired ← adapter.check matcher zone
  let changes ← adapter.compare matcher desired (store.records zone.name)
  return ⟨zone.name, zone.provider, changes,
    Correction.sequence changes ++
      Correction.ofFeatures zone.name desired.features (store.featuresOf zone.name)⟩

section Served

open Surroundings

variable {providers : Dict (Provider Store)} {settings : EngineSettings} {matcher : LabelMatcher}
variable {zone : Zone} {store after : Store}

theorem adapter_eq {name : String} (served : providers.get? name = some Store.provider) :
    (Engine.ofProviders providers settings matcher).adapter name = .ok Store.adapter := by
  rw [adapter_ofProviders, served]
  rfl

/-! ## Planning -/

section Planning

variable (served : providers.get? zone.provider = some Store.provider)
include served

theorem yields_featureCorrections (desired : Dict Bool) :
    Yields providers (Engine.featureCorrections zone.provider zone.name desired) store
      (Correction.ofFeatures zone.name desired (store.featuresOf zone.name)) store := by
  simp only [Engine.featureCorrections]
  by_cases nothing : desired.isEmpty = true
  · rw [if_pos nothing, Correction.ofFeatures_of_isEmpty nothing]
    exact yields_pure []
  · rw [if_neg nothing]
    exact (yields_call served (.fetchFeatures zone.name)).bind (yields_pure _)

theorem yields_planPrepared (desired : Zone) :
    Yields providers
      ((Engine.ofProviders providers settings matcher).planPrepared adapter zone desired) store
      (do
        let changes ← adapter.compare matcher desired (store.records zone.name)
        return ⟨zone.name, zone.provider, changes,
          Correction.sequence changes ++
            Correction.ofFeatures zone.name desired.features (store.featuresOf zone.name)⟩)
      store := by
  have answered : Store.provider.answer (.fetch zone.name) store =
      (.ok (store.records zone.name), store) := rfl
  have own_matcher : (Engine.ofProviders providers settings matcher).matcher = matcher := rfl
  apply (yields_call served (.fetch zone.name)).bind
  rw [answered]
  dsimp only
  rw [own_matcher]
  cases adapter.compare matcher desired (store.records zone.name) with
  | error error => exact yields_pure _
  | ok changes =>
      apply (yields_featureCorrections served desired.features).bind
      exact (yields_emit _).bind (yields_pure _)

/-- Planning asks the store and leaves it as it is. -/
theorem yields_plan :
    Yields providers ((Engine.ofProviders providers settings matcher).plan zone) store
      (store.plan? matcher zone) store := by
  have prepared : adapter.prepare (Engine.ofProviders providers settings matcher).matcher zone =
      ([], adapter.check matcher zone) := rfl
  simp only [Engine.plan, plan?]
  rw [adapter_eq served]
  dsimp only
  rw [prepared]
  apply Yields.bind (yields_pure ())
  cases adapter.check matcher zone with
  | error error => exact yields_pure _
  | ok desired => exact yields_planPrepared served desired

end Planning

/-! ## Applying -/

/-- The outcome of a correction that was carried out. -/
def success (correction : Correction) : CorrectionOutcome :=
  ⟨correction.message, .ok ()⟩

/-- A report that knows of successes only. -/
theorem isSuccess_of_success (name : String) (corrections : List Correction) :
    ApplyReport.isSuccess ⟨name, corrections.map success, 0⟩ = true := by
  have none_failed : (corrections.map success).countP (fun outcome => !outcome.succeeded) = 0 := by
    rw [List.countP_map]
    exact List.countP_eq_zero.2 fun _ _ => Bool.false_ne_true
  simp only [ApplyReport.isSuccess, ApplyReport.failed]
  rw [none_failed]
  rfl

section Applying

variable {plan : ZonePlan} (served : providers.get? plan.provider = some Store.provider)
include served

/-- If the store accepts all writes of a plan, all corrections are carried out, whether or
not the engine would stop at a failure. -/
theorem yields_applyFrom {stopOnFirstError : Bool} {corrections : List Correction}
    (written : store.writeAll plan.zone (corrections.map (·.action)) = .ok after) :
    Yields providers
      (Engine.applyFrom stopOnFirstError plan.provider plan.zone false corrections) store
      (corrections.map success, 0) after := by
  induction corrections generalizing store with
  | nil =>
      obtain rfl := Except.ok.inj written
      exact yields_pure _
  | cons correction rest ih =>
      obtain ⟨middle, first, others⟩ := writeAll_cons.1 written
      have answered : Store.provider.answer (.write plan.zone correction.action) store =
          (.ok (), middle) := by
        show store.perform plan.zone correction.action = _
        rw [perform, first]
      have call : Yields providers
          (EngineM.call plan.provider (.write plan.zone correction.action)) store _ _ :=
        yields_call served _
      rw [answered] at call
      refine call.bind ((yields_emit _).bind ?_)
      show Yields providers
        (Engine.applyFrom stopOnFirstError plan.provider plan.zone (stopOnFirstError && false) rest
          >>= fun parts => pure (success correction :: parts.1, parts.2)) middle _ after
      rw [Bool.and_false]
      exact (ih others).bind (yields_pure _)

theorem yields_apply
    (written : store.writeAll plan.zone (plan.corrections.map (·.action)) = .ok after) :
    Yields providers ((Engine.ofProviders providers settings matcher).apply plan) store
      (.ok ⟨plan.zone, plan.corrections.map success, 0⟩) after := by
  simp only [Engine.apply]
  rw [adapter_eq served]
  exact (yields_applyFrom served written).bind ((yields_emit _).bind (yields_pure _))

end Applying

end Served

end Store

end DnsReconcile
