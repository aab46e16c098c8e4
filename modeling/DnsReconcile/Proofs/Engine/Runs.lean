/-
# Runs of the engine

What a computation of the engine gives and in which state it leaves the provider
instances. Channel and log have no influence on either, so they are left out: a run is
described by the state before, the result and the state after. For planning this is worked
out for any provider that serves the zone.
-/

import DnsReconcile.Engine.Runtime
import DnsReconcile.Proofs.Refusals

namespace DnsReconcile

namespace Surroundings

variable {σ α β : Type} {providers : Dict (Provider σ)} {before middle after : σ}

/-- Whatever channel and log are, a computation that starts on `before` gives `result`
and leaves `after`. -/
def Yields (providers : Dict (Provider σ)) (task : EngineM α) (before : σ) (result : α)
    (after : σ) : Prop :=
  ∀ state : Surroundings σ, state.services = before →
    (run providers task state).1 = result ∧ (run providers task state).2.services = after

theorem yields_pure (result : α) : Yields providers (pure result) before result before :=
  fun _ start => ⟨rfl, start⟩

/-- Two computations, one after the other. -/
theorem Yields.bind {task : EngineM α} {next : α → EngineM β} {first : α} {second : β}
    (one : Yields providers task before first middle)
    (two : Yields providers (next first) middle second after) :
    Yields providers (task >>= next) before second after := by
  intro state start
  obtain ⟨result, services⟩ := one state start
  simp only [run] at result services ⊢
  rw [Program.run_bind, result]
  exact two _ services

theorem yields_emit (event : Event) : Yields providers (EngineM.emit event) before () before :=
  fun _ start => ⟨rfl, start⟩

theorem yields_warn (text : String) : Yields providers (EngineM.warn text) before () before :=
  fun _ start => ⟨rfl, start⟩

theorem yields_warnAll (warnings : List String) :
    Yields providers (EngineM.warnAll warnings) before () before := by
  induction warnings with
  | nil => exact yields_pure ()
  | cons text rest ih => exact (yields_warn text).bind ih

/-- A call is answered by the instance that has the name. -/
theorem yields_call {name : String} {provider : Provider σ}
    (served : providers.get? name = some provider) (request : Call) :
    Yields providers (EngineM.call name request) before (provider.answer request before).1
      (provider.answer request before).2 := by
  intro state start
  have answered : run providers (EngineM.call name request) state =
      answer providers (.call name request) state := rfl
  rw [answered, answer, served, start]
  exact ⟨rfl, rfl⟩

end Surroundings

/-! ## Planning -/

/-- When an adapted zone passes all checks, and what then is ready for comparison. -/
theorem Adapter.check_eq_ok_iff {adapter : Adapter} {matcher : LabelMatcher}
    {zone desired : Zone} :
    adapter.check matcher zone = .ok desired ↔
      ∃ wanted, RecordSet.normalize (Origin.ofZone zone) zone.records = .ok wanted ∧
        Zone.validate { zone with records := wanted } matcher = .ok () ∧
        adapter.audit wanted = .ok () ∧ { zone with records := wanted } = desired := by
  simp only [Adapter.check]
  rw [bind_eq_ok_iff]
  refine exists_congr fun wanted => and_congr_right fun _ => ?_
  rw [check_bind_eq_ok_iff, check_bind_eq_ok_iff, pure_eq_ok_iff]

/-- When an adapted zone fails a check: its records have no canonical form, or the zone or the
provider does not accept them. -/
theorem Adapter.check_eq_error_iff {adapter : Adapter} {matcher : LabelMatcher} {zone : Zone}
    {error : Error} :
    adapter.check matcher zone = .error error ↔
      RecordSet.normalize (Origin.ofZone zone) zone.records = .error error ∨
        ∃ wanted, RecordSet.normalize (Origin.ofZone zone) zone.records = .ok wanted ∧
          (Zone.validate { zone with records := wanted } matcher = .error error ∨
            Zone.validate { zone with records := wanted } matcher = .ok () ∧
              adapter.audit wanted = .error error) := by
  simp only [Adapter.check]
  rw [bind_eq_error_iff]
  refine or_congr_right (exists_congr fun wanted => and_congr_right fun _ => ?_)
  rw [bind_eq_error_iff]
  refine or_congr_right ?_
  simp only [bind_eq_error_iff, pure, Except.pure, reduceCtorEq, and_false, exists_false, or_false]
  exact ⟨fun ⟨⟨⟩, passed, failed⟩ => ⟨passed, failed⟩, fun ⟨passed, failed⟩ => ⟨⟨⟩, passed, failed⟩⟩

/-- A zone is adapted and then checked. -/
theorem Adapter.prepare_snd (adapter : Adapter) (matcher : LabelMatcher) (zone : Zone) :
    (adapter.prepare matcher zone).2 = (adapter.preprocess zone).2 >>= adapter.check matcher := by
  rw [Adapter.prepare]
  rcases adapter.preprocess zone with ⟨warnings, error | adapted⟩ <;> rfl

/-- The features that a provider reports for a zone. It reports none if it cannot list
them. -/
def Provider.reported {σ : Type} (provider : Provider σ) (zone : String) (services : σ) :
    Dict Bool :=
  match (provider.answer (.fetchFeatures zone) services).1 with
  | .ok current => current
  | .error _ => Dict.empty

/-- The corrections that a changeset and the features of a prepared zone lead to. -/
def Provider.corrections {σ : Type} (provider : Provider σ) (zone : String) (desired : Dict Bool)
    (changes : Changeset) (services : σ) : List Correction :=
  Correction.sequence changes ++
    Correction.ofFeatures zone desired (provider.reported zone services)

/-- What leads to a plan by the provider of a zone, whose services are given: the zone is
prepared, the records are listed, and the two can be compared. -/
structure Provider.Plans {σ : Type} (provider : Provider σ) (matcher : LabelMatcher) (zone : Zone)
    (services : σ) (desired : Zone) (observed : List Record) (plan : ZonePlan) : Prop where
  prepared : (provider.adapter.prepare matcher zone).2 = .ok desired
  fetched : (provider.answer (.fetch zone.name) services).1 = .ok observed
  compared : provider.adapter.compare matcher desired observed = .ok plan.changes
  corrections : plan.corrections = provider.corrections zone.name desired.features plan.changes
    (provider.answer (.fetch zone.name) services).2

section Planning

open Surroundings

variable {σ : Type} {providers : Dict (Provider σ)} {provider : Provider σ}
variable {settings : EngineSettings} {matcher : LabelMatcher} {zone : Zone}

theorem Correction.ofFeatures_of_isEmpty {name : String} {desired current : Dict Bool}
    (nothing : desired.isEmpty = true) : Correction.ofFeatures name desired current = [] := by
  have none_desired : desired.entries = [] := List.isEmpty_iff.1 nothing
  rw [Correction.ofFeatures, none_desired, List.filterMap_nil]

theorem Correction.ofFeatures_empty (name : String) (desired : Dict Bool) :
    Correction.ofFeatures name desired Dict.empty = [] :=
  List.filterMap_eq_nil_iff.2 fun _ _ => rfl

/-- Features are compared with those that are reported. -/
theorem Provider.exists_yields_featureCorrections
    (served : providers.get? zone.provider = some provider) (desired : Dict Bool) (before : σ) :
    ∃ after, Yields providers (Engine.featureCorrections zone.provider zone.name desired) before
      (Correction.ofFeatures zone.name desired (provider.reported zone.name before)) after := by
  simp only [Engine.featureCorrections]
  by_cases nothing : desired.isEmpty = true
  · rw [if_pos nothing, Correction.ofFeatures_of_isEmpty nothing]
    exact ⟨before, yields_pure []⟩
  · rw [if_neg nothing, Provider.reported]
    have call : Yields providers (EngineM.call zone.provider (.fetchFeatures zone.name))
        before _ _ := yields_call served _
    refine ⟨(provider.answer (.fetchFeatures zone.name) before).2, call.bind ?_⟩
    cases (provider.answer (.fetchFeatures zone.name) before).1 with
    | ok current => exact yields_pure _
    | error error =>
        dsimp only
        rw [Correction.ofFeatures_empty]
        exact (yields_warn _).bind (yields_pure [])

theorem adapter_ofProviders (name : String) :
    (Engine.ofProviders providers settings matcher).adapter name =
      match providers.get? name with
      | some provider => .ok provider.adapter
      | none => .error (Engine.unknownProvider name) := by
  simp only [Engine.adapter, Engine.ofProviders]
  rw [Dict.get?_mapValues]
  cases providers.get? name <;> rfl

/-- Comparing a prepared zone with what its provider serves ends in one way, and if that is a
plan, it is made from what is listed. -/
theorem Provider.exists_yields_planPrepared
    (served : providers.get? zone.provider = some provider) {desired : Zone} (before : σ)
    (prepared : (provider.adapter.prepare matcher zone).2 = .ok desired) :
    ∃ result after,
      Yields providers ((Engine.ofProviders providers settings matcher).planPrepared
        provider.adapter zone desired) before result after ∧
      ∀ plan, result = .ok plan →
        ∃ observed, provider.Plans matcher zone before desired observed plan := by
  have fetch : Yields providers (EngineM.call zone.provider (.fetch zone.name)) before _ _ :=
    yields_call served _
  have own_matcher : (Engine.ofProviders providers settings matcher).matcher = matcher := rfl
  simp only [Engine.planPrepared]
  rw [own_matcher]
  cases fetched : (provider.answer (.fetch zone.name) before).1 with
  | error error =>
      rw [fetched] at fetch
      exact ⟨.error error, _, fetch.bind (yields_pure _), nofun⟩
  | ok observed =>
      rw [fetched] at fetch
      cases compared : provider.adapter.compare matcher desired observed with
      | error error =>
          refine ⟨.error error, (provider.answer (.fetch zone.name) before).2, fetch.bind ?_, nofun⟩
          dsimp only
          rw [compared]
          exact yields_pure _
      | ok changes =>
          obtain ⟨after, toggles⟩ := provider.exists_yields_featureCorrections served
            desired.features (provider.answer (.fetch zone.name) before).2
          refine ⟨.ok ⟨zone.name, zone.provider, changes, provider.corrections zone.name
            desired.features changes (provider.answer (.fetch zone.name) before).2⟩,
            after, fetch.bind ?_, ?_⟩
          · dsimp only
            rw [compared]
            exact toggles.bind ((yields_emit _).bind (yields_pure _))
          · intro plan made
            obtain rfl := Except.ok.inj made
            exact ⟨observed, prepared, fetched, compared, rfl⟩

/-- Planning ends in one way, and if that is a plan, it is made from what the provider of the
zone prepares and lists. -/
theorem Provider.exists_yields_plan (served : providers.get? zone.provider = some provider)
    (before : σ) :
    ∃ result after,
      Yields providers ((Engine.ofProviders providers settings matcher).plan zone) before
        result after ∧
      ∀ plan, result = .ok plan →
        ∃ desired observed, provider.Plans matcher zone before desired observed plan := by
  have own_matcher : (Engine.ofProviders providers settings matcher).matcher = matcher := rfl
  simp only [Engine.plan]
  rw [adapter_ofProviders, served, own_matcher]
  dsimp only
  cases prepared : (provider.adapter.prepare matcher zone).2 with
  | error error => exact ⟨.error error, before, (yields_warnAll _).bind (yields_pure _), nofun⟩
  | ok desired =>
      obtain ⟨result, after, yields, made⟩ :=
        provider.exists_yields_planPrepared served before prepared
      refine ⟨result, after, (yields_warnAll _).bind yields, fun plan same => ?_⟩
      obtain ⟨observed, plans⟩ := made plan same
      exact ⟨desired, observed, plans⟩

theorem yields_plan_of_unknown (settings : EngineSettings) (matcher : LabelMatcher) {before : σ}
    (unknown : providers.get? zone.provider = none) :
    Yields providers ((Engine.ofProviders providers settings matcher).plan zone) before
      (.error (Engine.unknownProvider zone.provider)) before := by
  simp only [Engine.plan]
  rw [adapter_ofProviders, unknown]
  exact yields_pure _

/-- Whatever a plan is made of is found when it is made: the provider of the zone, the prepared
zone and the records that the provider lists. -/
theorem exists_of_plan {plan : ZonePlan} {state planned : Surroundings σ}
    (ran : Surroundings.run providers
      ((Engine.ofProviders providers settings matcher).plan zone) state = (.ok plan, planned)) :
    ∃ provider desired observed, providers.get? zone.provider = some provider ∧
      provider.Plans matcher zone state.services desired observed plan := by
  cases served : providers.get? zone.provider with
  | none =>
      have refused := (yields_plan_of_unknown settings matcher served state rfl).1
      rw [ran] at refused
      cases refused
  | some provider =>
      obtain ⟨result, after, yields, made⟩ := provider.exists_yields_plan served state.services
      have same := (yields state rfl).1
      rw [ran] at same
      obtain ⟨desired, observed, plans⟩ := made plan same.symm
      exact ⟨provider, desired, observed, rfl, plans⟩

end Planning

/-! ## Reconciling -/

section Reconciling

open Surroundings

variable {σ : Type} {providers : Dict (Provider σ)} {engine : Engine} {zone : Zone}
variable {plan : ZonePlan} {before middle after : σ}

/-- A zone that cannot be planned is given up in either mode. -/
theorem yields_reconcileZone_of_error {mode : Mode} {error : Error}
    (planning : Yields providers (engine.plan zone) before (.error error) after) :
    Yields providers (engine.reconcileZone mode zone) before (.failed zone.name error) after :=
  (yields_emit _).bind (planning.bind ((yields_emit _).bind (yields_pure _)))

theorem yields_preview (planning : Yields providers (engine.plan zone) before (.ok plan) after) :
    Yields providers (engine.reconcileZone .preview zone) before (.planned plan) after :=
  (yields_emit _).bind (planning.bind (yields_pure _))

theorem yields_push {report : ApplyReport}
    (planning : Yields providers (engine.plan zone) before (.ok plan) middle)
    (applying : Yields providers (engine.apply plan) middle (.ok report) after) :
    Yields providers (engine.reconcileZone .push zone) before (.applied plan report) after :=
  (yields_emit _).bind (planning.bind (applying.bind (yields_pure _)))

end Reconciling

end DnsReconcile
