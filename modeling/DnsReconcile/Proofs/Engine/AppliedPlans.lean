/-
# Plans that are applied

Whatever has been done to a store before, a plan for one of its zones can be carried out
in full as long as nobody interferes, and the zone then is what the plan announced. This
holds although the plan talks about canonical forms and the store keeps records as they
were written: the identifiers connect the two.
-/

import DnsReconcile.Proofs.Engine.StorePlans

namespace DnsReconcile

namespace Store

variable {matcher : LabelMatcher} {zone : Zone} {store after : Store}
variable {wanted existing : List Record} {changes : Changeset} {plan : ZonePlan}

/-- A store after a plan for one of its zones has been carried out. -/
structure CarriedOut (zone : Zone) (plan : ZonePlan) (before after : Store) : Prop where
  /-- What the plan removes or replaces is the canonical form of one stored record, and
  no other stored record is meant. -/
  meant : ∀ target ∈ targets plan.changes, ∃ stored ∈ before.records zone.name,
    (Origin.ofZone zone).record stored = .ok target ∧
      ∀ other ∈ before.records zone.name, isMeant target other = true ↔ other = stored
  /-- The deleted records are gone, the modified ones are replaced where they stand and
  keep their identifiers, and the created ones follow in the order of the corrections. -/
  records : after.records zone.name =
    (before.records zone.name).filterMap (settled plan.changes) ++
      (before.stampAll (Correction.created plan.corrections)).1
  /-- The features that the zone has are in the desired state, where there is one. -/
  features : ∀ feature, (after.featuresOf zone.name).get? feature =
    ((before.featuresOf zone.name).get? feature).map fun actual =>
      (zone.features.get? feature).getD actual
  /-- Other zones are as they were. -/
  elsewhere : ∀ other, other ≠ zone.name →
    after.records other = before.records other ∧ after.featuresOf other = before.featuresOf other

theorem created_ofFeatures (name : String) (desired current : Dict Bool) :
    Correction.created (Correction.ofFeatures name desired current) = [] := by
  unfold Correction.created Correction.ofFeatures
  rw [List.filterMap_filterMap, List.filterMap_eq_nil_iff]
  rintro ⟨feature, enabled⟩ -
  cases found : current.get? feature with
  | none => simp [found]
  | some actual => by_cases same : actual = enabled <;> simp [found, same]

theorem created_corrections (zone : Zone) (store : Store) (changes : Changeset) :
    Correction.created (store.corrections zone changes) =
      Correction.created (Correction.sequence changes) := by
  have toggles := created_ofFeatures zone.name zone.features (store.featuresOf zone.name)
  simp only [Correction.created] at toggles ⊢
  rw [corrections, List.filterMap_append, toggles, List.append_nil]

/-- What is stored after a plan has been carried out, by its changeset. -/
theorem CarriedOut.records_eq
    (carried_out : CarriedOut zone (store.planOf zone changes) store after) :
    after.records zone.name =
      (store.records zone.name).filterMap (settled changes) ++
        stamped store.issued ((Correction.typeFirst .ns changes.create).map (·.record)) := by
  rw [carried_out.records, planOf_changes, planOf_corrections, stampAll_eq, created_corrections,
    Correction.created_sequence]

/-- The store accepts all corrections of a plan. -/
theorem writeAll_corrections (numbered : store.Numbered)
    (planning : Planning matcher zone store wanted existing changes) :
    ∃ after, store.writeAll zone.name ((store.corrections zone changes).map (·.action)) =
        .ok after ∧
      CarriedOut zone (store.planOf zone changes) store after := by
  obtain ⟨middle, sequence, rewrites⟩ := writeAll_sequence numbered
    (fun target member => planning.targets_known member) (planning.targets_once numbered)
  have same_features (other : String) : middle.featuresOf other = store.featuresOf other := by
    rw [featuresOf, featuresOf, rewrites.features]
  obtain ⟨after, toggles, switches⟩ := writeAll_toggle zone.features.sorted
    fun entry _ => congrArg (Dict.get? · entry.1) (same_features zone.name)
  have same_records (other : String) : after.records other = middle.records other := by
    rw [Store.records, Store.records, switches.zones]
  refine ⟨after, ?_, ?_, ?_, ?_, ?_⟩
  · rw [corrections, List.map_append]
    exact writeAll_append.2 ⟨middle, sequence, toggles⟩
  · intro target member
    obtain ⟨stored, present, form⟩ := planning.exists_stored member
    exact ⟨stored, present, form, fun other present' =>
      isMeant_iff_eq numbered present form present'⟩
  · rw [same_records, rewrites.here, planOf_changes, planOf_corrections, created_corrections,
      stampAll_eq]
  · intro feature
    rw [switches.here, same_features]
    rfl
  · intro other apart
    rw [same_records, rewrites.elsewhere other apart, switches.elsewhere other apart,
      same_features]
    exact ⟨rfl, rfl⟩

end Store

open Store Surroundings

/-- A plan for a zone that a store serves can be applied in full: planning changes nothing,
and if nobody has changed anything since, every correction succeeds and none is skipped,
however the engine deals with failures. The store then is what the plan announced. -/
theorem apply_of_plan (providers : Dict (Provider Store)) (settings : EngineSettings)
    (matcher : LabelMatcher) {zone : Zone} {plan : ZonePlan}
    {state planned start : Surroundings Store}
    (served : providers.get? zone.provider = some Store.provider)
    (reachable : state.services.Reachable)
    (ran : Surroundings.run providers
      ((Engine.ofProviders providers settings matcher).plan zone) state = (.ok plan, planned))
    (untouched : start.services = planned.services) :
    planned.services = state.services ∧
      ∃ report applied, Surroundings.run providers
          ((Engine.ofProviders providers settings matcher).apply plan) start =
          (.ok report, applied) ∧
        report.outcomes = plan.corrections.map Store.success ∧ report.skipped = 0 ∧
        report.isSuccess = true ∧
        CarriedOut zone plan state.services applied.services := by
  have planning : Yields providers ((Engine.ofProviders providers settings matcher).plan zone)
      state.services _ state.services := yields_plan served
  obtain ⟨result, kept⟩ := planning state rfl
  rw [ran] at result kept
  have kept : planned.services = state.services := kept
  obtain ⟨wanted, existing, changes, made, rfl⟩ := plan?_eq_ok_iff.1 result.symm
  obtain ⟨after, written, carried_out⟩ := writeAll_corrections reachable.numbered made
  have applying : Yields providers ((Engine.ofProviders providers settings matcher).apply
      ⟨zone.name, zone.provider, changes, state.services.corrections zone changes⟩)
      state.services _ after := yields_apply served written
  obtain ⟨report, services⟩ := applying start (untouched.trans kept)
  exact ⟨kept, _, _, Prod.ext report rfl, rfl, rfl, isSuccess_of_success _ _,
    services ▸ carried_out⟩

/-- A deletion, a creation, a modification and a feature, all carried out. -/
theorem apply_of_plan_of_four_corrections :
    let providers : Dict (Provider Store) := .ofList [("memory", Store.provider)]
    let zone : Zone :=
      { name := "example.com", provider := "memory", features := .ofList [("dnssec", true)]
        records := [.ofPayload "www" (.cname "new"), .ofPayload "api" (.txt ["new"])] }
    let filled : Store := Store.after {} (.seed "example.com"
      [.ofPayload "WWW" (.cname "old"), .ofPayload "gone" (.txt ["old"])])
    let store := filled.after (.setFeatures "example.com" (.ofList [("dnssec", false)]))
    let engine := Engine.ofProviders providers { stopOnFirstError := true } .glob
    ∃ plan planned report applied,
      Surroundings.run providers (engine.plan zone) ⟨store, .ofCapacity 8, []⟩ =
        (.ok plan, planned) ∧
      plan.corrections.length = 4 ∧
      Surroundings.run providers (engine.apply plan) planned = (.ok report, applied) ∧
      report.isSuccess = true ∧ CarriedOut zone plan store applied.services := by
  intro providers zone filled store engine
  have served : providers.get? zone.provider = some Store.provider := rfl
  have reachable : store.Reachable := (Reachable.empty.after _).after _
  obtain ⟨plan, result, count⟩ := exists_eq_ok_of_map
    (show (Surroundings.run providers (engine.plan zone) ⟨store, .ofCapacity 8, []⟩).1.toOption.map
      (·.corrections.length) = some 4 by decide +kernel)
  have ran := Prod.ext (y := (Except.ok plan, _)) result rfl
  obtain ⟨-, report, applied, pushed, -, -, success, carried_out⟩ :=
    apply_of_plan providers _ _ served reachable ran rfl
  exact ⟨plan, _, report, applied, ran, count, pushed, success, carried_out⟩

end DnsReconcile
