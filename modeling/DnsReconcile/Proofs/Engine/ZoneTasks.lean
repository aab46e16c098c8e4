/-
# Tasks for one zone

What reconciling a zone asks of a store, call by call: it reads the zone before it writes to
it, and what it writes names records that were there when it read. So the task makes do with a
store that holds the zone alike, and tasks for other zones see nothing of it.
-/

import DnsReconcile.Proofs.Engine.Interleaving
import DnsReconcile.Proofs.Engine.PlannedCorrections
import DnsReconcile.Proofs.Engine.StorePlans
import DnsReconcile.Proofs.Provider.ZoneLikeness

namespace DnsReconcile

namespace Store

open Surroundings

variable {α β : Type} {providers : Dict (Provider Store)} {zone other : String} {start : Store}
variable {fresh : Bool}

/-- A task deals with one zone and calls stores only. While it is fresh it may read, and finds
what the zone held at the start; once it writes, it is no longer fresh. It writes to records
that were given their identifiers before the start. `post` holds of what it comes to. -/
def KeepsTo (providers : Dict (Provider Store)) (zone : String) (start : Store)
    (post : Bool → α → Prop) : Bool → EngineM α → Prop
  | fresh, .done result => post fresh result
  | fresh, .ask (.call target (.fetch name)) next =>
      (providers.get? target = some Store.provider ∧ name = zone ∧ fresh = true) ∧
        KeepsTo providers zone start post fresh (next (.ok (start.records zone)))
  | fresh, .ask (.call target (.fetchFeatures name)) next =>
      (providers.get? target = some Store.provider ∧ name = zone ∧ fresh = true) ∧
        KeepsTo providers zone start post fresh (next (.ok (start.featuresOf zone)))
  | _, .ask (.call target (.write name action)) next =>
      (providers.get? target = some Store.provider ∧ name = zone ∧
          action.NamesEarly start.issued) ∧
        ∀ answer, KeepsTo providers zone start post false (next answer)
  | fresh, .ask (.emit _) next => KeepsTo providers zone start post fresh (next ())
  | fresh, .ask (.warn _) next => KeepsTo providers zone start post fresh (next ())

/-- Two tasks, one after the other. -/
theorem KeepsTo.bind {post : Bool → α → Prop} {post' : Bool → β → Prop} {task : EngineM α}
    {next : α → EngineM β} (first : KeepsTo providers zone start post fresh task)
    (second : ∀ fresh result, post fresh result →
      KeepsTo providers zone start post' fresh (next result)) :
    KeepsTo providers zone start post' fresh (task >>= next) := by
  induction task generalizing fresh with
  | done result => exact second fresh result first
  | ask effect rest ih =>
      cases effect with
      | call target request =>
          cases request with
          | fetch name => exact ⟨first.1, ih _ first.2⟩
          | fetchFeatures name => exact ⟨first.1, ih _ first.2⟩
          | write name action => exact ⟨first.1, fun answer => ih answer (first.2 answer)⟩
      | emit event => exact ih () first
      | warn text => exact ih () first

/-! ## One turn -/

/-- The task for a zone can go on in either of two stores: they hold the zone alike, and as
long as the task is fresh, as it was at the start. -/
structure InStep (providers : Dict (Provider Store)) (zone : String) (start : Store)
    (fresh : Bool) (task : EngineM α) (shared alone : Store) : Prop where
  keeps : KeepsTo providers zone start (fun _ _ => True) fresh task
  alike : AlikeAt start.issued zone shared alone
  unread : fresh = true → ∀ store ∈ [shared, alone],
    store.records zone = start.records zone ∧ store.featuresOf zone = start.featuresOf zone

section Turn

variable {task : EngineM α}

theorem answer_call {name : String} (served : providers.get? name = some Store.provider)
    (request : Call) (state : Surroundings Store) :
    answer providers (.call name request) state =
      ((Store.provider.answer request state.services).1,
        { state with services := (Store.provider.answer request state.services).2 }) := by
  rw [answer, served]

/-- The turn of a task for another zone is not seen. -/
theorem KeepsTo.untold {post : Bool → α → Prop}
    (keeps : KeepsTo providers other start post fresh task) (apart : zone ≠ other)
    (state : Surroundings Store) :
    Untold zone state.services (task.advance (answer providers) state).2.services := by
  have nothing : Untold zone state.services state.services := .refl _ _
  cases task with
  | done result => exact nothing
  | ask effect next =>
      cases effect with
      | call target request =>
          simp only [Program.advance]
          cases request with
          | fetch name =>
              rw [answer_call keeps.1.1]
              exact nothing
          | fetchFeatures name =>
              rw [answer_call keeps.1.1]
              exact nothing
          | write name action =>
              obtain ⟨⟨served, rfl, -⟩, -⟩ := keeps
              rw [answer_call served]
              exact untold_perform _ action apart
      | emit event => exact nothing
      | warn text => exact nothing

/-- After the turn of another task the stores are still in step. -/
theorem InStep.of_untold {shared alone after : Store}
    (step : InStep providers zone start fresh task shared alone)
    (untold : Untold zone shared after) : InStep providers zone start fresh task after alone where
  keeps := step.keeps
  alike := step.alike.of_untold untold
  unread unwritten store member := by
    rcases List.mem_cons.1 member with rfl | last
    · rw [untold.records_eq, untold.featuresOf_eq]
      exact step.unread unwritten shared List.mem_cons_self
    · exact step.unread unwritten store (List.mem_cons_of_mem _ last)

/-- In both stores the task is given the same answer and stays in step. -/
theorem InStep.advance {shared alone : Surroundings Store}
    (step : InStep providers zone start fresh task shared.services alone.services) :
    (task.advance (answer providers) shared).1 = (task.advance (answer providers) alone).1 ∧
      ∃ fresh, InStep providers zone start fresh (task.advance (answer providers) shared).1
        (task.advance (answer providers) shared).2.services
        (task.advance (answer providers) alone).2.services := by
  obtain ⟨keeps, alike, unread⟩ := step
  cases task with
  | done result => exact ⟨rfl, fresh, keeps, alike, unread⟩
  | ask effect next =>
      cases effect with
      | call target request =>
          simp only [Program.advance]
          cases request with
          | fetch name =>
              obtain ⟨⟨served, rfl, unwritten⟩, keeps⟩ := keeps
              obtain ⟨here, -⟩ := unread unwritten shared.services List.mem_cons_self
              obtain ⟨here', -⟩ := unread unwritten alone.services (by simp)
              rw [answer_call served, answer_call served]
              simp only [Store.provider, here, here']
              exact ⟨trivial, fresh, keeps, alike, unread⟩
          | fetchFeatures name =>
              obtain ⟨⟨served, rfl, unwritten⟩, keeps⟩ := keeps
              obtain ⟨-, here⟩ := unread unwritten shared.services List.mem_cons_self
              obtain ⟨-, here'⟩ := unread unwritten alone.services (by simp)
              rw [answer_call served, answer_call served]
              simp only [Store.provider, here, here']
              exact ⟨trivial, fresh, keeps, alike, unread⟩
          | write name action =>
              obtain ⟨⟨served, rfl, early⟩, keeps⟩ := keeps
              rw [answer_call served, answer_call served]
              obtain ⟨same, alike⟩ := alike.perform early
              simp only [Store.provider, same]
              exact ⟨trivial, false, keeps _, alike, nofun⟩
      | emit event => exact ⟨rfl, fresh, keeps, alike, unread⟩
      | warn text => exact ⟨rfl, fresh, keeps, alike, unread⟩

end Turn

/-! ## Reconciling -/

section Reconciling

variable {settings : EngineSettings} {matcher : LabelMatcher} {zone : Zone}

theorem keepsTo_warnAll {name : String} (warnings : List String) :
    KeepsTo providers name start (fun after _ => after = fresh) fresh
      (EngineM.warnAll warnings) := by
  induction warnings with
  | nil => exact rfl
  | cons text rest ih => exact ih

/-- A plan that can be carried out: it is for the zone, its provider is a store, and it names
records by early identifiers only. -/
structure Feasible (providers : Dict (Provider Store)) (name : String) (given : Nat)
    (plan : ZonePlan) : Prop where
  served : providers.get? plan.provider = some Store.provider
  zone : plan.zone = name
  early : ∀ correction ∈ plan.corrections, correction.action.NamesEarly given

/-- Plans name records that are stored. -/
theorem feasible_of_plan? (served : providers.get? zone.provider = some Store.provider)
    (numbered : start.Numbered) {plan : ZonePlan} (found : start.plan? matcher zone = .ok plan) :
    Feasible providers zone.name start.issued plan := by
  obtain ⟨wanted, existing, changes, planning, rfl⟩ := plan?_eq_ok_iff.1 found
  have known {target : Record} (member : target ∈ targets changes) :
      Early start.issued target.id? :=
    numbered.issued zone.name _ (planning.targets_known member)
  refine ⟨served, rfl, fun correction member => ?_⟩
  cases List.mem_append.1 member with
  | inl sequenced =>
      rcases Correction.mem_sequence_iff.1 sequenced with
        ⟨change, deleted, rfl⟩ | ⟨change, -, rfl⟩ | ⟨pair, modified, rfl⟩
      · exact known (List.mem_append_left _ (List.mem_map_of_mem deleted))
      · exact trivial
      · exact known (List.mem_append_right _ (List.mem_map_of_mem modified))
  | inr toggle =>
      obtain ⟨feature, enabled, switches⟩ := Correction.exists_toggle_of_mem_ofFeatures toggle
      rw [switches]
      exact trivial

section Served

variable (served : providers.get? zone.provider = some Store.provider)
include served

theorem keepsTo_featureCorrections (desired : Dict Bool) :
    KeepsTo providers zone.name start
      (fun after result => after = true ∧
        result = Correction.ofFeatures zone.name desired (start.featuresOf zone.name))
      true (Engine.featureCorrections zone.provider zone.name desired) := by
  simp only [Engine.featureCorrections]
  by_cases nothing : desired.isEmpty = true
  · rw [if_pos nothing, Correction.ofFeatures_of_isEmpty nothing]
    exact ⟨rfl, rfl⟩
  · rw [if_neg nothing]
    exact ⟨⟨served, rfl, rfl⟩, rfl, rfl⟩

theorem keepsTo_planPrepared (desired : Zone) :
    KeepsTo providers zone.name start
      (fun after result => after = true ∧ result = do
        let changes ← adapter.compare matcher desired (start.records zone.name)
        return ⟨zone.name, zone.provider, changes,
          Correction.sequence changes ++ Correction.ofFeatures zone.name desired.features
            (start.featuresOf zone.name)⟩)
      true ((Engine.ofProviders providers settings matcher).planPrepared adapter zone desired) := by
  have own_matcher : (Engine.ofProviders providers settings matcher).matcher = matcher := rfl
  have fetch : KeepsTo providers zone.name start
      (fun after result => after = true ∧ result = .ok (start.records zone.name)) true
      (EngineM.call zone.provider (.fetch zone.name)) := ⟨⟨served, rfl, rfl⟩, rfl, rfl⟩
  refine fetch.bind fun fresh observed found => ?_
  obtain ⟨rfl, rfl⟩ := found
  dsimp only
  rw [own_matcher]
  cases adapter.compare matcher desired (start.records zone.name) with
  | error error => exact ⟨rfl, rfl⟩
  | ok changes =>
      refine (keepsTo_featureCorrections served desired.features).bind fun fresh toggles found => ?_
      obtain ⟨rfl, rfl⟩ := found
      exact ⟨rfl, rfl⟩

/-- Planning a zone reads it and comes to the plan for what was there. -/
theorem keepsTo_plan :
    KeepsTo providers zone.name start
      (fun after result => after = true ∧ result = start.plan? matcher zone) true
      ((Engine.ofProviders providers settings matcher).plan zone) := by
  have prepared : adapter.prepare (Engine.ofProviders providers settings matcher).matcher zone =
      ([], adapter.check matcher zone) := rfl
  simp only [Engine.plan, plan?]
  rw [adapter_eq served]
  dsimp only
  rw [prepared]
  refine (keepsTo_warnAll []).bind fun fresh _ still => ?_
  obtain rfl : fresh = true := still
  cases adapter.check matcher zone with
  | error error => exact ⟨rfl, rfl⟩
  | ok desired => exact keepsTo_planPrepared served desired

end Served

theorem keepsTo_applyFrom {plan : ZonePlan} {name : String} {stopOnFirstError stopped : Bool}
    (served : providers.get? plan.provider = some Store.provider) (named : plan.zone = name)
    {corrections : List Correction}
    (early : ∀ correction ∈ corrections, correction.action.NamesEarly start.issued) :
    KeepsTo providers name start (fun _ _ => True) fresh
      (Engine.applyFrom stopOnFirstError plan.provider plan.zone stopped corrections) := by
  induction corrections generalizing fresh stopped with
  | nil => exact trivial
  | cons correction rest ih =>
      cases stopped with
      | true => exact trivial
      | false =>
          obtain ⟨own, others⟩ := List.forall_mem_cons.1 early
          have write : KeepsTo providers name start (fun _ _ => True) fresh
              (EngineM.call plan.provider (.write plan.zone correction.action)) :=
            ⟨⟨served, named, own⟩, fun _ => trivial⟩
          refine write.bind fun fresh result _ => ?_
          exact (ih others).bind fun _ _ _ => trivial

theorem keepsTo_apply {plan : ZonePlan} {name : String} {engine : Engine}
    (feasible : Feasible providers name start.issued plan) :
    KeepsTo providers name start (fun _ _ => True) fresh (engine.apply plan) := by
  simp only [Engine.apply]
  cases engine.adapter plan.provider with
  | error error => exact trivial
  | ok adapter =>
      exact (keepsTo_applyFrom feasible.served feasible.zone feasible.early).bind fun _ _ _ =>
        trivial

/-- Reconciling a zone keeps to it, if its provider is a store or nobody knows its provider. -/
theorem keepsTo_reconcileZone {mode : Mode}
    (served : ∀ provider, providers.get? zone.provider = some provider →
      provider = Store.provider)
    (numbered : start.Numbered) :
    KeepsTo providers zone.name start (fun _ _ => True) true
      ((Engine.ofProviders providers settings matcher).reconcileZone mode zone) := by
  have planning : KeepsTo providers zone.name start
      (fun _ result => ∀ plan, result = .ok plan → Feasible providers zone.name start.issued plan)
      true ((Engine.ofProviders providers settings matcher).plan zone) := by
    cases found : providers.get? zone.provider with
    | none =>
        simp only [Engine.plan]
        rw [adapter_ofProviders, found]
        intro plan planned
        cases planned
    | some provider =>
        obtain rfl := served provider found
        rw [← bind_pure ((Engine.ofProviders providers settings matcher).plan zone)]
        refine (keepsTo_plan found).bind fun _ result came => ?_
        exact fun plan planned => feasible_of_plan? found numbered (came.2 ▸ planned)
  have started : KeepsTo providers zone.name start (fun after _ => after = true) true
      (EngineM.emit (.zoneStarted zone.name)) := rfl
  refine started.bind fun fresh _ still => ?_
  obtain rfl : fresh = true := still
  refine planning.bind fun fresh result feasible => ?_
  cases result with
  | error error => exact trivial
  | ok plan =>
      cases mode with
      | preview => exact trivial
      | push =>
          refine (keepsTo_apply (feasible plan rfl)).bind fun _ report _ => ?_
          cases report <;> exact trivial

end Reconciling

end Store

end DnsReconcile
