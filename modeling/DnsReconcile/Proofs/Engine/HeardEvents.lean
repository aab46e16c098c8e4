/-
# What the listener hears

The events of a run tell what comes of each zone, and they have no influence on it. What a run tells
does not depend on the channel; the channel then decides how much of it is kept. Main statement:
while nobody receives, a channel holds the beginning of the account that the outcomes of the zones
give of themselves, and the outcomes are the same whatever the capacity is.
-/

import DnsReconcile.Proofs.Engine.Runs
import DnsReconcile.Proofs.Engine.Transcripts

namespace DnsReconcile

/-! ## Channels -/

namespace Channel

/-- Send events one after another. -/
def sendAll (channel : Channel) (events : List Event) : Channel :=
  events.foldl (fun channel event => (channel.send event).2) channel

theorem sendAll_append (channel : Channel) (first second : List Event) :
    channel.sendAll (first ++ second) = (channel.sendAll first).sendAll second :=
  List.foldl_append

/-- As long as nobody receives, a channel holds the first of the events that were sent. -/
theorem held_sendAll {channel : Channel} (listening : channel.listening = true)
    (fits : channel.held.length ≤ channel.capacity) (events : List Event) :
    (channel.sendAll events).held = (channel.held ++ events).take channel.capacity := by
  induction events generalizing channel with
  | nil =>
      rw [List.append_nil, List.take_of_length_le fits]
      rfl
  | cons event events ih =>
      change ((channel.send event).2.sendAll events).held = _
      by_cases room : channel.held.length < channel.capacity
      · let longer : Channel := { channel with held := channel.held ++ [event] }
        have sent : (channel.send event).2 = longer := by simp [send, listening, room, longer]
        have fits : longer.held.length ≤ longer.capacity := by
          rw [List.length_append]
          exact room
        have rest := @ih longer listening fits
        rw [sent, rest, List.append_assoc, List.singleton_append]
      · have sent : (channel.send event).2 = channel := by simp [send, listening, room]
        have full : channel.capacity = channel.held.length :=
          Nat.le_antisymm (Nat.le_of_not_lt room) fits
        rw [sent, ih listening fits, full, List.take_left, List.take_left]

theorem held_sendAll_ofCapacity (capacity : Nat) (events : List Event) :
    ((ofCapacity capacity).sendAll events).held = events.take (max capacity 1) :=
  held_sendAll rfl (Nat.zero_le _) events

end Channel

/-! ## What a computation tells -/

/-- The effect is no event. -/
def Effect.IsSilent : Effect → Prop
  | .emit _ => False
  | .call .. | .warn _ => True

namespace Surroundings

variable {σ α β : Type} {providers : Dict (Provider σ)} {before middle after : σ}
variable {events : List Event}

/-- Whatever channel and log are, a computation that starts on `before` gives `result`, leaves
`after` and sends `events`. -/
structure Tells (providers : Dict (Provider σ)) (task : EngineM α) (before : σ)
    (events : List Event) (result : α) (after : σ) : Prop where
  yields : Yields providers task before result after
  channel : ∀ state : Surroundings σ, state.services = before →
    (run providers task state).2.channel = state.channel.sendAll events

theorem tells_pure (result : α) : Tells providers (pure result) before [] result before :=
  ⟨yields_pure result, fun _ _ => rfl⟩

/-- Two computations, one after the other. -/
theorem Tells.bind {task : EngineM α} {next : α → EngineM β} {later : List Event} {first : α}
    {second : β} (one : Tells providers task before events first middle)
    (two : Tells providers (next first) middle later second after) :
    Tells providers (task >>= next) before (events ++ later) second after := by
  refine ⟨one.yields.bind two.yields, fun state start => ?_⟩
  obtain ⟨result, services⟩ := one.yields state start
  have channel := one.channel state start
  simp only [run] at result services channel ⊢
  rw [Program.run_bind, result, Channel.sendAll_append, ← channel]
  exact two.channel _ services

theorem tells_emit (event : Event) :
    Tells providers (EngineM.emit event) before [event] () before :=
  ⟨yields_emit event, fun _ _ => rfl⟩

theorem exists_tells_call (providers : Dict (Provider σ)) (name : String) (request : Call)
    (before : σ) :
    ∃ result after, Tells providers (EngineM.call name request) before [] result after := by
  have answered (state : Surroundings σ) :
      run providers (EngineM.call name request) state =
        answer providers (.call name request) state := rfl
  cases served : providers.get? name with
  | some provider =>
      refine ⟨_, _, yields_call served request, fun state start => ?_⟩
      rw [answered, answer, served]
      rfl
  | none =>
      refine ⟨request.refuse (Engine.unknownProvider name), before, fun state start => ?_,
        fun state start => ?_⟩ <;> rw [answered, answer, served]
      · exact ⟨rfl, start⟩
      · rfl

/-- A computation that sends no event comes to something, whatever it starts on. -/
theorem exists_tells_of_silent (providers : Dict (Provider σ)) {task : EngineM α}
    (silent : task.Confined Effect.IsSilent) (before : σ) :
    ∃ result after, Tells providers task before [] result after := by
  induction task generalizing before with
  | done result => exact ⟨result, before, tells_pure result⟩
  | ask effect next ih =>
      have goes_on {answer : effect.Answer} {middle : σ}
          (first : Tells providers (Program.perform effect) before [] answer middle) :
          ∃ result after, Tells providers (.ask effect next) before [] result after := by
        obtain ⟨result, after, rest⟩ := ih answer (silent.2 answer) middle
        exact ⟨result, after, first.bind rest⟩
      cases effect with
      | call name request =>
          obtain ⟨answer, middle, called⟩ := exists_tells_call providers name request before
          exact goes_on called
      | emit event => exact silent.1.elim
      | warn text => exact goes_on ⟨yields_warn text, fun _ _ => rfl⟩

end Surroundings

/-! ## Planning -/

namespace Engine

open Surroundings

variable {σ : Type} {providers : Dict (Provider σ)} {engine : Engine} {zone : Zone}

theorem silent_warnAll (warnings : List String) :
    (EngineM.warnAll warnings).Confined Effect.IsSilent := by
  induction warnings with
  | nil => trivial
  | cons text rest ih => exact ⟨trivial, fun _ => ih⟩

theorem silent_featureCorrections (provider name : String) (desired : Dict Bool) :
    (featureCorrections provider name desired).Confined Effect.IsSilent := by
  unfold featureCorrections
  split
  · trivial
  · refine ⟨trivial, fun answer => ?_⟩
    cases answer with
    | error error => exact ⟨trivial, fun _ => trivial⟩
    | ok current => trivial

/-- The event of a plan, if there is one. -/
def planEvents : Except Error ZonePlan → List Event
  | .error _ => []
  | .ok plan => [.zonePlanned plan.zone plan.corrections.length]

/-- A result of planning a zone is for the zone and for its provider, which is known. -/
def IsFor (engine : Engine) (zone : Zone) (result : Except Error ZonePlan) : Prop :=
  ∀ plan, result = .ok plan →
    plan.zone = zone.name ∧ ∃ adapter, engine.adapter plan.provider = .ok adapter

theorem exists_tells_planPrepared (providers : Dict (Provider σ)) {adapter : Adapter}
    (known : engine.adapter zone.provider = .ok adapter) (desired : Zone) (before : σ) :
    ∃ result after, Tells providers (engine.planPrepared adapter zone desired) before
      (planEvents result) result after ∧ engine.IsFor zone result := by
  obtain ⟨listed, middle, fetched⟩ :=
    exists_tells_call providers zone.provider (.fetch zone.name) before
  unfold planPrepared
  cases listed with
  | error error => exact ⟨.error error, middle, fetched.bind (tells_pure _), nofun⟩
  | ok observed =>
      cases compared : adapter.compare engine.matcher desired observed with
      | error error =>
          refine ⟨.error error, middle, fetched.bind ?_, nofun⟩
          dsimp only
          rw [compared]
          exact tells_pure _
      | ok changes =>
          obtain ⟨toggles, after, switched⟩ := exists_tells_of_silent providers
            (silent_featureCorrections zone.provider zone.name desired.features) middle
          refine ⟨.ok ⟨zone.name, zone.provider, changes, Correction.sequence changes ++ toggles⟩,
            after, fetched.bind ?_, ?_⟩
          · dsimp only
            rw [compared]
            exact switched.bind ((tells_emit _).bind (tells_pure _))
          · rintro plan ⟨⟩
            exact ⟨rfl, adapter, known⟩

/-- Planning tells how many corrections there are, if there is a plan, and nothing else. -/
theorem exists_tells_plan (providers : Dict (Provider σ)) (engine : Engine) (zone : Zone)
    (before : σ) :
    ∃ result after, Tells providers (engine.plan zone) before (planEvents result) result after ∧
      engine.IsFor zone result := by
  unfold plan
  cases known : engine.adapter zone.provider with
  | error error => exact ⟨.error error, before, tells_pure _, nofun⟩
  | ok adapter =>
      dsimp only
      rcases adapter.prepare engine.matcher zone with ⟨warnings, prepared⟩
      obtain ⟨⟨⟩, middle, warned⟩ :=
        exists_tells_of_silent providers (silent_warnAll warnings) before
      cases prepared with
      | error error => exact ⟨.error error, middle, warned.bind (tells_pure _), nofun⟩
      | ok desired =>
          obtain ⟨result, after, planned, own⟩ :=
            exists_tells_planPrepared providers known desired middle
          exact ⟨result, after, warned.bind planned, own⟩

/-! ## Applying -/

/-- The events of corrections that were tried. -/
def outcomeEvents (zone : String) (outcomes : List CorrectionOutcome) : List Event :=
  outcomes.map fun outcome => outcomeEvent zone outcome.message outcome.result

theorem exists_tells_applyFrom (providers : Dict (Provider σ)) (stopOnFirstError : Bool)
    (provider zone : String) (stopped : Bool) (corrections : List Correction) (before : σ) :
    ∃ outcomes skipped after,
      Tells providers (applyFrom stopOnFirstError provider zone stopped corrections) before
        (outcomeEvents zone outcomes) (outcomes, skipped) after := by
  induction corrections generalizing stopped before with
  | nil => exact ⟨[], 0, before, tells_pure _⟩
  | cons correction rest ih =>
      cases stopped with
      | true => exact ⟨[], rest.length + 1, before, tells_pure _⟩
      | false =>
          obtain ⟨result, middle, written⟩ := exists_tells_call providers provider
            (.write zone correction.action) before
          let outcome : CorrectionOutcome := ⟨correction.message, result⟩
          obtain ⟨outcomes, skipped, after, others⟩ :=
            ih (stopOnFirstError && !outcome.succeeded) middle
          have events : outcomeEvents zone (outcome :: outcomes) =
              [] ++ ([outcomeEvent zone correction.message result] ++
                (outcomeEvents zone outcomes ++ [])) := by
            rw [List.append_nil]
            rfl
          refine ⟨outcome :: outcomes, skipped, after, ?_⟩
          rw [events]
          exact written.bind ((tells_emit _).bind (others.bind (tells_pure _)))

/-- Applying a plan tells what came of each correction that was tried, and then of all. -/
theorem exists_tells_apply (providers : Dict (Provider σ)) {plan : ZonePlan} {adapter : Adapter}
    (known : engine.adapter plan.provider = .ok adapter) (before : σ) :
    ∃ report after, Tells providers (engine.apply plan) before
      (outcomeEvents plan.zone report.outcomes ++
        [.zoneApplied plan.zone report.succeeded report.failed]) (.ok report) after := by
  obtain ⟨outcomes, skipped, after, carried⟩ := exists_tells_applyFrom providers
    engine.stopOnFirstError plan.provider plan.zone false plan.corrections before
  refine ⟨⟨plan.zone, outcomes, skipped⟩, after, ?_⟩
  unfold apply
  rw [known]
  exact carried.bind ((tells_emit _).bind (tells_pure _))

end Engine

/-! ## Reconciling -/

/-- What the listener is told of a zone that comes to an outcome. -/
def ZoneOutcome.events : ZoneOutcome → List Event
  | .failed zone error => [.zoneStarted zone, .zoneFailed zone error.message]
  | .planned plan => [.zoneStarted plan.zone, .zonePlanned plan.zone plan.corrections.length]
  | .applied plan report =>
      .zoneStarted plan.zone :: .zonePlanned plan.zone plan.corrections.length ::
        (Engine.outcomeEvents plan.zone report.outcomes ++
          [.zoneApplied plan.zone report.succeeded report.failed])

namespace Engine

open Surroundings

variable {σ : Type} {providers : Dict (Provider σ)} {engine : Engine} {mode : Mode}

/-- What a zone comes to: it is given up if it cannot be planned, its plan is shown in a preview,
and in a push it is applied. -/
inductive ComesTo (providers : Dict (Provider σ)) (engine : Engine) (zone : Zone) (before : σ) :
    Mode → ZoneOutcome → σ → Prop where
  | failed {mode : Mode} {error : Error} {after : σ}
      (planning : Yields providers (engine.plan zone) before (.error error) after) :
      ComesTo providers engine zone before mode (.failed zone.name error) after
  | planned {plan : ZonePlan} {after : σ} (named : plan.zone = zone.name)
      (planning : Yields providers (engine.plan zone) before (.ok plan) after) :
      ComesTo providers engine zone before .preview (.planned plan) after
  | applied {plan : ZonePlan} {report : ApplyReport} {middle after : σ}
      (named : plan.zone = zone.name)
      (planning : Yields providers (engine.plan zone) before (.ok plan) middle)
      (applying : Yields providers (engine.apply plan) middle (.ok report) after) :
      ComesTo providers engine zone before .push (.applied plan report) after

/-- What zones come to one after another, each on what the one before it has left. -/
inductive AllCome (providers : Dict (Provider σ)) (engine : Engine) (mode : Mode) :
    List Zone → σ → List ZoneOutcome → σ → Prop where
  | nil {services : σ} : AllCome providers engine mode [] services [] services
  | cons {zone : Zone} {zones : List Zone} {outcome : ZoneOutcome} {outcomes : List ZoneOutcome}
      {before middle after : σ} (first : ComesTo providers engine zone before mode outcome middle)
      (others : AllCome providers engine mode zones middle outcomes after) :
      AllCome providers engine mode (zone :: zones) before (outcome :: outcomes) after

/-- Reconciling a zone tells what its outcome says. -/
theorem exists_tells_reconcileZone (providers : Dict (Provider σ)) (engine : Engine) (mode : Mode)
    (zone : Zone) (before : σ) :
    ∃ outcome after, Tells providers (engine.reconcileZone mode zone) before outcome.events outcome
      after ∧ ComesTo providers engine zone before mode outcome after := by
  obtain ⟨result, middle, planning, own⟩ :=
    exists_tells_plan providers engine zone before
  have started : Tells providers (EngineM.emit (.zoneStarted zone.name)) before _ _ _ :=
    tells_emit _
  cases result with
  | error error =>
      refine ⟨.failed zone.name error, middle, ?_, .failed planning.yields⟩
      exact started.bind (planning.bind ((tells_emit _).bind (tells_pure _)))
  | ok plan =>
      obtain ⟨named, adapter, known⟩ := own plan rfl
      cases mode with
      | preview =>
          have events : (ZoneOutcome.planned plan).events =
              [.zoneStarted zone.name] ++ (planEvents (.ok plan) ++ []) := by
            rw [← named]
            rfl
          refine ⟨.planned plan, middle, ?_, .planned named planning.yields⟩
          rw [events]
          exact started.bind (planning.bind (tells_pure _))
      | push =>
          obtain ⟨report, after, applying⟩ := exists_tells_apply providers known middle
          have events : (ZoneOutcome.applied plan report).events =
              [.zoneStarted zone.name] ++ (planEvents (.ok plan) ++
                ((outcomeEvents plan.zone report.outcomes ++
                  [.zoneApplied plan.zone report.succeeded report.failed]) ++ [])) := by
            rw [← named, List.append_nil]
            rfl
          refine ⟨.applied plan report, after, ?_, .applied named planning.yields applying.yields⟩
          rw [events]
          exact started.bind (planning.bind (applying.bind (tells_pure _)))

/-- Reconciling zones one after another tells what the outcomes say, in order. -/
theorem exists_tells_reconcileZones (providers : Dict (Provider σ)) (engine : Engine) (mode : Mode)
    (zones : List Zone) (before : σ) :
    ∃ outcomes after, Tells providers (engine.reconcileZones mode zones) before
      (outcomes.flatMap ZoneOutcome.events) outcomes after ∧
        AllCome providers engine mode zones before outcomes after := by
  induction zones generalizing before with
  | nil => exact ⟨[], before, tells_pure [], .nil⟩
  | cons zone rest ih =>
      obtain ⟨outcome, middle, told, comes⟩ :=
        exists_tells_reconcileZone providers engine mode zone before
      obtain ⟨outcomes, after, others, come⟩ := ih middle
      have events : (outcome :: outcomes).flatMap ZoneOutcome.events =
          outcome.events ++ (outcomes.flatMap ZoneOutcome.events ++ []) := by
        rw [List.append_nil, List.flatMap_cons]
      refine ⟨outcome :: outcomes, after, ?_, .cons comes come⟩
      rw [events]
      exact told.bind (others.bind (tells_pure _))

/-- Zones that are reconciled one after another come to the same outcomes on every channel. While
nobody receives, the channel holds the first events, as many as it can hold, of those that the
outcomes tell: that a zone was started; that it was given up and why, or how many corrections it
has; and if these are carried out, what came of each and how many succeeded and failed. -/
theorem events_mirror_outcomes (providers : Dict (Provider σ)) (engine : Engine) (mode : Mode)
    (zones : List Zone) (services : σ) :
    ∃ outcomes after, AllCome providers engine mode zones services outcomes after ∧
      ∀ (capacity : Nat) (warnings : List String),
        let ran := Surroundings.run providers (engine.reconcileZones mode zones)
          ⟨services, .ofCapacity capacity, warnings⟩
        ran.1 = outcomes ∧ ran.2.services = after ∧
          ran.2.channel.held = (outcomes.flatMap ZoneOutcome.events).take (max capacity 1) := by
  obtain ⟨outcomes, after, told, come⟩ :=
    exists_tells_reconcileZones providers engine mode zones services
  refine ⟨outcomes, after, come, fun capacity warnings => ?_⟩
  let start : Surroundings σ := ⟨services, .ofCapacity capacity, warnings⟩
  obtain ⟨result, left⟩ := told.yields start rfl
  refine ⟨result, left, ?_⟩
  rw [told.channel start rfl]
  exact Channel.held_sendAll_ofCapacity capacity _

end Engine

end DnsReconcile
