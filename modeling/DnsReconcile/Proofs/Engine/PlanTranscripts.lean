/-
# What planning asks

The transcripts of planning a zone, whatever its provider answers. The zone is prepared before
anything is asked, so a zone that cannot be prepared is refused without a call. Otherwise the
first call lists the records. If they cannot be listed or compared, it is the only call, and if
they can, what follows reads as well.
-/

import DnsReconcile.Proofs.Engine.Transcripts
import DnsReconcile.Proofs.Refusals

namespace DnsReconcile

/-- Whether the effect calls a provider. -/
def Effect.isCall : Effect → Bool
  | .call _ _ => true
  | _ => false

/-- Whether the effect asks a provider to change something. -/
def Effect.isWrite : Effect → Bool
  | .call _ (.write _ _) => true
  | _ => false

theorem Effect.isWrite_of_isCall {effect : Effect} (quiet : effect.isCall = false) :
    effect.isWrite = false := by
  cases effect with
  | call provider request => cases quiet
  | emit event => rfl
  | warn text => rfl

/-- The effect calls no provider, or it asks this one to read. -/
def Effect.ReadsFrom (name : String) : Effect → Prop
  | .call provider request => provider = name ∧ ∀ zone action, request ≠ .write zone action
  | .emit _ | .warn _ => True

theorem Effect.readsFrom_of_isCall {effect : Effect} (name : String)
    (quiet : effect.isCall = false) : effect.ReadsFrom name := by
  cases effect with
  | call provider request => cases quiet
  | emit event => trivial
  | warn text => trivial

theorem Effect.ReadsFrom.isWrite_eq_false {name : String} {effect : Effect}
    (reads : effect.ReadsFrom name) : effect.isWrite = false := by
  cases effect with
  | call provider request =>
      cases request with
      | write zone action => exact absurd rfl (reads.2 zone action)
      | _ => rfl
  | emit event => rfl
  | warn text => rfl

namespace EngineM

/-- An effect of the engine and the answer to it. -/
abbrev Exchange : Type :=
  Program.Exchange Effect Effect.Answer

/-- No provider is called. -/
def Quiet (asked : List Exchange) : Prop :=
  ∀ exchange ∈ asked, exchange.1.isCall = false

/-- Providers are called to read at most. -/
def Reading (asked : List Exchange) : Prop :=
  ∀ exchange ∈ asked, exchange.1.isWrite = false

variable {first second : List Exchange} {exchange : Exchange}

theorem quiet_nil : Quiet [] :=
  fun _ member => absurd member List.not_mem_nil

theorem Quiet.cons (own : exchange.1.isCall = false) (others : Quiet first) :
    Quiet (exchange :: first) :=
  List.forall_mem_cons.2 ⟨own, others⟩

theorem Quiet.reading (quiet : Quiet first) : Reading first :=
  fun exchange member => Effect.isWrite_of_isCall (quiet exchange member)

theorem Reading.append (one : Reading first) (two : Reading second) : Reading (first ++ second) :=
  List.forall_mem_append.2 ⟨one, two⟩

theorem Reading.cons (own : exchange.1.isWrite = false) (others : Reading first) :
    Reading (exchange :: first) :=
  List.forall_mem_cons.2 ⟨own, others⟩

end EngineM

namespace Engine

open EngineM Program

/-- The provider of a zone and the desired side, ready for comparison. -/
def desiredSide (engine : Engine) (zone : Zone) : Except Error (Adapter × Zone) := do
  let adapter ← engine.adapter zone.provider
  let desired ← (adapter.prepare engine.matcher zone).2
  return (adapter, desired)

theorem desiredSide_eq_ok_iff {engine : Engine} {zone desired : Zone} {adapter : Adapter} :
    engine.desiredSide zone = .ok (adapter, desired) ↔
      engine.adapter zone.provider = .ok adapter ∧
        (adapter.prepare engine.matcher zone).2 = .ok desired := by
  simp only [desiredSide, bind_eq_ok_iff, pure_eq_ok_iff, Prod.mk.injEq, exists_eq_right_right]

/-- The desired side of a zone whose provider is known is as that prepares it. -/
theorem desiredSide_of_known {engine : Engine} {zone : Zone} {adapter : Adapter}
    (known : engine.adapter zone.provider = .ok adapter) :
    engine.desiredSide zone =
      (adapter.prepare engine.matcher zone).2 >>= fun desired => pure (adapter, desired) := by
  rw [desiredSide, known]
  rfl

/-- How planning a zone can go. -/
inductive PlanRun (engine : Engine) (zone : Zone) :
    List Exchange → Except Error ZonePlan → Prop where
  | refused {error : Error} {warnings : List Exchange}
      (refused : engine.desiredSide zone = .error error) (quiet : Quiet warnings) :
      PlanRun engine zone warnings (.error error)
  | unlisted {adapter : Adapter} {desired : Zone} {error : Error} {warnings : List Exchange}
      (prepared : engine.desiredSide zone = .ok (adapter, desired)) (quiet : Quiet warnings) :
      PlanRun engine zone (warnings ++ [⟨.call zone.provider (.fetch zone.name), .error error⟩])
        (.error error)
  | incomparable {adapter : Adapter} {desired : Zone} {observed : List Record} {error : Error}
      {warnings : List Exchange} (prepared : engine.desiredSide zone = .ok (adapter, desired))
      (quiet : Quiet warnings)
      (refused : adapter.compare engine.matcher desired observed = .error error) :
      PlanRun engine zone (warnings ++ [⟨.call zone.provider (.fetch zone.name), .ok observed⟩])
        (.error error)
  | planned {adapter : Adapter} {desired : Zone} {observed : List Record} {changes : Changeset}
      {toggles : List Correction} {warnings later : List Exchange}
      (prepared : engine.desiredSide zone = .ok (adapter, desired)) (quiet : Quiet warnings)
      (compared : adapter.compare engine.matcher desired observed = .ok changes)
      (reading : Reading later) :
      PlanRun engine zone
        (warnings ++ ⟨.call zone.provider (.fetch zone.name), .ok observed⟩ :: later)
        (.ok ⟨zone.name, zone.provider, changes, Correction.sequence changes ++ toggles⟩)

variable {engine : Engine} {zone : Zone} {asked : List Exchange}

theorem confined_warnAll (warnings : List String) :
    (warnAll warnings).Confined fun effect => effect.isCall = false := by
  induction warnings with
  | nil => exact trivial
  | cons text rest ih => exact ⟨rfl, fun _ => ih⟩

theorem confined_call {name : String} {call : Call}
    (reading : ∀ zone action, call ≠ .write zone action) :
    (EngineM.call name call).Confined (Effect.ReadsFrom name) :=
  ⟨⟨rfl, reading⟩, fun _ => trivial⟩

theorem confined_featureCorrections (provider name : String) (desired : Dict Bool) :
    (featureCorrections provider name desired).Confined (Effect.ReadsFrom provider) := by
  unfold featureCorrections
  split
  · exact trivial
  · refine (confined_call (by simp)).bind fun answer => ?_
    cases answer with
    | error error => exact ⟨trivial, fun _ => trivial⟩
    | ok current => exact trivial

theorem confined_planPrepared (engine : Engine) (adapter : Adapter) (zone desired : Zone) :
    (engine.planPrepared adapter zone desired).Confined (Effect.ReadsFrom zone.provider) := by
  refine (confined_call (by simp)).bind fun answer => ?_
  split
  · trivial
  · split
    · trivial
    · exact (confined_featureCorrections _ _ _).bind fun _ => ⟨trivial, fun _ => trivial⟩

/-- Planning reads from the provider of the zone and calls no other. -/
theorem confined_plan (engine : Engine) (zone : Zone) :
    (engine.plan zone).Confined (Effect.ReadsFrom zone.provider) := by
  unfold plan
  split
  · trivial
  · have warns (warnings : List String) :
        (warnAll warnings).Confined (Effect.ReadsFrom zone.provider) :=
      (confined_warnAll warnings).mono fun _ => Effect.readsFrom_of_isCall zone.provider
    refine (warns _).bind fun _ => ?_
    split
    · trivial
    · exact confined_planPrepared _ _ _ _

theorem quiet_warnAll {warnings : List String} (ran : Transcript (warnAll warnings) asked ()) :
    Quiet asked :=
  (confined_warnAll warnings).forall_mem ran

theorem reading_featureCorrections {provider name : String} {desired : Dict Bool}
    {toggles : List Correction}
    (ran : Transcript (featureCorrections provider name desired) asked toggles) :
    Reading asked := fun exchange member =>
  ((confined_featureCorrections provider name desired).forall_mem ran exchange
    member).isWrite_eq_false

theorem planRun_of_planPrepared {adapter : Adapter} {desired : Zone} {warnings : List Exchange}
    {result : Except Error ZonePlan}
    (prepared : engine.desiredSide zone = .ok (adapter, desired))
    (quiet : Quiet warnings)
    (ran : Transcript (engine.planPrepared adapter zone desired) asked result) :
    PlanRun engine zone (warnings ++ asked) result := by
  obtain ⟨answer, later, rfl, compares⟩ := transcript_perform_bind_iff.1 ran
  cases answer with
  | error error =>
      obtain ⟨rfl, rfl⟩ := transcript_done_iff.1 compares
      exact .unlisted prepared quiet
  | ok observed =>
      dsimp only at compares
      cases compared : adapter.compare engine.matcher desired observed with
      | error error =>
          rw [compared] at compares
          obtain ⟨rfl, rfl⟩ := transcript_done_iff.1 compares
          exact .incomparable prepared quiet compared
      | ok changes =>
          rw [compared] at compares
          obtain ⟨first, second, toggles, rfl, switches, tells⟩ := transcript_bind_iff.1 compares
          obtain ⟨answer, rest, rfl, ended⟩ := transcript_perform_bind_iff.1 tells
          obtain ⟨rfl, rfl⟩ := transcript_done_iff.1 ended
          exact .planned prepared quiet compared
            ((reading_featureCorrections switches).append (.cons rfl quiet_nil.reading))

/-- Every run of planning goes in one of these ways. -/
theorem planRun_of_transcript {result : Except Error ZonePlan}
    (ran : Transcript (engine.plan zone) asked result) : PlanRun engine zone asked result := by
  unfold plan at ran
  cases known : engine.adapter zone.provider with
  | error error =>
      have refused : engine.desiredSide zone = .error error := by rw [desiredSide, known]; rfl
      rw [known] at ran
      obtain ⟨rfl, rfl⟩ := transcript_done_iff.1 ran
      exact .refused refused quiet_nil
  | ok adapter =>
      have own := desiredSide_of_known known
      rw [known] at ran
      dsimp only at ran
      rcases prepared : adapter.prepare engine.matcher zone with ⟨warnings, error | desired⟩ <;>
        rw [prepared] at own ran <;>
        obtain ⟨first, second, ⟨⟩, rfl, warned, ran⟩ := transcript_bind_iff.1 ran
      case error =>
        obtain ⟨rfl, rfl⟩ := transcript_done_iff.1 ran
        rw [List.append_nil]
        exact .refused own (quiet_warnAll warned)
      case ok => exact planRun_of_planPrepared own (quiet_warnAll warned) ran

end Engine

end DnsReconcile
