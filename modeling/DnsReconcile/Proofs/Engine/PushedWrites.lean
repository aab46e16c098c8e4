/-
# The writes of a push

What reconciling a zone writes, whatever its provider answers. Planning only reads, so a zone
that is given up or previewed has not been touched. A push writes the corrections of its plan
in order, each once, as far as its report goes, and the report tells of each what became of it.
-/

import DnsReconcile.Proofs.Engine.PlanTranscripts

namespace DnsReconcile

/-- An action that a provider instance was asked to carry out in a zone, and what came of it. -/
structure Write where
  provider : String
  zone : String
  action : Action
  result : Except Error Unit

namespace EngineM

/-- The write that an exchange is, if it is one. -/
def write? : Exchange → Option Write
  | ⟨.call provider (.write zone action), result⟩ => some ⟨provider, zone, action, result⟩
  | _ => none

/-- The writes in a transcript. -/
def writes (asked : List Exchange) : List Write :=
  asked.filterMap write?

variable {first second : List Exchange}

theorem Reading.writes_eq_nil (reading : Reading first) : writes first = [] := by
  refine List.filterMap_eq_nil_iff.2 fun exchange member => ?_
  obtain ⟨effect, answer⟩ := exchange
  have own := reading _ member
  cases effect with
  | call provider request =>
      cases request with
      | fetch zone => rfl
      | fetchFeatures zone => rfl
      | write zone action => cases own
  | emit event => rfl
  | warn text => rfl

theorem Reading.writes_append (reading : Reading first) :
    writes (first ++ second) = writes second := by
  rw [writes, List.filterMap_append]
  show writes first ++ writes second = writes second
  rw [reading.writes_eq_nil, List.nil_append]

theorem Reading.append_writes (reading : Reading second) :
    writes (first ++ second) = writes first := by
  rw [writes, List.filterMap_append]
  show writes first ++ writes second = writes first
  rw [reading.writes_eq_nil, List.append_nil]

end EngineM

namespace Engine

open EngineM Program

variable {engine : Engine} {zone : Zone} {asked : List Exchange}
variable {stopOnFirstError : Bool} {provider name : String}
variable {corrections : List Correction} {outcomes : List CorrectionOutcome} {skipped : Nat}

theorem PlanRun.reading {result : Except Error ZonePlan} (run : PlanRun engine zone asked result) :
    Reading asked := by
  cases run with
  | refused _ quiet => exact quiet.reading
  | unlisted _ quiet => exact quiet.reading.append (.cons rfl quiet_nil.reading)
  | incomparable _ quiet => exact quiet.reading.append (.cons rfl quiet_nil.reading)
  | planned _ quiet _ reading => exact quiet.reading.append (.cons rfl reading)

/-! ## Carrying out corrections -/

/-- The write of a correction, with the result that its outcome tells. -/
def writeOf (provider name : String) (correction : Correction) (outcome : CorrectionOutcome) :
    Write :=
  ⟨provider, name, correction.action, outcome.result⟩

/-- How far a series of corrections was carried out. -/
structure Carries (stopOnFirstError : Bool) (provider name : String)
    (corrections : List Correction) (outcomes : List CorrectionOutcome) (skipped : Nat)
    (written : List Write) : Prop where
  /-- The corrections were written in order and each once, as many as there are outcomes. -/
  written : written = (corrections.take outcomes.length).zipWith (writeOf provider name) outcomes
  messages : outcomes.map (·.message) = (corrections.take outcomes.length).map (·.message)
  counted : outcomes.length + skipped = corrections.length
  /-- After a failure nothing more was tried, if the engine is to stop then. -/
  stopped : stopOnFirstError = true → ∀ n outcome, outcomes[n]? = some outcome →
    outcome.succeeded = false → n + 1 = outcomes.length
  /-- Nothing was skipped without a failure. -/
  skipped : 0 < skipped → stopOnFirstError = true ∧
    ∃ outcome, outcomes.getLast? = some outcome ∧ outcome.succeeded = false

section Carrying

variable {correction : Correction} {outcome : CorrectionOutcome} {written : List Write}

theorem carries_nil : Carries stopOnFirstError provider name [] [] 0 [] where
  written := rfl
  messages := rfl
  counted := rfl
  stopped _ _ _ found := by cases found
  skipped positive := absurd positive (Nat.lt_irrefl 0)

/-- The engine stops at a correction that failed. -/
theorem carries_of_failure (named : outcome.message = correction.message)
    (failed : outcome.succeeded = false) :
    Carries true provider name (correction :: corrections) [outcome] corrections.length
      [writeOf provider name correction outcome] where
  written := rfl
  messages := by simp [named]
  counted := Nat.add_comm _ _
  stopped _ n _ found _ := by
    have inside := (List.getElem?_eq_some_iff.1 found).1
    rw [List.length_singleton] at inside ⊢
    omega
  skipped _ := ⟨rfl, outcome, rfl, failed⟩

/-- The engine goes on after a correction. -/
theorem Carries.cons (others : Carries stopOnFirstError provider name corrections outcomes skipped
    written) (named : outcome.message = correction.message)
    (goes_on : stopOnFirstError = true → outcome.succeeded = true) :
    Carries stopOnFirstError provider name (correction :: corrections) (outcome :: outcomes) skipped
      (writeOf provider name correction outcome :: written) where
  written := by rw [others.written]; rfl
  messages := by
    rw [List.length_cons, List.take_succ_cons, List.map_cons, List.map_cons, named,
      others.messages]
  counted := by
    have counted := others.counted
    rw [List.length_cons, List.length_cons]
    omega
  stopped stops n failure found failed := by
    cases n with
    | zero =>
        obtain rfl := Option.some.inj found
        rw [goes_on stops] at failed
        cases failed
    | succ n =>
        rw [List.length_cons, others.stopped stops n failure found failed]
  skipped positive := by
    obtain ⟨stops, failure, last, failed⟩ := others.skipped positive
    refine ⟨stops, failure, ?_, failed⟩
    rw [List.getLast?_cons, last]
    rfl

/-- One correction is written, whatever comes of it, and then the others follow. -/
theorem transcript_applyFrom_cons
    (ran : Transcript (applyFrom stopOnFirstError provider name false (correction :: corrections))
      asked (outcomes, skipped)) :
    ∃ outcome others later, outcome.message = correction.message ∧ outcomes = outcome :: others ∧
      writes asked = writeOf provider name correction outcome :: writes later ∧
      Transcript (applyFrom stopOnFirstError provider name
        (stopOnFirstError && !outcome.succeeded) corrections) later (others, skipped) := by
  obtain ⟨result, told, rfl, tells⟩ := transcript_perform_bind_iff.1 ran
  obtain ⟨-, continued, rfl, continues⟩ := transcript_perform_bind_iff.1 tells
  obtain ⟨later, rest, ⟨others, left⟩, rfl, follow, ended⟩ := transcript_bind_iff.1 continues
  obtain ⟨rfl, same⟩ := transcript_done_iff.1 ended
  obtain ⟨rfl, rfl⟩ := Prod.mk.inj same
  refine ⟨⟨correction.message, result⟩, others, later, rfl, rfl, ?_, follow⟩
  rw [List.append_nil]
  rfl

/-- Once stopped, the engine asks nothing and skips everything. -/
theorem transcript_applyFrom_stopped
    (ran : Transcript (applyFrom stopOnFirstError provider name true corrections) asked
      (outcomes, skipped)) :
    asked = [] ∧ outcomes = [] ∧ skipped = corrections.length := by
  cases corrections <;>
    obtain ⟨rfl, same⟩ := transcript_done_iff.1 ran <;>
    obtain ⟨rfl, rfl⟩ := Prod.mk.inj same <;>
    exact ⟨rfl, rfl, rfl⟩

/-- A run of corrections, whatever they are answered. -/
theorem carries_of_transcript
    (ran : Transcript (applyFrom stopOnFirstError provider name false corrections) asked
      (outcomes, skipped)) :
    Carries stopOnFirstError provider name corrections outcomes skipped (writes asked) := by
  induction corrections generalizing asked outcomes skipped with
  | nil =>
      obtain ⟨rfl, same⟩ := transcript_done_iff.1 ran
      obtain ⟨rfl, rfl⟩ := Prod.mk.inj same
      exact carries_nil
  | cons correction rest ih =>
      obtain ⟨outcome, others, later, named, rfl, written, follow⟩ :=
        transcript_applyFrom_cons ran
      rw [written]
      cases stops : stopOnFirstError && !outcome.succeeded with
      | true =>
          rw [stops] at follow
          obtain ⟨rfl, rfl, rfl⟩ := transcript_applyFrom_stopped follow
          rw [Bool.and_eq_true, Bool.not_eq_true'] at stops
          obtain ⟨rfl, failed⟩ := stops
          exact carries_of_failure named failed
      | false =>
          rw [stops] at follow
          refine (ih follow).cons named fun stopping => ?_
          rw [stopping, Bool.true_and, Bool.not_eq_false'] at stops
          exact stops

/-- If the engine is to stop at failures, there is one at most. -/
theorem Carries.countP_failed_le_one (carries : Carries true provider name corrections outcomes
    skipped written) : (outcomes.countP fun outcome => !outcome.succeeded) ≤ 1 := by
  rcases List.eq_nil_or_concat outcomes with rfl | ⟨front, last, rfl⟩
  · exact Nat.zero_le 1
  · rw [List.concat_eq_append] at carries ⊢
    have front_succeeded : (front.countP fun outcome => !outcome.succeeded) = 0 := by
      refine List.countP_eq_zero.2 fun outcome member failed => ?_
      obtain ⟨n, inside, rfl⟩ := List.getElem_of_mem member
      have found : (front ++ [last])[n]? = some front[n] := by
        rw [List.getElem?_append_left inside, List.getElem?_eq_getElem inside]
      have place := carries.stopped rfl n _ found (by simpa using failed)
      rw [List.length_append, List.length_singleton] at place
      omega
    rw [List.countP_append, front_succeeded, Nat.zero_add]
    exact List.countP_le_length

end Carrying

/-! ## Reconciling -/

/-- How reconciling a zone can go. -/
inductive ZoneRun (engine : Engine) (zone : Zone) : Mode → List Exchange → ZoneOutcome → Prop where
  | failed {mode : Mode} {error : Error} {begun planning ended : List Exchange}
      (quiet : Quiet begun) (run : PlanRun engine zone planning (.error error))
      (quiet' : Quiet ended) :
      ZoneRun engine zone mode (begun ++ planning ++ ended) (.failed zone.name error)
  | planned {plan : ZonePlan} {begun planning : List Exchange} (quiet : Quiet begun)
      (run : PlanRun engine zone planning (.ok plan)) :
      ZoneRun engine zone .preview (begun ++ planning) (.planned plan)
  | applied {plan : ZonePlan} {report : ApplyReport} {begun planning applying : List Exchange}
      (quiet : Quiet begun) (run : PlanRun engine zone planning (.ok plan))
      (carries : Carries engine.stopOnFirstError zone.provider zone.name plan.corrections
        report.outcomes report.skipped (writes applying)) :
      ZoneRun engine zone .push (begun ++ planning ++ applying) (.applied plan report)

theorem transcript_fail {name : String} {error : Error} {outcome : ZoneOutcome}
    (ran : Transcript (fail name error) asked outcome) :
    Quiet asked ∧ outcome = .failed name error := by
  obtain ⟨-, rest, rfl, ended⟩ := transcript_perform_bind_iff.1 ran
  obtain ⟨rfl, rfl⟩ := transcript_done_iff.1 ended
  exact ⟨.cons rfl quiet_nil, rfl⟩

/-- A plan whose provider is known is carried out. -/
theorem carries_of_apply {plan : ZonePlan} {adapter : Adapter} {result : Except Error ApplyReport}
    (known : engine.adapter plan.provider = .ok adapter)
    (ran : Transcript (engine.apply plan) asked result) :
    ∃ report, result = .ok report ∧
      Carries engine.stopOnFirstError plan.provider plan.zone plan.corrections report.outcomes
        report.skipped (writes asked) := by
  unfold apply at ran
  rw [known] at ran
  obtain ⟨first, second, ⟨outcomes, skipped⟩, rfl, carried, tells⟩ := transcript_bind_iff.1 ran
  obtain ⟨-, rest, rfl, ended⟩ := transcript_perform_bind_iff.1 tells
  obtain ⟨rfl, rfl⟩ := transcript_done_iff.1 ended
  refine ⟨_, rfl, ?_⟩
  rw [(Quiet.cons rfl quiet_nil).reading.append_writes]
  exact carries_of_transcript carried

/-- Every run of reconciling goes in one of these ways. Once there is a plan, its provider is
known, so applying it cannot fail as a whole. -/
theorem zoneRun_of_transcript {mode : Mode} {outcome : ZoneOutcome}
    (ran : Transcript (engine.reconcileZone mode zone) asked outcome) :
    ZoneRun engine zone mode asked outcome := by
  obtain ⟨-, begun, rfl, plans⟩ := transcript_perform_bind_iff.1 ran
  obtain ⟨planning, rest, result, rfl, planned, goes_on⟩ := transcript_bind_iff.1 plans
  have run := planRun_of_transcript planned
  have started : Quiet [⟨.emit (.zoneStarted zone.name), ()⟩] := .cons rfl quiet_nil
  cases result with
  | error error =>
      obtain ⟨ended, rfl⟩ := transcript_fail goes_on
      exact .failed started run ended
  | ok plan =>
      cases mode with
      | preview =>
          obtain ⟨rfl, rfl⟩ := transcript_done_iff.1 goes_on
          rw [List.append_nil]
          exact .planned started run
      | push =>
          obtain ⟨applying, ending, result, rfl, applied, ends⟩ := transcript_bind_iff.1 goes_on
          have known : ∃ adapter, engine.adapter plan.provider = .ok adapter := by
            cases run with
            | planned prepared => exact ⟨_, (desiredSide_eq_ok_iff.1 prepared).1⟩
          obtain ⟨adapter, known⟩ := known
          obtain ⟨report, rfl, carries⟩ := carries_of_apply known applied
          obtain ⟨rfl, rfl⟩ := transcript_done_iff.1 ends
          rw [List.append_nil]
          refine .applied started run ?_
          cases run with
          | planned => exact carries

/-- What an outcome of a zone says about the writes that led to it. -/
def Explains (engine : Engine) (zone : Zone) (written : List Write) : ZoneOutcome → Prop
  | .failed _ _ => written = []
  | .planned _ => written = []
  | .applied plan report =>
      Carries engine.stopOnFirstError zone.provider zone.name plan.corrections report.outcomes
          report.skipped written ∧
        (engine.stopOnFirstError = true → report.failed ≤ 1)

theorem ZoneRun.explains {mode : Mode} {outcome : ZoneOutcome}
    (run : ZoneRun engine zone mode asked outcome) :
    Explains engine zone (writes asked) outcome := by
  cases run with
  | failed quiet run quiet' =>
      exact ((quiet.reading.append run.reading).append quiet'.reading).writes_eq_nil
  | planned quiet run => exact (quiet.reading.append run.reading).writes_eq_nil
  | applied quiet run carries =>
      rw [(quiet.reading.append run.reading).writes_append]
      refine ⟨carries, fun stops => ?_⟩
      rw [stops] at carries
      exact carries.countP_failed_le_one

/-- Reconciling a zone always comes to an outcome that explains what was written, in
surroundings that choose every answer by all that was asked and answered before. A zone that was
given up or previewed has not been written to. A push has made the writes of its corrections in
order and each once, up to the number of outcomes, and each outcome has the message of its
correction and the result of its write. What is left was skipped: nothing, unless the engine
stops at failures, and then it is what follows the only failure. -/
theorem pushed_writes_explained (engine : Engine) (mode : Mode) (zone : Zone)
    (respond : List Exchange → (effect : Effect) → effect.Answer) (past : List Exchange) :
    ∃ outcome asked, (engine.reconcileZone mode zone).record respond past =
        (outcome, past ++ asked) ∧
      Explains engine zone (writes asked) outcome := by
  obtain ⟨outcome, asked, ran, transcript⟩ :=
    exists_transcript_record respond (engine.reconcileZone mode zone) past
  exact ⟨outcome, asked, ran, (zoneRun_of_transcript transcript).explains⟩

end Engine

end DnsReconcile
