/-
# Applying

Carrying out the corrections of a plan, one call each, in order. A correction that
fails is reported and neither undone nor repeated; the ones after it still run,
unless the engine is told to stop at the first failure.
-/

import DnsReconcile.Engine.Plan

namespace DnsReconcile

/-- What came of one correction. -/
structure CorrectionOutcome where
  message : String
  result : Except Error Unit

/-- What came of a plan. -/
structure ApplyReport where
  zone : String
  /-- One entry for each correction that was tried, in order. -/
  outcomes : List CorrectionOutcome
  /-- How many corrections were not tried. -/
  skipped : Nat

/-- Whether a correction was carried out. -/
def CorrectionOutcome.succeeded (outcome : CorrectionOutcome) : Bool :=
  match outcome.result with
  | .ok _ => true
  | .error _ => false

namespace ApplyReport

/-- How many corrections were carried out. -/
def succeeded (report : ApplyReport) : Nat :=
  report.outcomes.countP (·.succeeded)

/-- How many corrections failed. -/
def failed (report : ApplyReport) : Nat :=
  report.outcomes.countP fun outcome => !outcome.succeeded

/-- Whether every correction was tried and none failed. -/
def isSuccess (report : ApplyReport) : Bool :=
  report.skipped == 0 && report.failed == 0

/-- The corrections that failed, and why. -/
def failures (report : ApplyReport) : List (String × Error) :=
  report.outcomes.filterMap fun outcome =>
    match outcome.result with
    | .ok _ => none
    | .error error => some (outcome.message, error)

end ApplyReport

namespace Engine

/-- What the listener hears about a correction. -/
def outcomeEvent (zone message : String) : Except Error Unit → Event
  | .ok _ => .correctionApplied zone message
  | .error error => .correctionFailed zone message error.message

/-- Carry out corrections in order. `stopped` says that a failure has already
happened after which no further correction is tried. -/
def applyFrom (stopOnFirstError : Bool) (provider zone : String) (stopped : Bool) :
    List Correction → EngineM (List CorrectionOutcome × Nat)
  | [] => pure ([], 0)
  | correction :: rest =>
      if stopped then pure ([], rest.length + 1)
      else do
        let result ← EngineM.call provider (.write zone correction.action)
        EngineM.emit (outcomeEvent zone correction.message result)
        let outcome : CorrectionOutcome := ⟨correction.message, result⟩
        let (outcomes, skipped) ←
          applyFrom stopOnFirstError provider zone (stopOnFirstError && !outcome.succeeded) rest
        pure (outcome :: outcomes, skipped)

/-- Carry out a plan. -/
def apply (engine : Engine) (plan : ZonePlan) : EngineM (Except Error ApplyReport) :=
  match engine.adapter plan.provider with
  | .error error => pure (.error error)
  | .ok _ => do
      let (outcomes, skipped) ←
        applyFrom engine.stopOnFirstError plan.provider plan.zone false plan.corrections
      let report : ApplyReport := ⟨plan.zone, outcomes, skipped⟩
      EngineM.emit (.zoneApplied plan.zone report.succeeded report.failed)
      pure (.ok report)

end Engine

end DnsReconcile
