/-
# Reports of a run

What a run prints about its zones and the code with which it exits. The code is
the worst of what happened to any zone.
-/

import DnsReconcile.CommandLine.Environment

namespace DnsReconcile.CommandLine

/-- How a run ended. -/
inductive ExitCode where
  /-- Every zone was reconciled, or could be. -/
  | clean
  /-- The settings are at fault. -/
  | settingsFault
  /-- A provider refused something. -/
  | runtimeFault
deriving Repr, DecidableEq

namespace ExitCode

/-- The number that the program exits with. -/
def toNat : ExitCode → Nat
  | clean => 0
  | settingsFault => 1
  | runtimeFault => 2

/-- The worse of two codes. -/
def worse (first second : ExitCode) : ExitCode :=
  if first.toNat < second.toNat then second else first

/-- The code for what happened to a zone. -/
def ofOutcome : ZoneOutcome → ExitCode
  | .failed _ error => if error.isValidation then settingsFault else runtimeFault
  | .planned _ => clean
  | .applied _ report => if report.isSuccess then clean else runtimeFault

/-- The code for what happened to all zones. -/
def ofOutcomes (outcomes : List ZoneOutcome) : ExitCode :=
  (outcomes.map ofOutcome).foldl worse clean

end ExitCode

/-- A line of the log. -/
structure LogLine where
  level : LogLevel
  text : String

/-- What a run shows. -/
structure Report where
  exit : ExitCode
  /-- What is printed. -/
  lines : List String := []
  log : List LogLine := []

namespace Report

/-- The line that opens what is printed about a zone. -/
def heading (zone : String) : String :=
  "******************** Domain: " ++ zone

/-- What is printed about a correction that was tried. -/
def outcomeLine (outcome : CorrectionOutcome) : String :=
  match outcome.result with
  | .ok _ => "SUCCESS: " ++ outcome.message
  | .error error => "FAILURE: " ++ outcome.message ++ " (" ++ error.message ++ ")"

/-- What is printed about corrections that were not tried. -/
def skippedLines (skipped : Nat) : List String :=
  if skipped = 0 then [] else ["SKIPPED: " ++ toString skipped ++ " correction(s)"]

/-- What is printed about a zone. -/
def zoneLines : ZoneOutcome → List String
  | .failed .. => []
  | .planned plan =>
      heading plan.zone ::
        (plan.corrections.zipIdx 1).map (fun (correction, number) =>
          "#" ++ toString number ++ ": " ++ correction.message) ++
        [toString plan.corrections.length ++ " correction(s)"]
  | .applied plan report =>
      heading plan.zone :: report.outcomes.map outcomeLine ++ skippedLines report.skipped

/-- What the log says about a zone. -/
def zoneLog : ZoneOutcome → List LogLine
  | .failed zone error => [⟨.error, zone ++ ": " ++ error.message⟩]
  | _ => []

/-- The report about zones, after the warnings that came up on the way. -/
def ofOutcomes (warnings : List String) (outcomes : List ZoneOutcome) : Report where
  exit := .ofOutcomes outcomes
  lines := outcomes.flatMap zoneLines
  log := warnings.map (fun text => ⟨.warn, text⟩) ++ outcomes.flatMap zoneLog

/-- The report about settings that do not work. -/
def ofError (error : Error) : Report where
  exit := .settingsFault
  log := [⟨.error, "Configuration error: " ++ error.message⟩]

end Report

end DnsReconcile.CommandLine
