/-
# Reconciling

Planning a zone and, unless this is only a preview, applying the plan. A zone that
fails does not keep others from being reconciled.
-/

import DnsReconcile.Engine.Apply
import DnsReconcile.Settings.Basic

namespace DnsReconcile

/-- Whether corrections are only shown or also carried out. -/
inductive Mode where
  | preview
  | push
deriving Repr, DecidableEq

namespace Mode

/-- The name of a mode. -/
def name : Mode → String
  | preview => "preview"
  | push => "push"

/-- The mode that a text names, in any case and with blanks around it. -/
def read (text : String) : Except Error Mode :=
  let name := String.ofList (Text.asciiLower (Text.trim text.toList))
  if name = "preview" then .ok preview
  else if name = "push" then .ok push
  else .error (.config ("unknown mode '" ++ name ++ "' (expected preview or push)"))

end Mode

/-- What came of a zone. -/
inductive ZoneOutcome where
  /-- It was given up before anything was changed. -/
  | failed (zone : String) (error : Error)
  /-- Its corrections are known and were not carried out. -/
  | planned (plan : ZonePlan)
  /-- Its corrections were carried out, with the success that the report tells. -/
  | applied (plan : ZonePlan) (report : ApplyReport)

namespace ZoneOutcome

/-- The zone that an outcome is about. -/
def zone : ZoneOutcome → String
  | failed zone _ => zone
  | planned plan => plan.zone
  | applied plan _ => plan.zone

/-- Whether the zone was not given up and no correction failed. -/
def isSuccess : ZoneOutcome → Bool
  | failed .. => false
  | planned _ => true
  | applied _ report => report.isSuccess

/-- Whether the zone was given up because of its settings. -/
def isValidationFailure : ZoneOutcome → Bool
  | failed _ error => error.isValidation
  | _ => false

end ZoneOutcome

namespace Engine

/-- Give a zone up. -/
def fail (zone : String) (error : Error) : EngineM ZoneOutcome := do
  EngineM.emit (.zoneFailed zone error.message)
  pure (.failed zone error)

/-- Plan a zone and, in push mode, apply the plan. -/
def reconcileZone (engine : Engine) (mode : Mode) (zone : Zone) : EngineM ZoneOutcome := do
  EngineM.emit (.zoneStarted zone.name)
  match ← engine.plan zone with
  | .error error => fail zone.name error
  | .ok plan =>
      match mode with
      | .preview => pure (.planned plan)
      | .push => do
          match ← engine.apply plan with
          | .error error => fail zone.name error
          | .ok report => pure (.applied plan report)

/-- Reconcile zones one after another. -/
def reconcileZones (engine : Engine) (mode : Mode) : List Zone → EngineM (List ZoneOutcome)
  | [] => pure []
  | zone :: rest => do
      let outcome ← engine.reconcileZone mode zone
      let others ← engine.reconcileZones mode rest
      pure (outcome :: others)

/-- Reconcile the zones of a settings file, if the settings make sense. -/
def reconcile (engine : Engine) (mode : Mode) (settings : Settings) :
    EngineM (Except Error (List ZoneOutcome)) :=
  match settings.validate with
  | .error error => pure (.error error)
  | .ok _ => do
      let outcomes ← engine.reconcileZones mode settings.zones
      pure (.ok outcomes)

end Engine

end DnsReconcile
