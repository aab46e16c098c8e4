/-
# Planning

What it takes to bring a zone into the desired state. First the desired side is
prepared, which asks nothing of the provider's service: the provider adapts the
zone, its records are brought into canonical form, and zone and provider check
them. Then the observed records are listed and compared. Features are compared
last, and a provider that cannot list them costs only a warning.
-/

import DnsReconcile.Changeset.Comparison
import DnsReconcile.Engine.Event
import DnsReconcile.Program
import DnsReconcile.Provider.Basic
import DnsReconcile.Zone.RecordSet

namespace DnsReconcile

/-- What the engine asks of its surroundings. -/
inductive Effect where
  /-- Call a provider instance. -/
  | call (provider : String) (call : Call)
  /-- Tell the listener. -/
  | emit (event : Event)
  /-- Warn whoever reads the log. -/
  | warn (text : String)

/-- What the engine is given back. -/
abbrev Effect.Answer : Effect → Type
  | .call _ request => request.Answer
  | .emit _ => Unit
  | .warn _ => Unit

/-- A computation of the engine. -/
abbrev EngineM (α : Type) := Program Effect Effect.Answer α

namespace EngineM

/-- Call a provider instance. -/
def call (provider : String) (request : Call) : EngineM request.Answer :=
  Program.perform (Effect.call provider request)

/-- Tell the listener. -/
def emit (event : Event) : EngineM Unit :=
  Program.perform (Effect.emit event)

/-- Warn whoever reads the log. -/
def warn (text : String) : EngineM Unit :=
  Program.perform (Effect.warn text)

/-- Give several warnings in order. -/
def warnAll : List String → EngineM Unit
  | [] => pure ()
  | text :: rest => do
      warn text
      warnAll rest

end EngineM

/-- The corrections for one zone. -/
structure ZonePlan where
  zone : String
  /-- The provider instance that serves the zone. -/
  provider : String
  changes : Changeset
  /-- In the order in which they are applied. -/
  corrections : List Correction

/-- Whether nothing needs to change. -/
def ZonePlan.isEmpty (plan : ZonePlan) : Bool :=
  plan.corrections.isEmpty

namespace Adapter

/-- Bring the records of an adapted zone into canonical form and check them. -/
def check (adapter : Adapter) (matcher : LabelMatcher) (zone : Zone) : Except Error Zone := do
  let records ← RecordSet.normalize (Origin.ofZone zone) zone.records
  let canonical := { zone with records }
  canonical.validate matcher
  adapter.audit records
  return canonical

/-- The desired side of a zone, ready for comparison, and the warnings on the way. -/
def prepare (adapter : Adapter) (matcher : LabelMatcher) (zone : Zone) :
    List String × Except Error Zone :=
  match adapter.preprocess zone with
  | (warnings, .error error) => (warnings, .error error)
  | (warnings, .ok adapted) => (warnings, adapter.check matcher adapted)

/-- Compare the prepared desired side with observed records. -/
def compare (adapter : Adapter) (matcher : LabelMatcher) (desired : Zone)
    (observed : List Record) : Except Error Changeset := do
  let existing ← RecordSet.normalize (Origin.ofZone desired) observed
  Comparison.changes ⟨desired, matcher, adapter.comparable⟩ desired.records existing

end Adapter

/-- The provider instances an engine knows, as far as they decide on their own, and
how it works with them. -/
structure Engine where
  adapters : Dict Adapter
  matcher : LabelMatcher := .glob
  stopOnFirstError : Bool := false

namespace Engine

/-- The refusal of a provider name that nobody has. -/
def unknownProvider (name : String) : Error :=
  .config ("unknown provider '" ++ name ++ "'")

/-- The provider instance with a given name. -/
def adapter (engine : Engine) (name : String) : Except Error Adapter :=
  match engine.adapters.get? name with
  | some adapter => .ok adapter
  | none => .error (unknownProvider name)

/-- The corrections for the features of a prepared zone. -/
def featureCorrections (provider name : String) (desired : Dict Bool) : EngineM (List Correction) :=
  if desired.isEmpty then pure []
  else do
    match ← EngineM.call provider (.fetchFeatures name) with
    | .ok current => pure (Correction.ofFeatures name desired current)
    | .error error => do
        EngineM.warn (name ++ ": cannot read feature state: " ++ error.message)
        pure []

/-- Compare a prepared zone with what its provider serves. -/
def planPrepared (engine : Engine) (adapter : Adapter) (zone desired : Zone) :
    EngineM (Except Error ZonePlan) := do
  match ← EngineM.call zone.provider (.fetch zone.name) with
  | .error error => pure (.error error)
  | .ok observed =>
      match adapter.compare engine.matcher desired observed with
      | .error error => pure (.error error)
      | .ok changes => do
          let toggles ← featureCorrections zone.provider zone.name desired.features
          let corrections := Correction.sequence changes ++ toggles
          EngineM.emit (.zonePlanned zone.name corrections.length)
          pure (.ok ⟨zone.name, zone.provider, changes, corrections⟩)

/-- The corrections for one zone. Nothing is changed. -/
def plan (engine : Engine) (zone : Zone) : EngineM (Except Error ZonePlan) :=
  match engine.adapter zone.provider with
  | .error error => pure (.error error)
  | .ok adapter => do
      let (warnings, prepared) := adapter.prepare engine.matcher zone
      EngineM.warnAll warnings
      match prepared with
      | .error error => pure (.error error)
      | .ok desired => engine.planPrepared adapter zone desired

end Engine

end DnsReconcile
