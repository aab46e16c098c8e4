/-
# A demonstration

A short program that uses the library: a zone in memory that serves some records
already is previewed, pushed, and previewed again, when there is nothing left to
do. The transcript tells what is printed on the way and what a listener hears.
-/

import DnsReconcile.Engine.Runtime
import DnsReconcile.Provider.Memory
import DnsReconcile.Text.Escaped

namespace DnsReconcile.Demonstration

/-- The zone of the demonstration. -/
def zoneName : String := "example.com"

/-- The name of the only provider instance. -/
def providerName : String := "mem"

/-- The feature that the demonstration switches. -/
def feature : String := "universal_ssl"

/-- Records of given labels, types, contents and TTLs. -/
def recordsOf (entries : List (String × RecordType × String × UInt32)) :
    Except Error (List Record) :=
  entries.mapM fun (label, type, content, ttl) => do
    let record ← Record.read label type content
    return { record with ttl }

/-- The records that the zone should hold. -/
def desired : Except Error (List Record) := recordsOf [
  ("@", .a, "192.0.2.10", 0),
  ("www", .cname, "@", 0),
  ("@", .mx, "10 mail", 0),
  ("mail", .a, "192.0.2.25", 3600),
  ("sub", .ns, "ns1.dns-host.net.", 0),
  ("sub", .ds, "2371 13 2 1F987CC6583E92DF0890718C42D5C0D4A0C3E9AF5A7C7F2D8C3A3E0C1B5D9A11", 0)]

/-- The records that the zone serves at first. -/
def served : Except Error (List Record) := recordsOf [
  ("@", .a, "192.0.2.1", 600),
  ("old", .a, "192.0.2.99", 600),
  ("legacy-app", .a, "192.0.2.50", 600)]

/-- The settings of the demonstration. -/
def settings (records : List Record) : Settings where
  providers := Dict.ofList [(providerName, .memory)]
  zones := [{
    name := zoneName, provider := providerName, records
    defaultTtl := some 600
    ignoreLabels := ["legacy-*"]
    features := Dict.ofList [(feature, false)] }]
  engine := { eventChannelCapacity := 100, maxConcurrentZones := 2 }

/-- The store at first. -/
def stocked (records : List Record) : Store :=
  (({} : Store).seed zoneName records).setFeatures zoneName (Dict.ofList [(feature, true)])

/-- What is printed about a zone. -/
def outcomeLines : ZoneOutcome → List String
  | .failed zone error => ["   " ++ zone ++ ": FAILED: " ++ error.message]
  | .planned plan =>
      ("   " ++ plan.zone ++ ": " ++ toString plan.corrections.length ++ " correction(s)") ::
        plan.corrections.map fun correction => "     - " ++ correction.message
  | .applied plan report =>
      ["   " ++ plan.zone ++ ": " ++ toString report.succeeded ++ " applied, " ++
        toString report.failed ++ " failed"]

/-- What is printed about a record. -/
def recordLine (record : Record) : String :=
  "     " ++ record.fqdn zoneName ++ " " ++ record.type.name ++ " " ++ record.describe

/-- A name with its fields. -/
def tagged (name : String) (fields : List (String × String)) : String :=
  let listed := ", ".intercalate (fields.map fun (field, value) => field ++ ": " ++ value)
  name ++ " \x7b " ++ listed ++ " \x7d"

/-- What is printed about an event. -/
def eventLine (event : Event) : String :=
  let shown (text : String) : String := Text.escaped text
  "   [Event] " ++ match event with
    | .zoneStarted zone => tagged "ZoneStarted" [("zone", shown zone)]
    | .zonePlanned zone corrections =>
        tagged "ZonePlanned" [("zone", shown zone), ("corrections", toString corrections)]
    | .correctionApplied zone message =>
        tagged "CorrectionApplied" [("zone", shown zone), ("message", shown message)]
    | .correctionFailed zone message error =>
        tagged "CorrectionFailed"
          [("zone", shown zone), ("message", shown message), ("error", shown error)]
    | .zoneFailed zone error =>
        tagged "ZoneFailed" [("zone", shown zone), ("error", shown error)]
    | .zoneApplied zone applied failed =>
        tagged "ZoneApplied"
          [("zone", shown zone), ("applied", toString applied), ("failed", toString failed)]

/-- What is printed in the course of the demonstration. -/
structure Transcript where
  /-- What the demonstration itself prints. -/
  lines : List String
  /-- What the listener prints. -/
  events : List String

/-- The demonstration from start to end. -/
def transcript : Except Error Transcript := do
  let settings := settings (← desired)
  let providers : Dict (Provider Store) := Dict.ofList [(providerName, Store.provider)]
  let engine := Engine.ofProviders providers settings.engine .glob
  let pass (mode : Mode) (state : Surroundings Store) :=
    Surroundings.run providers (engine.reconcile mode settings) state
  let channel := Channel.ofCapacity settings.engine.eventChannelCapacity
  let (first, state) := pass .preview { services := stocked (← served), channel }
  let (second, state) := pass .push state
  let (third, state) := pass .preview state
  let lines :=
    ["=== Embedded zonesync-core Example ===", "", "1. Creating engine...", "2. Preview:"] ++
    (← first).flatMap outcomeLines ++
    ["", "3. Push:"] ++ (← second).flatMap outcomeLines ++
    ["", "4. Preview again (expect nothing to do):"] ++ (← third).flatMap outcomeLines ++
    ["", "5. Provider now holds:"] ++ (state.services.records zoneName).map recordLine ++
    ["", "=== Embedding Successful (" ++ toString state.channel.held.length ++ " events) ===",
      "Key Points:",
      "- Providers are passed in explicitly; no global registration",
      "- Preview never writes; push applies corrections in a safe order",
      "- Records at ignored labels (legacy-app) survive purge"]
  return ⟨lines, state.channel.held.map eventLine⟩

end DnsReconcile.Demonstration
