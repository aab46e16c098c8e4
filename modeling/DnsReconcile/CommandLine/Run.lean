/-
# A run of the program

From the content of a settings file to the report: the settings are read and
completed, the provider instances made, and all zones reconciled.
-/

import DnsReconcile.CommandLine.Report
import DnsReconcile.Provider.Instance

namespace DnsReconcile.CommandLine

/-- What is printed about an environment that makes no sense. -/
def complaint (fault : EnvironmentFault) : String :=
  "Configuration error: " ++ fault.message

/-- Read settings from the content of a file, if it has any. -/
def readSettings : Option String → Except Error Settings
  | some content => Settings.read content
  | none => .error .file

variable {ω : Type}

/-- Reconcile the zones of settings whose instances have been made. Nobody listens
to the events, so the channel is as good as closed. -/
def reconcile (mode : Mode) (settings : Settings) (instances : Dict Instance)
    (network : Http.Message → ω → Http.Reply × ω) (state : ω) : Report × ω :=
  let providers := Instance.providers network instances
  let engine := Engine.ofProviders providers settings.engine .glob
  let channel := (Channel.ofCapacity settings.engine.eventChannelCapacity).close
  let surroundings : Surroundings (Services ω) := { services := { network := state }, channel }
  let (result, after) := Surroundings.run providers (engine.reconcile mode settings) surroundings
  let report := match result with
    | .ok outcomes => Report.ofOutcomes after.warnings outcomes
    | .error error => Report.ofError error
  (report, after.services.network)

/-- Reconcile as told, given the content of the settings file. -/
def run (options : RunOptions) (content : Option String)
    (network : Http.Message → ω → Http.Reply × ω) (state : ω) : Report × ω :=
  let prepared : Except Error (Settings × Dict Instance) := do
    let settings := options.complete (← readSettings content)
    let instances ← settings.instances Instance.registry
    return (settings, instances)
  match prepared with
  | .error error => (Report.ofError error, state)
  | .ok (settings, instances) => reconcile options.mode settings instances network state

end DnsReconcile.CommandLine
