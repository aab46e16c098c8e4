/-
# The environment of a run

What a run of the program is told by environment variables: where its settings
are, whether it changes anything, how much it logs, and the token for instances of
Cloudflare whose settings give none.
-/

import DnsReconcile.Engine.Reconcile

namespace DnsReconcile.CommandLine

/-- How important a line of the log is. -/
inductive LogLevel where
  | trace
  | debug
  | info
  | warn
  | error
deriving Repr, DecidableEq

namespace LogLevel

/-- The level with a given name. -/
def ofName? : String → Option LogLevel
  | "trace" => some .trace
  | "debug" => some .debug
  | "info" => some .info
  | "warn" => some .warn
  | "error" => some .error
  | _ => none

/-- The place of a level among all levels. -/
def rank : LogLevel → Nat
  | trace => 0
  | debug => 1
  | info => 2
  | warn => 3
  | error => 4

end LogLevel

/-- The environment variables that matter, as far as they are set. -/
structure Environment where
  path : Option String := none
  mode : Option String := none
  logLevel : Option String := none
  cloudflareToken : Option String := none

/-- What a run is told. -/
structure RunOptions where
  /-- The file with the settings. -/
  path : String
  mode : Mode
  /-- The least important lines that are logged. -/
  logLevel : LogLevel
  /-- The token for instances without one. -/
  cloudflareToken : Option String

/-- What is wrong with an environment. -/
inductive EnvironmentFault where
  | noPath
  | mode (error : Error)
  | logLevel (name : String)

/-- The wording of what is wrong. -/
def EnvironmentFault.message : EnvironmentFault → String
  | .noPath =>
      "ZONESYNC_CONFIG is required. Set it via: export ZONESYNC_CONFIG=/path/to/zones.json: " ++
        "environment variable not found"
  | .mode error => error.message
  | .logLevel name =>
      "ZONESYNC_LOG_LEVEL '" ++ name ++ "' is not valid. " ++
        "Valid levels: trace, debug, info, warn, error"

namespace Environment

/-- The mode of a run, a preview unless told otherwise. -/
def readMode : Option String → Except EnvironmentFault Mode
  | none => .ok .preview
  | some text => (Mode.read text).mapError .mode

/-- The level of the log, whose name may be written in any case. -/
def readLogLevel : Option String → Except EnvironmentFault LogLevel
  | none => .ok .info
  | some text =>
      let name := String.ofList (Text.lower text.toList)
      match LogLevel.ofName? name with
      | some level => .ok level
      | none => .error (.logLevel name)

/-- What a run is told by its environment. -/
def read (environment : Environment) : Except EnvironmentFault RunOptions := do
  let path ← match environment.path with
    | some path => pure path
    | none => throw .noPath
  let mode ← readMode environment.mode
  let logLevel ← readLogLevel environment.logLevel
  return { path, mode, logLevel
           cloudflareToken := environment.cloudflareToken.filter fun token => !token.isEmpty }

end Environment

/-- The settings of a provider instance with a token, if it is an instance of
Cloudflare without one. -/
def withToken (token : String) : ProviderSettings → ProviderSettings
  | .cloudflare settings =>
      if settings.apiToken.isEmpty then .cloudflare { settings with apiToken := token }
      else .cloudflare settings
  | other => other

/-- Settings completed by what a run is told. -/
def RunOptions.complete (options : RunOptions) (settings : Settings) : Settings :=
  match options.cloudflareToken with
  | some token => { settings with providers := settings.providers.mapValues (withToken token) }
  | none => settings

end DnsReconcile.CommandLine
