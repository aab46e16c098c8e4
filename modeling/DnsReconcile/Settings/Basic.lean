/-
# Settings

The content of a settings file: named provider instances, the zones they serve,
and how the engine runs.
-/

import DnsReconcile.Json.Parser
import DnsReconcile.Settings.Provider
import DnsReconcile.Zone.Basic

namespace DnsReconcile

open Json

/-- How the engine runs. -/
structure EngineSettings where
  /-- How many events are kept for the listener before further ones are dropped. -/
  eventChannelCapacity : Nat := 1000
  /-- How many zones may be reconciled at the same time. -/
  maxConcurrentZones : Nat := 4
  /-- Whether a failed correction makes the engine skip the rest of the zone. -/
  stopOnFirstError : Bool := false
deriving Repr, DecidableEq

/-- The form of engine settings in JSON. -/
def EngineSettings.shape : Shape EngineSettings where
  initial := {}
  fields := [
    .defaulted "event_channel_capacity" (Reader.natBelow UInt64.size) fun draft value =>
      { draft with eventChannelCapacity := value },
    .defaulted "max_concurrent_zones" (Reader.natBelow UInt64.size) fun draft value =>
      { draft with maxConcurrentZones := value },
    .defaulted "stop_on_first_error" Reader.bool fun draft value =>
      { draft with stopOnFirstError := value }]

/-- The content of a settings file. -/
structure Settings where
  providers : Dict ProviderSettings := Dict.empty
  zones : List Zone := []
  engine : EngineSettings := {}

namespace Settings

/-- The form of settings in JSON. -/
def shape : Shape Settings where
  initial := {}
  fields := [
    .required "providers" (Reader.dict ProviderSettings.read) fun draft value =>
      { draft with providers := value },
    .required "zones" (Reader.list Zone.shape.read) fun draft value =>
      { draft with zones := value },
    .defaulted "engine" EngineSettings.shape.read fun draft value =>
      { draft with engine := value }]

/-- Read settings from a text. -/
def read (text : String) : Except Error Settings :=
  ((Json.scan text).read shape.read).mapError Error.json

/-- Refuse settings that cannot work: no zones, a provider that is not usable, or
a zone whose provider does not exist. -/
def validate (settings : Settings) : Except Error Unit :=
  if settings.zones.isEmpty then .error (.config "No zones configured")
  else do
    settings.providers.entries.forM fun (name, provider) =>
      provider.validate.mapError fun error =>
        .config ("provider '" ++ name ++ "': " ++ error.message)
    settings.zones.forM fun zone =>
      if settings.providers.contains zone.provider then .ok ()
      else
        .error (.config
          ("zone '" ++ zone.name ++ "' references unknown provider '" ++ zone.provider ++ "'"))

end Settings

end DnsReconcile
