/-
# Provider instances

The kinds of instances that can be made from settings, each with the part of a
common state that belongs to it: a store for every instance that keeps its zones
in memory, remembered identifiers for every instance of Cloudflare, and one
network for all of them.
-/

import DnsReconcile.Cloudflare.Provider
import DnsReconcile.Engine.Runtime
import DnsReconcile.Provider.Memory
import DnsReconcile.Provider.Registry

namespace DnsReconcile

/-- An instance made from settings. -/
inductive Instance where
  | memory
  | cloudflare (connection : Cloudflare.Connection)

/-- What belongs to all instances together. -/
structure Services (ω : Type) where
  network : ω
  /-- By the name of the instance. -/
  stores : Dict Store := Dict.empty
  /-- By the name of the instance. -/
  zoneIds : Dict Cloudflare.ZoneIds := Dict.empty

namespace Services

variable {ω : Type}

/-- The store of an instance, which is empty at first. -/
def store (services : Services ω) (name : String) : Store :=
  (services.stores.get? name).getD {}

/-- The session of an instance of Cloudflare, which knows no zones at first. -/
def session (services : Services ω) (name : String) : Cloudflare.Session ω :=
  ⟨services.network, (services.zoneIds.get? name).getD Dict.empty⟩

end Services

namespace Instance

/-- Make an instance that keeps its zones in memory. -/
def memoryFactory : Factory Instance
  | .memory => .ok .memory
  | other =>
      .error (.config ("memory factory cannot build a '" ++ other.typeName ++ "' provider"))

/-- Make an instance of Cloudflare. -/
def cloudflareFactory : Factory Instance
  | .cloudflare settings =>
      (Cloudflare.Connection.ofSettings Cloudflare.address settings).map .cloudflare
  | _ => .error (.config "Invalid config for Cloudflare provider")

/-- The provider types that need no registration by anybody else. -/
def registry : Registry Instance :=
  (({} : Registry Instance).register "memory" memoryFactory).register
    Cloudflare.providerName cloudflareFactory

/-- The name of an instance's type. -/
def providerName : Instance → String
  | .memory => Store.adapter.name
  | .cloudflare _ => Cloudflare.providerName

/-- The instance with a given name as a provider. -/
def provider {ω : Type} (network : Http.Message → ω → Http.Reply × ω) (name : String) :
    Instance → Provider (Services ω)
  | .memory => {
      adapter := Store.adapter
      answer := fun call services =>
        let (answer, store) := Store.provider.answer call (services.store name)
        (answer, { services with stores := services.stores.insert name store }) }
  | .cloudflare connection => {
      adapter := connection.client.adapter
      answer := fun call services =>
        let (answer, session) := connection.answer network call (services.session name)
        (answer, { services with
          network := session.network
          zoneIds := services.zoneIds.insert name session.zoneIds }) }

/-- All instances as providers. -/
def providers {ω : Type} (network : Http.Message → ω → Http.Reply × ω)
    (instances : Dict Instance) : Dict (Provider (Services ω)) :=
  Dict.ofList (instances.entries.map fun (name, made) => (name, made.provider network name))

end Instance

/-- The instances that settings ask for, if the settings make sense. -/
def Settings.instances (settings : Settings) (registry : Registry Instance) :
    Except Error (Dict Instance) := do
  settings.validate
  registry.buildAll settings.providers

end DnsReconcile
