/-
# Cloudflare's vocabulary

Names and rules that everything about Cloudflare shares: under which keys settings
stand in metadata, which record types can be proxied, and which TTL means that
Cloudflare chooses one.
-/

import DnsReconcile.Record.Basic

namespace DnsReconcile.Cloudflare

/-- The name under which the provider is known. -/
def providerName : String := "cloudflare"

/-- The metadata key of a record for its proxy setting. -/
def proxyKey : String := "cloudflare_proxy"

/-- The metadata key of a zone for the proxy setting of records that have none. -/
def proxyDefaultKey : String := "cloudflare_proxy_default"

/-- The metadata key of a zone for the desired state of Universal SSL. -/
def universalSslKey : String := "cloudflare_universalssl"

/-- The feature that switches Universal SSL. -/
def universalSslFeature : String := "universal_ssl"

/-- The TTL that leaves the choice to Cloudflare. -/
def autoTtl : UInt32 := 1

/-- Which kinds of records besides DNS records are managed. -/
structure Options where
  /-- Forwarding rules. -/
  manageRedirects : Bool := false
  /-- Worker routes. -/
  manageWorkers : Bool := false
deriving Repr, DecidableEq

/-- Whether records of a type can be proxied. -/
def isProxiable : RecordType → Bool
  | .a | .aaaa | .cname | .aliased => true
  | _ => false

/-- Whether a record is meant to be proxied. -/
def wantsProxy (record : Record) : Bool :=
  isProxiable record.type &&
    (match record.metadata.get? proxyKey with
      | some setting => setting != "off"
      | none => false)

/-- A refusal in Cloudflare's name. -/
def refuse {α : Type} (detail : String) : Except Error α :=
  .error (.provider providerName detail)

end DnsReconcile.Cloudflare
