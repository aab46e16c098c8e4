/-
# Cloudflare as a provider

What Cloudflare decides about records without being asked, and the provider that a
client makes of an endpoint and a network.
-/

import DnsReconcile.Cloudflare.Client
import DnsReconcile.Provider.Basic
import DnsReconcile.Text.Escaped
import DnsReconcile.Text.Octets

namespace DnsReconcile.Cloudflare

/-- Where Cloudflare is asked. -/
def address : String := "https://api.cloudflare.com/client/v4"

namespace Client

/-- The types that Cloudflare keeps or the client manages. -/
def supports (client : Client) : RecordType → Bool
  | .soa => false
  | .redirect | .tempRedirect | .pageRule => client.options.manageRedirects
  | .workerRoute => client.options.manageWorkers
  | _ => true

/-- What decides whether a record has to be modified, besides TTL and payload. -/
def comparable (record : Record) : Dict String :=
  if isProxiable record.type then
    Dict.empty.insert "proxy" (if wantsProxy record then "true" else "false")
  else Dict.empty

/-- Whether the strings of a TXT record are those that Cloudflare makes of one text. -/
def isChunked (strings : List String) : Bool :=
  strings == (Text.chunks (String.join strings).toList).map String.ofList

/-- Refuse a record that Cloudflare cannot hold. -/
def auditRecord (client : Client) (record : Record) : Except Error Unit :=
  if !client.supports record.type then
    Record.refuse record.label record.type "not supported by the Cloudflare provider"
  else
    match record.payload with
    | .txt strings =>
        if isChunked strings then .ok ()
        else
          Record.refuse record.label record.type
            "multiple TXT strings are only supported as 255-byte chunks of one value"
    | _ => .ok ()

/-- What Cloudflare decides on its own. -/
def adapter (client : Client) : Adapter where
  name := providerName
  preprocess := adaptZone client.options
  comparable := comparable
  supports := client.supports
  audit records := records.forM client.auditRecord

/-- Answer a call. -/
def answer (client : Client) : (call : Call) → StateT ZoneIds ServiceM call.Answer
  | .fetch zone => (client.fetch zone).run
  | .fetchFeatures zone => (client.fetchFeatures zone).run
  | .write zone action => (client.write zone action).run

/-- The client that settings describe. -/
def ofSettings (settings : CloudflareSettings) : Client where
  accountId := settings.accountId
  dryRun := settings.dryRun
  options := ⟨settings.manageRedirects, settings.manageWorkers⟩

end Client

/-- What lasts from call to call: the identifiers of zones, and the network. -/
structure Session (ω : Type) where
  network : ω
  zoneIds : ZoneIds := Dict.empty

/-- A client that knows where to ask. -/
structure Connection where
  client : Client
  endpoint : Http.Endpoint
deriving DecidableEq

namespace Connection

/-- The connection that settings describe. Nobody can ask without a token. -/
def ofSettings (address : String) (settings : CloudflareSettings) : Except Error Connection :=
  if settings.apiToken.isEmpty then .error (.config "Cloudflare API token cannot be empty")
  else .ok ⟨.ofSettings settings, .ofAddress address settings.apiToken⟩

/-- Answer a call over a network. -/
def answer {ω : Type} (connection : Connection)
    (network : Http.Message → ω → Http.Reply × ω) (call : Call) (session : Session ω) :
    call.Answer × Session ω :=
  let task := (connection.client.answer call).run session.zoneIds
  let ((answer, zoneIds), state) := task.run (connection.endpoint.send network) session.network
  (answer, ⟨state, zoneIds⟩)

/-- Cloudflare as a provider. -/
def provider {ω : Type} (connection : Connection)
    (network : Http.Message → ω → Http.Reply × ω) : Provider (Session ω) where
  adapter := connection.client.adapter
  answer := connection.answer network

/-- A truth value as the description of a connection shows it. -/
def shownBool (value : Bool) : String :=
  if value then "true" else "false"

/-- A description of a connection that does not give its token away. -/
def describe (connection : Connection) : String :=
  let client := connection.client
  let account := match client.accountId with
    | some account => "Some(" ++ Text.escaped account ++ ")"
    | none => "None"
  "CloudflareProvider \x7b api_token: \"<REDACTED>\", account_id: " ++ account ++
    ", base_url: " ++ Text.escaped connection.endpoint.base ++
    ", dry_run: " ++ shownBool client.dryRun ++
    ", options: Options \x7b manage_redirects: " ++ shownBool client.options.manageRedirects ++
    ", manage_workers: " ++ shownBool client.options.manageWorkers ++ " \x7d \x7d"

end Connection

end DnsReconcile.Cloudflare
