/-
# Asking Cloudflare

What a provider does for a zone, as a computation that sends requests and gets
replies. Zones are known to Cloudflare by identifiers, which are looked up once
and remembered. Listings come in pages. Every write is a single request, and in a
dry run it is left out; what is read is the same either way.
-/

import DnsReconcile.Cloudflare.Desired
import DnsReconcile.Cloudflare.EntryRecord
import DnsReconcile.Cloudflare.Envelope
import DnsReconcile.Http.Endpoint
import DnsReconcile.Http.Status
import DnsReconcile.Correction
import DnsReconcile.Program
import DnsReconcile.Settings.Provider

namespace DnsReconcile.Cloudflare

open Json

/-- A computation that sends requests. -/
abbrev ServiceM (α : Type) := Program Http.Request (fun _ => Http.Reply) α

/-- The identifiers of zones that have been looked up. -/
abbrev ZoneIds := Dict String

/-- A computation that sends requests, remembers identifiers of zones, and may be
refused. What it remembered stays when it is refused. -/
abbrev ClientM (α : Type) := ExceptT Error (StateT ZoneIds ServiceM) α

/-- Who asks Cloudflare, and in which way. -/
structure Client where
  /-- The only account whose zones are served. -/
  accountId : Option String := none
  /-- Whether writes are left out. -/
  dryRun : Bool := false
  options : Options := {}
deriving Repr, DecidableEq

/-! ### Replies -/

/-- A text without the mark that may show its byte order. -/
def withoutMark (text : String) : String :=
  match text.toList with
  | '\uFEFF' :: rest => String.ofList rest
  | _ => text

/-- The error for a response that does not tell of success. -/
def statusError (status : Nat) (path body : String) : Error :=
  let shown := Http.Status.print status
  if status = 401 ∨ status = 403 then
    .authentication ("Invalid API token or insufficient permissions. Status: " ++ shown)
  else if status = 404 then .notFound (path ++ " not found")
  else if status = 409 then .provider providerName ("Conflict on " ++ path ++ ": " ++ body)
  else if status = 429 then
    .rateLimited ("Rate limit exceeded. Please retry later. Status: " ++ shown)
  else if 500 ≤ status ∧ status ≤ 599 then
    .provider providerName ("Cloudflare server error (transient): " ++ shown ++ " - " ++ body)
  else .provider providerName (path ++ " failed: " ++ shown ++ " - " ++ body)

/-- The envelope in a reply, if it tells of success in every way. -/
def Envelope.ofReply {α : Type} (read : Reader α) (path : String) :
    Http.Reply → Except Error (Envelope α)
  | .failure reason => .error (.http ("request to " ++ path ++ " failed: " ++ reason))
  | .response status body =>
      if !Http.Status.isSuccess status then .error (statusError status path (withoutMark body))
      else
        match Envelope.read? read body with
        | none =>
            refuse ("failed to parse response from " ++ path ++ ": error decoding response body")
        | some envelope =>
            if envelope.success then .ok envelope
            else refuse (path ++ " failed: " ++ envelope.complaintText)

namespace ClientM

/-- Send a request. -/
def send (request : Http.Request) : ClientM Http.Reply :=
  ExceptT.lift (StateT.lift (Program.perform request))

/-- Go on with a result or be refused. -/
def ofExcept {α : Type} (result : Except Error α) : ClientM α :=
  ExceptT.mk (pure result)

end ClientM

/-- Send a request and open the envelope in the reply. -/
def call {α : Type} (read : Reader α) (request : Http.Request) : ClientM (Envelope α) := do
  let reply ← ClientM.send request
  ClientM.ofExcept (Envelope.ofReply read request.path reply)

/-! ### Listings -/

/-- How many items a page has. -/
def pageSize : Nat := 100

/-- The request for a page of a listing. -/
def pageRequest (path : String) (page : UInt32) : Http.Request where
  method := .get
  path := path
  query := [("page", toString page), ("per_page", toString pageSize)]

/-- How many pages a listing has at most. -/
def pageLimit : Nat := UInt32.size

/-- The refusal of a listing that goes back to pages it has been on. -/
def endlessListing (path : String) : Error :=
  .provider providerName (path ++ ": the listing has no end")

/-- The items of a listing from a page on, if there are not too many pages. -/
def listFrom {α : Type} (read : Reader α) (path : String) : Nat → UInt32 → ClientM (List α)
  | 0, _ => throw (endlessListing path)
  | limit + 1, page => do
      let envelope ← call (Reader.list read) (pageRequest path page)
      let items := envelope.result.getD []
      match envelope.paging.bind Paging.next? with
      | none => return items
      | some next => do
          let others ← listFrom read path limit next
          return items ++ others

/-- All items of a listing. -/
def listAll {α : Type} (read : Reader α) (path : String) : ClientM (List α) :=
  listFrom read path pageLimit 1

/-- The items of a listing that has only one page. -/
def listOnce {α : Type} (read : Reader α) (path : String) : ClientM (List α) := do
  let envelope ← call (Reader.list read) { method := .get, path }
  return envelope.result.getD []

/-! ### Zones and their collections -/

/-- A zone as Cloudflare has it. -/
structure ZoneEntry where
  id : String := ""
  name : String := ""
deriving Repr, DecidableEq

/-- The form of a zone in JSON. -/
def ZoneEntry.shape : Shape ZoneEntry where
  initial := {}
  fields := [
    .required "id" Reader.text fun draft value => { draft with id := value },
    .required "name" Reader.text fun draft value => { draft with name := value }]

/-- The path of a zone's features of encryption. -/
def sslPath (zoneId : String) : String :=
  "/zones/" ++ zoneId ++ "/ssl/universal/settings"

/-- The path of the collection that holds records of a type. -/
def collectionPath (zoneId : String) : RecordType → String
  | .pageRule => "/zones/" ++ zoneId ++ "/pagerules"
  | .workerRoute => "/zones/" ++ zoneId ++ "/workers/routes"
  | _ => "/zones/" ++ zoneId ++ "/dns_records"

/-- The path of a record in a collection. -/
def recordPath (zoneId : String) (type : RecordType) (id : String) : String :=
  collectionPath zoneId type ++ "/" ++ id

/-- What Cloudflare is sent for a record. -/
def recordBody (zone : String) (record : Record) (proxied : Bool) : Except Error Json :=
  match record.type with
  | .pageRule =>
      (Forwarding.read record.payload.print).map fun forwarding => forwarding.rule.toJson
  | .workerRoute => (WorkerRoute.read record.payload.print).map (·.toJson)
  | _ => (Entry.ofRecord zone record proxied).map (·.toJson)

/-- The identifier that Cloudflare has given a record. -/
def recordId (record : Record) : Except Error String :=
  match record.ref with
  | some ref => if ref.id.isEmpty then missing else .ok ref.id
  | none => missing
where
  missing : Except Error String :=
    refuse (record.type.name ++ " " ++ record.label ++ " has no Cloudflare id")

/-- Whether Cloudflare would proxy a record. It would, unless it has said otherwise. -/
def mayProxy (existing : Record) : Bool :=
  match existing.ref with
  | some ref => ((ref.extra.member? "proxiable").bind Json.bool?).getD true
  | none => true

namespace Client

variable (client : Client)

/-- The request that looks a zone up. -/
def lookupRequest (zone : String) : Http.Request where
  method := .get
  path := "/zones"
  query := ("name", zone) ::
    (match client.accountId with
      | some account => [("account.id", account)]
      | none => [])

/-- Look up the identifier of a zone. -/
def lookupZone (zone : String) : ClientM String := do
  let envelope ← call (Reader.list ZoneEntry.shape.read) (client.lookupRequest zone)
  let isMeant (entry : ZoneEntry) : Bool :=
    Text.equalIgnoringAsciiCase entry.name.toList zone.toList
  match (envelope.result.getD []).find? isMeant with
  | some entry => return entry.id
  | none => throw (.notFound ("Zone not found: " ++ zone))

/-- The identifier of a zone, which is looked up only once. -/
def zoneId (zone : String) : ClientM String := do
  match (← get).get? zone with
  | some id => return id
  | none => do
      let id ← client.lookupZone zone
      modify fun known => known.insert zone id
      return id

/-- Send a write, unless this is a dry run. -/
def send (request : Http.Request) : ClientM Unit :=
  if client.dryRun then pure ()
  else do
    let _ ← call Reader.value request

/-- The DNS records of a zone. Its start of authority is Cloudflare's own. -/
def fetchEntries (zone zoneId : String) : ClientM (List Record) := do
  let entries ← listAll Entry.shape.read (collectionPath zoneId .a)
  ClientM.ofExcept ((entries.filter (·.type != "SOA")).mapM fun entry => entry.toRecord zone)

/-- The forwardings of a zone, if they are managed. -/
def fetchForwardings (zoneId : String) : ClientM (List Record) :=
  if client.options.manageRedirects then do
    let rules ← listOnce PageRule.shape.read (collectionPath zoneId .pageRule)
    return rules.filterMap (·.toRecord?)
  else pure []

/-- The worker routes of a zone, if they are managed. -/
def fetchRoutes (zoneId : String) : ClientM (List Record) :=
  if client.options.manageWorkers then do
    let routes ← listOnce WorkerRoute.shape.read (collectionPath zoneId .workerRoute)
    return routes.map (·.toRecord)
  else pure []

/-- The records of a zone. -/
def fetch (zone : String) : ClientM (List Record) := do
  let zoneId ← client.zoneId zone
  let entries ← fetchEntries zone zoneId
  let forwardings ← client.fetchForwardings zoneId
  let routes ← client.fetchRoutes zoneId
  return entries ++ forwardings ++ routes

/-- The features of a zone and their states, as far as Cloudflare tells. -/
def fetchFeatures (zone : String) : ClientM (Dict Bool) := do
  let zoneId ← client.zoneId zone
  let envelope ← call Reader.value { method := .get, path := sslPath zoneId }
  match envelope.result.bind fun result => (result.member? "enabled").bind Json.bool? with
  | some enabled => return Dict.empty.insert universalSslFeature enabled
  | none => return Dict.empty

/-- Add a record to a zone. -/
def create (zone : String) (record : Record) : ClientM Unit := do
  let zoneId ← client.zoneId zone
  let body ← ClientM.ofExcept (recordBody zone record (wantsProxy record))
  client.send { method := .post, path := collectionPath zoneId record.type, body := some body }

/-- Replace a record. It is proxied only if Cloudflare would do so. -/
def update (zone : String) (existing desired : Record) : ClientM Unit := do
  let zoneId ← client.zoneId zone
  let id ← ClientM.ofExcept (recordId existing)
  let body ← ClientM.ofExcept (recordBody zone desired (mayProxy existing && wantsProxy desired))
  client.send { method := .put, path := recordPath zoneId desired.type id, body := some body }

/-- Remove a record. -/
def delete (zone : String) (record : Record) : ClientM Unit := do
  let zoneId ← client.zoneId zone
  let id ← ClientM.ofExcept (recordId record)
  client.send { method := .delete, path := recordPath zoneId record.type id }

/-- Switch a feature. There is only one. -/
def setFeature (zone feature : String) (enabled : Bool) : ClientM Unit :=
  if feature ≠ universalSslFeature then
    throw (.unsupported ("Cloudflare has no feature '" ++ feature ++ "'"))
  else do
    let zoneId ← client.zoneId zone
    client.send {
      method := .patch, path := sslPath zoneId
      body := some (.ofMembers [("enabled", .bool enabled)]) }

/-- Carry out one action. -/
def write (zone : String) : Action → ClientM Unit
  | .create record => client.create zone record
  | .modify existing desired => client.update zone existing desired
  | .delete record => client.delete zone record
  | .toggle feature enabled => client.setFeature zone feature enabled

end Client

end DnsReconcile.Cloudflare
