/-
# Desired zones on Cloudflare

What a desired zone becomes before it is compared with what Cloudflare serves.
Settings in metadata become features and proxy settings. The name servers of the
zone itself are Cloudflare's own and are left out. TTLs are brought into the range
that Cloudflare accepts. An alias is one only for the zone itself; elsewhere it is
a CNAME. Redirects become forwardings with rising priorities, the last one first,
so that a redirect added at the front leaves the others as they were.
-/

import DnsReconcile.Cloudflare.Rule
import DnsReconcile.Zone.Policy

namespace DnsReconcile.Cloudflare

/-- The lowest TTL that Cloudflare accepts besides the automatic one. -/
def minimalTtl : UInt32 := 120

/-- The TTL that Cloudflare keeps for a given one. The fallback of zones without a
TTL is left to Cloudflare too. -/
def clampTtl (ttl : UInt32) : UInt32 :=
  if ttl = 0 ∨ ttl = fallbackTtl ∨ ttl = autoTtl then autoTtl
  else if ttl < minimalTtl then minimalTtl
  else ttl

/-- A setting in lower case and without blanks around it. -/
def settingOf (text : String) : String :=
  String.ofList (Text.lower (Text.trim text.toList))

/-- The proxy setting that a text gives, or why it gives none. -/
def readProxy (text : String) : Except String String :=
  let setting := settingOf text
  if setting = "on" ∨ setting = "off" ∨ setting = "full" then .ok setting
  else .error ("'" ++ setting ++ "' is not a valid proxy setting, expected on, off or full")

/-- The state that a text gives, or why it gives none. -/
def readSwitch (text : String) : Except String Bool :=
  let setting := settingOf text
  if setting = "on" then .ok true
  else if setting = "off" then .ok false
  else .error ("'" ++ setting ++ "' is not a valid value, expected on or off")

/-- Read a setting in the metadata of a zone. -/
def zoneSetting {α : Type} (zone : Zone) (key : String) (read : String → Except String α)
    (fallback : α) : Except Error α :=
  match zone.metadata.get? key with
  | none => .ok fallback
  | some text =>
      (read text).mapError fun reason => .config (zone.name ++ ": " ++ key ++ ": " ++ reason)

/-- The features of a zone, with that of Universal SSL if its metadata sets it. -/
def featuresOf (zone : Zone) : Except Error (Dict Bool) := do
  let setting ← zoneSetting zone universalSslKey (fun text => (readSwitch text).map some) none
  match setting with
  | some enabled => return zone.features.insert universalSslFeature enabled
  | none => return zone.features

/-- Whether a record names a name server of the zone itself. -/
def isApexNs (record : Record) : Bool :=
  record.isApex && record.type == .ns

/-- The warning about a name server of the zone itself that is not Cloudflare's. -/
def foreignNs? (zone : String) (record : Record) : Option String :=
  let target := record.payload.print
  if isApexNs record && !".ns.cloudflare.com".toList.isSuffixOf (Text.trimEndDots target.toList)
  then
    some (zone ++ ": apex NS '" ++ target ++ "' is not a Cloudflare nameserver; ignoring it")
  else none

/-- Whether a type is that of redirects. -/
def isRedirect : RecordType → Bool
  | .redirect | .tempRedirect => true
  | _ => false

/-- Refuse a record of a kind that is not managed. -/
def requireManaged (managed : Bool) (option : String) (record : Record) : Except Error Unit :=
  if managed then .ok ()
  else
    Record.refuse record.label record.type
      ("requires '" ++ option ++ "' on the Cloudflare provider")

/-- Refuse a record of a kind that is not managed, and a payload that no rule or
route can have. -/
def checkKind (options : Options) (record : Record) : Except Error Unit :=
  match record.type with
  | .redirect | .tempRedirect => requireManaged options.manageRedirects "manage_redirects" record
  | .pageRule => do
      requireManaged options.manageRedirects "manage_redirects" record
      let _ ← Forwarding.read record.payload.print
  | .workerRoute => do
      requireManaged options.manageWorkers "manage_workers" record
      let _ ← WorkerRoute.read record.payload.print
  | _ => .ok ()

/-- The metadata of a record with its proxy setting spelled out, which only records
that can be proxied keep. -/
def proxyMetadata (fallback : String) (record : Record) : Except Error (Dict String) :=
  match isProxiable record.type, record.metadata.get? proxyKey with
  | false, some setting =>
      if setting = "off" then .ok (record.metadata.erase proxyKey)
      else
        Record.refuse record.label record.type (record.type.name ++ " records cannot be proxied")
  | false, none => .ok record.metadata
  | true, none => .ok (record.metadata.insert proxyKey fallback)
  | true, some text =>
      match readProxy text with
      | .ok setting => .ok (record.metadata.insert proxyKey setting)
      | .error reason => Record.refuse record.label record.type reason

/-- The TTL of a record whose metadata spells its proxy setting out. -/
def ttlOf (defaultTtl : UInt32) (record : Record) : UInt32 :=
  if wantsProxy record || record.type.isPseudo then autoTtl
  else clampTtl (if record.ttl = 0 then defaultTtl else record.ttl)

/-- Whether a label in any spelling is that of the zone itself. -/
def atApex (zone label : String) : Bool :=
  let label := Text.trimEndDots (Text.trim label.toList)
  label.isEmpty || label == apexLabel.toList ||
    Text.equalIgnoringAsciiCase label (Text.trimEndDots zone.toList)

/-- A CNAME of the zone itself as an alias, and any other alias as a CNAME. -/
def placeAlias (zone : String) (record : Record) : Record :=
  match record.payload with
  | .cname target =>
      if atApex zone record.label then { record with type := .aliased, payload := .aliased target }
      else record
  | .aliased target =>
      if atApex zone record.label then record
      else { record with type := .cname, payload := .cname target }
  | _ => record

/-- What a desired record becomes. Redirects stay as they are for now. -/
def adaptRecord (options : Options) (zone proxyDefault : String) (defaultTtl : UInt32)
    (record : Record) : Except Error Record := do
  checkKind options record
  if isRedirect record.type then return record
  let metadata ← proxyMetadata proxyDefault record
  let marked := { record with metadata }
  return placeAlias zone { marked with ttl := ttlOf defaultTtl marked }

/-- The status code of the replies that send visitors on. -/
def redirectStatus (type : RecordType) : Nat :=
  if type = .tempRedirect then 302 else 301

/-- The page rule for a redirect, whose payload is the text `source,target`. -/
def ruleOfRedirect (record : Record) (priority : UInt32) : Except Error Record :=
  match parts record.payload.print with
  | [source, target] =>
      let payload := forwardingPayload (String.ofList source) (String.ofList target)
        (toString priority) (toString (redirectStatus record.type))
      .ok { Record.pseudo apexLabel .pageRule payload with ttl := autoTtl }
  | _ =>
      Record.refuse record.label record.type
        ("expected 'from,to', got '" ++ record.payload.print ++ "'")

/-- The page rules for redirects, the last one first and with the lowest priority. Priorities
are 32-bit numbers, as those of page rules are. -/
def rulesOfRedirects (redirects : List Record) : Except Error (List Record) :=
  (redirects.reverse.zipIdx 1).mapM fun (record, place) => ruleOfRedirect record place.toUInt32

/-- What the desired records become. -/
def adaptRecords (options : Options) (zone proxyDefault : String) (defaultTtl : UInt32)
    (records : List Record) : Except Error (List Record) := do
  let adapted ← records.mapM (adaptRecord options zone proxyDefault defaultTtl)
  let rules ← rulesOfRedirects (adapted.filter fun record => isRedirect record.type)
  return (adapted.filter fun record => !isRedirect record.type) ++ rules

/-- What a desired zone becomes, and the warnings on the way. -/
def adaptZone (options : Options) (zone : Zone) : List String × Except Error Zone :=
  let settings : Except Error (Dict Bool × String) := do
    let features ← featuresOf zone
    let proxyDefault ← zoneSetting zone proxyDefaultKey readProxy "off"
    return (features, proxyDefault)
  match settings with
  | .error error => ([], .error error)
  | .ok (features, proxyDefault) =>
      let kept := zone.records.filter fun record => !isApexNs record
      let adapted := (adaptRecords options zone.name proxyDefault zone.effectiveTtl kept).map
        fun records => { zone with records, features, manageApexNs := false }
      (zone.records.filterMap (foreignNs? zone.name), adapted)

end DnsReconcile.Cloudflare
