/-
# Records and entries

How Cloudflare's DNS records become records and the other way round. Names that a
payload points at gain the dot at their end and lose it again. A CNAME of the zone
itself is an alias here, because Cloudflare answers for it with addresses.
-/

import DnsReconcile.Cloudflare.Entry

namespace DnsReconcile.Cloudflare

/-- The label of a full name in a zone. A name outside the zone stays as it is. -/
def labelOf (name zone : String) : String :=
  let spelled := Text.trimEndDots name.toList
  if Text.equalIgnoringAsciiCase spelled zone.toList then apexLabel
  else String.ofList ((Text.stripSuffix? ('.' :: zone.toList) spelled).getD spelled)

/-- A name with a dot at its end. -/
def dotted (name : String) : String :=
  if name.toList.getLast? = some '.' then name else name ++ "."

/-- A name without the dots at its end. -/
def undotted (name : String) : String :=
  String.ofList (Text.trimEndDots name.toList)

namespace Entry

/-- Refuse an entry for a reason. -/
def unparsable {α : Type} (entry : Entry) (reason : String) : Except Error α :=
  refuse ("unparsable " ++ entry.type ++ " record '" ++ entry.name ++ "' received: " ++ reason)

/-- The payload that the content of an entry gives. -/
def contentPayload (entry : Entry) (type : RecordType) (content : String) :
    Except Error Payload :=
  match Payload.read type content with
  | .ok payload => .ok payload
  | .error problem => entry.unparsable problem.message

/-- The payload of an entry of a type. Fields count if they are those of the type. -/
def payload (entry : Entry) (type : RecordType) : Except Error Payload :=
  match type, entry.data with
  | .cname, _ => entry.contentPayload .cname (dotted entry.content)
  | .ns, _ => entry.contentPayload .ns (dotted entry.content)
  | .ptr, _ => entry.contentPayload .ptr (dotted entry.content)
  | .aliased, _ => entry.contentPayload .aliased (dotted entry.content)
  | .mx, _ => .ok (.mx (entry.priority.getD 0) (dotted entry.content))
  | .txt, _ => .ok (.txt [entry.content])
  | .srv, some (.srv priority weight port target) =>
      match target.fqdn with
      | .ok name => .ok (.srv priority weight port name)
      | .error reason => entry.unparsable reason
  | .caa, some (.caa flags tag value) => .ok (.caa flags tag value)
  | .tlsa, some (.tlsa usage selector matchingType certificate) =>
      .ok (.tlsa usage selector matchingType certificate)
  | .sshfp, some (.sshfp algorithm fingerprintType fingerprint) =>
      .ok (.sshfp algorithm fingerprintType fingerprint)
  | .ds, some (.ds keyTag algorithm digestType digest) =>
      .ok (.ds keyTag algorithm digestType digest)
  | type, _ => entry.contentPayload type entry.content

/-- What Cloudflare wants to know again when the record is changed. -/
def reference (entry : Entry) : ProviderRef where
  id := entry.id
  extra := .ofMembers [("kind", .string "dns_record"),
    ("proxied", .bool (entry.proxied.getD false)), ("proxiable", .bool entry.proxiable)]

/-- The type of the record that an entry with a given label stands for. -/
def recordType (entry : Entry) (label : String) : Except Error RecordType :=
  match RecordType.read entry.type with
  | .error error => entry.unparsable error.message
  | .ok type =>
      if type.isPseudo then entry.unparsable "pseudo-type in DNS record list"
      else if type = .cname ∧ label = apexLabel then .ok .aliased
      else .ok type

/-- The record that an entry of a zone stands for. -/
def toRecord (entry : Entry) (zone : String) : Except Error Record := do
  let label := labelOf entry.name zone
  let type ← entry.recordType label
  let payload ← entry.payload type
  let metadata :=
    if isProxiable type then
      Dict.empty.insert proxyKey (if entry.proxied.getD false then "on" else "off")
    else Dict.empty
  return { label, type, payload, metadata, ttl := entry.ttl, ref := some entry.reference }

/-- An entry with the payload of a record, unless Cloudflare keeps no such payload. -/
def withPayload? (entry : Entry) : Payload → Option Entry
  | .a address => some { entry with content := address.print }
  | .aaaa address => some { entry with content := address.print }
  | .cname target | .aliased target =>
      some { entry with type := RecordType.cname.name, content := undotted target }
  | .ns target | .ptr target => some { entry with content := undotted target }
  | .mx preference exchange =>
      some { entry with
        priority := some preference
        content := if exchange = "." then "." else undotted exchange }
  | .txt strings => some { entry with content := String.join strings }
  | .srv priority weight port target =>
      some { entry with data := some (.srv priority weight port (SrvTarget.ofName target)) }
  | .caa flags tag value => some { entry with data := some (.caa flags tag value) }
  | .tlsa usage selector matchingType certificate =>
      some { entry with data := some (.tlsa usage selector matchingType certificate) }
  | .sshfp algorithm fingerprintType fingerprint =>
      some { entry with data := some (.sshfp algorithm fingerprintType fingerprint) }
  | .ds keyTag algorithm digestType digest =>
      some { entry with data := some (.ds keyTag algorithm digestType digest) }
  | .soa .. | .encoded _ => none

/-- The entry that Cloudflare is sent for a record. -/
def ofRecord (zone : String) (record : Record) (proxied : Bool) : Except Error Entry :=
  let entry : Entry := {
    type := record.type.name
    name := record.fqdn zone
    ttl := record.ttl
    proxied := if isProxiable record.type then some proxied else none }
  match entry.withPayload? record.payload with
  | some entry => .ok entry
  | none =>
      .error (.unsupported
        (record.type.name ++ " records cannot be written as Cloudflare DNS records"))

end Entry

end DnsReconcile.Cloudflare
