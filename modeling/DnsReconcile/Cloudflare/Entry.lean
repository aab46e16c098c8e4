/-
# Cloudflare's DNS records

An entry is a DNS record in the form in which Cloudflare sends and takes it. Most
payloads are texts. Those of five types are given by their fields instead, and
which type they belong to shows only in which fields there are.
-/

import DnsReconcile.Cloudflare.Basic
import DnsReconcile.Json.Reader

namespace DnsReconcile.Cloudflare

open Json

/-- The target of a service: a name, or a truth value of which false means that
there is none. -/
inductive SrvTarget where
  | name (text : String)
  | flag (value : Bool)
deriving Repr, DecidableEq

namespace SrvTarget

/-- The form of a target for a name that may end in dots. A name of dots only is
that of no target. -/
def ofName (name : String) : SrvTarget :=
  match Text.trimEndDots name.toList with
  | [] => .name "."
  | kept => .name (String.ofList kept)

/-- The absolute name of a target, or why there is none. -/
def fqdn : SrvTarget → Except String String
  | .name text =>
      match Text.trimEndDots text.toList with
      | [] => .ok "."
      | kept => .ok (String.ofList (kept ++ ['.']))
  | .flag false => .ok "."
  | .flag true => .error "unknown SRV target value 'true'"

/-- Read a target from JSON. -/
def read : Reader SrvTarget :=
  Reader.firstOf [
    fun source => (Reader.text source).map .name,
    fun source => (Reader.bool source).map .flag]

/-- A target as JSON. -/
def toJson : SrvTarget → Json
  | .name text => .string text
  | .flag value => .bool value

end SrvTarget

/-- A payload given by its fields. -/
inductive Fields where
  | srv (priority weight port : UInt16) (target : SrvTarget)
  | caa (flags : UInt8) (tag value : String)
  | tlsa (usage selector matchingType : UInt8) (certificate : String)
  | sshfp (algorithm fingerprintType : UInt8) (fingerprint : String)
  | ds (keyTag : UInt16) (algorithm digestType : UInt8) (digest : String)
deriving Repr, DecidableEq

namespace Fields

/-- The fields of a service. -/
def srvShape : Shape (UInt16 × UInt16 × UInt16 × SrvTarget) where
  initial := (0, 0, 0, .flag false)
  fields := [
    .required "priority" Reader.uint16 fun draft value => (value, draft.2),
    .required "weight" Reader.uint16 fun draft value => (draft.1, value, draft.2.2),
    .required "port" Reader.uint16 fun draft value => (draft.1, draft.2.1, value, draft.2.2.2),
    .required "target" SrvTarget.read fun draft value =>
      (draft.1, draft.2.1, draft.2.2.1, value)]

/-- The fields of an authorisation to issue certificates. -/
def caaShape : Shape (UInt8 × String × String) where
  initial := (0, "", "")
  fields := [
    .required "flags" Reader.uint8 fun draft value => (value, draft.2),
    .required "tag" Reader.text fun draft value => (draft.1, value, draft.2.2),
    .required "value" Reader.text fun draft value => (draft.1, draft.2.1, value)]

/-- The fields of a certificate association. -/
def tlsaShape : Shape (UInt8 × UInt8 × UInt8 × String) where
  initial := (0, 0, 0, "")
  fields := [
    .required "usage" Reader.uint8 fun draft value => (value, draft.2),
    .required "selector" Reader.uint8 fun draft value => (draft.1, value, draft.2.2),
    .required "matching_type" Reader.uint8 fun draft value =>
      (draft.1, draft.2.1, value, draft.2.2.2),
    .required "certificate" Reader.text fun draft value =>
      (draft.1, draft.2.1, draft.2.2.1, value)]

/-- The fields of a key fingerprint. -/
def sshfpShape : Shape (UInt8 × UInt8 × String) where
  initial := (0, 0, "")
  fields := [
    .required "algorithm" Reader.uint8 fun draft value => (value, draft.2),
    .required "type" Reader.uint8 fun draft value => (draft.1, value, draft.2.2),
    .required "fingerprint" Reader.text fun draft value => (draft.1, draft.2.1, value)]

/-- The fields of a delegation signer. -/
def dsShape : Shape (UInt16 × UInt8 × UInt8 × String) where
  initial := (0, 0, 0, "")
  fields := [
    .required "key_tag" Reader.uint16 fun draft value => (value, draft.2),
    .required "algorithm" Reader.uint8 fun draft value => (draft.1, value, draft.2.2),
    .required "digest_type" Reader.uint8 fun draft value =>
      (draft.1, draft.2.1, value, draft.2.2.2),
    .required "digest" Reader.text fun draft value => (draft.1, draft.2.1, draft.2.2.1, value)]

/-- Read a payload: it is of the first type whose fields are all there by name. -/
def read : Reader Fields :=
  Reader.firstOf [
    fun source => (srvShape.readNamed source).map fun (priority, weight, port, target) =>
      .srv priority weight port target,
    fun source => (caaShape.readNamed source).map fun (flags, tag, value) => .caa flags tag value,
    fun source => (tlsaShape.readNamed source).map fun (usage, selector, matchingType, certificate) =>
      .tlsa usage selector matchingType certificate,
    fun source => (sshfpShape.readNamed source).map fun (algorithm, fingerprintType, fingerprint) =>
      .sshfp algorithm fingerprintType fingerprint,
    fun source => (dsShape.readNamed source).map fun (keyTag, algorithm, digestType, digest) =>
      .ds keyTag algorithm digestType digest]

/-- A payload as JSON. -/
def toJson : Fields → Json
  | .srv priority weight port target =>
      .ofMembers [("priority", .nat priority.toNat), ("weight", .nat weight.toNat),
        ("port", .nat port.toNat), ("target", target.toJson)]
  | .caa flags tag value =>
      .ofMembers [("flags", .nat flags.toNat), ("tag", .string tag), ("value", .string value)]
  | .tlsa usage selector matchingType certificate =>
      .ofMembers [("usage", .nat usage.toNat), ("selector", .nat selector.toNat),
        ("matching_type", .nat matchingType.toNat), ("certificate", .string certificate)]
  | .sshfp algorithm fingerprintType fingerprint =>
      .ofMembers [("algorithm", .nat algorithm.toNat), ("type", .nat fingerprintType.toNat),
        ("fingerprint", .string fingerprint)]
  | .ds keyTag algorithm digestType digest =>
      .ofMembers [("key_tag", .nat keyTag.toNat), ("algorithm", .nat algorithm.toNat),
        ("digest_type", .nat digestType.toNat), ("digest", .string digest)]

end Fields

/-- A DNS record as Cloudflare has it. -/
structure Entry where
  /-- Empty until Cloudflare has given one. -/
  id : String := ""
  type : String := ""
  /-- The full name, without a dot at the end. -/
  name : String := ""
  content : String := ""
  ttl : UInt32 := 0
  proxied : Option Bool := none
  /-- Whether Cloudflare would proxy the record. Only Cloudflare says so. -/
  proxiable : Bool := false
  priority : Option UInt16 := none
  data : Option Fields := none
deriving Repr, DecidableEq

namespace Entry

/-- The form of an entry in JSON. -/
def shape : Shape Entry where
  initial := {}
  fields := [
    .defaulted "id" Reader.text fun draft value => { draft with id := value },
    .required "type" Reader.text fun draft value => { draft with type := value },
    .required "name" Reader.text fun draft value => { draft with name := value },
    .defaulted "content" Reader.text fun draft value => { draft with content := value },
    .defaulted "ttl" Reader.uint32 fun draft value => { draft with ttl := value },
    .defaulted "proxied" (Reader.nullable Reader.bool) fun draft value =>
      { draft with proxied := value },
    .defaulted "proxiable" Reader.bool fun draft value => { draft with proxiable := value },
    .defaulted "priority" (Reader.nullable Reader.uint16) fun draft value =>
      { draft with priority := value },
    .defaulted "data" (Reader.nullable Fields.read) fun draft value =>
      { draft with data := value }]

/-- A member that is left out when its text is empty. -/
def textMember (key text : String) : List (String × Json) :=
  if text.isEmpty then [] else [(key, .string text)]

/-- A member that is left out when there is no value for it. -/
def optionalMember {α : Type} (key : String) (toJson : α → Json) (value : Option α) :
    List (String × Json) :=
  match value with
  | some value => [(key, toJson value)]
  | none => []

/-- An entry as JSON. -/
def toJson (entry : Entry) : Json :=
  .ofMembers (
    textMember "id" entry.id ++
    [("type", .string entry.type), ("name", .string entry.name)] ++
    textMember "content" entry.content ++
    [("ttl", .nat entry.ttl.toNat)] ++
    optionalMember "proxied" Json.bool entry.proxied ++
    optionalMember "priority" (fun value => Json.nat value.toNat) entry.priority ++
    optionalMember "data" Fields.toJson entry.data)

end Entry

end DnsReconcile.Cloudflare
