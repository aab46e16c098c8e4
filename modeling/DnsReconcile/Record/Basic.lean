/-
# Records

One DNS resource record of a zone, in a form that no provider dictates. A record
is told apart from others by its label, its type and, where several records of
that type may share a label, its payload. TTL and metadata decide only whether
two corresponding records differ. The reference to a provider's own copy takes no
part in comparisons at all.
-/

import DnsReconcile.Dict
import DnsReconcile.Record.Payload
import DnsReconcile.Record.TypeName

namespace DnsReconcile

/-- The label of the zone itself. -/
def apexLabel : String := "@"

/-- The TTL when neither record nor zone gives one. -/
def fallbackTtl : UInt32 := 300

/-- The metadata key that allows a desired record at an ignored label. -/
def ignoreOverrideKey : String := "ignore_override"

/-- A provider's own copy of a record: its identifier, and what else the provider
wants to know again when the record is changed. -/
structure ProviderRef where
  id : String
  extra : Json
deriving Repr, BEq

/-- A DNS resource record. -/
structure Record where
  /-- Relative to the zone, `@` for the zone itself. -/
  label : String
  type : RecordType
  payload : Payload
  /-- In seconds; zero asks for the zone's default. -/
  ttl : UInt32 := 0
  /-- Annotations for providers. -/
  metadata : Dict String := Dict.empty
  /-- Where the record came from, if it was fetched. -/
  ref : Option ProviderRef := none

namespace Record

/-- A record that holds a payload, of the type the payload belongs to. -/
def ofPayload (label : String) (payload : Payload) : Record :=
  { label, type := payload.type, payload }

/-- A record of a pseudo-type. -/
def pseudo (label : String) (type : RecordType) (text : String) : Record :=
  { label, type, payload := .encoded text }

/-- Refuse a record for a reason. -/
def refuse {α : Type} (label : String) (type : RecordType) (reason : String) : Except Error α :=
  .error (.validation label type reason)

/-- Read a record from the presentation form of its payload. -/
def read (label : String) (type : RecordType) (content : String) : Except Error Record :=
  match Payload.read type content with
  | .ok payload => .ok { label, type, payload }
  | .error problem => refuse label type problem.message

/-- The same record with a reference to the provider's copy. -/
def withRef (record : Record) (id : String) (extra : Json) : Record :=
  { record with ref := some ⟨id, extra⟩ }

/-- Whether the record belongs to the zone itself. -/
def isApex (record : Record) : Bool :=
  record.label == apexLabel

/-- The full name of a record, without a dot at the end. -/
def fqdn (record : Record) (zone : String) : String :=
  if record.isApex then zone else record.label ++ "." ++ zone

/-- Whether the record may live at an ignored label. -/
def hasIgnoreOverride (record : Record) : Bool :=
  match record.metadata.get? ignoreOverrideKey with
  | some value => Text.equalIgnoringAsciiCase value.toList "true".toList
  | none => false

/-- Payload and TTL, as change messages show them. -/
def describe (record : Record) : String :=
  record.payload.print ++ " ttl=" ++ toString record.ttl

/-- Whether two records are equal in everything but their provider references. -/
def sameAs (first second : Record) : Bool :=
  first.label == second.label && first.type == second.type && first.payload == second.payload &&
    first.ttl == second.ttl && first.metadata == second.metadata

end Record

end DnsReconcile
