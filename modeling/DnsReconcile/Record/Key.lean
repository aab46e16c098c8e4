/-
# Keys of records

What identifies a record in a zone, and the order in which records are listed: by
label, then by type, then by payload. Where only one record of a type may stand at
a label, the payload is no part of the identity.
-/

import DnsReconcile.Record.Basic

namespace DnsReconcile

/-- Label, type and possibly the presentation form of the payload. -/
structure RecordKey where
  label : String
  type : RecordType
  payload : Option String
deriving Repr, DecidableEq

namespace RecordKey

/-- Whether a payload comes before another or equals it. A missing one comes first. -/
def payloadLe : Option String → Option String → Bool
  | none, _ => true
  | some _, none => false
  | some first, some second => first ≤ second

/-- Whether a key comes before another or equals it. -/
def le (first second : RecordKey) : Bool :=
  if first.label = second.label then
    if first.type = second.type then payloadLe first.payload second.payload
    else first.type.rank ≤ second.type.rank
  else first.label ≤ second.label

/-- A key as messages show it. -/
def print (key : RecordKey) : String :=
  key.type.name ++ " " ++ key.label ++
    (match key.payload with
      | some payload => " " ++ payload
      | none => "")

end RecordKey

namespace Record

/-- What identifies a record in its zone. -/
def key (record : Record) : RecordKey :=
  { label := record.label, type := record.type
    payload := if record.type.isMultiValue then some record.payload.print else none }

/-- What decides the place of a record in a list. -/
def listingKey (record : Record) : RecordKey :=
  { label := record.label, type := record.type, payload := some record.payload.print }

end Record

end DnsReconcile
