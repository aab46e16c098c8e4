/-
# Records as they are written in settings

A settings file gives a record by its label, the name of its type and the
presentation form of its payload. The strings of a TXT record may be given one by
one instead.
-/

import DnsReconcile.Json.Reader
import DnsReconcile.Record.Basic

namespace DnsReconcile

open Json

/-- A record as it is written in a settings file. -/
structure AuthoredRecord where
  label : String := ""
  type : String := ""
  content : String := ""
  ttl : UInt32 := 0
  /-- The strings of a TXT record, used instead of the content if there are any. -/
  txt : List String := []
  metadata : Dict String := Dict.empty

namespace AuthoredRecord

/-- The form of an authored record in JSON. -/
def shape : Shape AuthoredRecord where
  initial := {}
  fields := [
    .defaulted "label" Reader.text fun draft value => { draft with label := value },
    .required "type" Reader.text fun draft value => { draft with type := value },
    .defaulted "content" Reader.text fun draft value => { draft with content := value },
    .defaulted "ttl" Reader.uint32 fun draft value => { draft with ttl := value },
    .defaulted "txt" (Reader.list Reader.text) fun draft value => { draft with txt := value },
    .defaulted "metadata" (Reader.dict Reader.text) fun draft value =>
      { draft with metadata := value }]

/-- The record that was meant. -/
def toRecord (authored : AuthoredRecord) : Except Error Record := do
  let type ← RecordType.read authored.type
  let record ←
    if type = .txt ∧ authored.txt ≠ [] then
      pure (Record.ofPayload authored.label (.txt authored.txt))
    else Record.read authored.label type authored.content
  return { record with ttl := authored.ttl, metadata := authored.metadata }

/-- Read an authored record from JSON and convert it. A refused record is a fault
of shape that says why. -/
def readRecord : Reader Record := fun source =>
  match shape.read source with
  | .error fault => .error fault
  | .ok authored =>
      match authored.toRecord with
      | .ok record => .ok record
      | .error error => .error (.shape (some error.message))

end AuthoredRecord

end DnsReconcile
