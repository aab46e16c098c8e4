/-
# Canonical records

Names in a zone can be spelled in several ways. Relative to the origin of its zone
every record has one canonical form: its label is in lower case and relative, with
`@` for the zone itself; the name it points at is in lower case and absolute; its
TTL is given; fields that ignore case have one. Some records have no canonical
form, and `Defect` says why.
-/

import DnsReconcile.Text.Octets
import DnsReconcile.Zone.Basic

namespace DnsReconcile

/-- Why a record has no canonical form. -/
inductive Defect where
  | payloadMismatch
  | labelOutsideZone (label zone : String)
  | emptyTarget
  | nullTarget
  | noStrings
  | emptyCaaTag
  | notHex (field value : String)
  | emptyPayload
deriving Repr, DecidableEq

/-- The wording of a defect. -/
def Defect.message : Defect → String
  | .payloadMismatch => "payload does not match record type"
  | .labelOutsideZone label zone => "'" ++ label ++ "' is outside zone '" ++ zone ++ "'"
  | .emptyTarget => "target cannot be empty"
  | .nullTarget => "null target '.' is not allowed here"
  | .noStrings => "TXT record has no strings"
  | .emptyCaaTag => "CAA tag cannot be empty"
  | .notHex field value => field ++ " must be non-empty hex, got '" ++ value ++ "'"
  | .emptyPayload => "payload cannot be empty"

/-- The name that labels and targets of a zone are relative to, and the TTL of
records that give none. -/
structure Origin where
  /-- In lower case, without a dot at the end. -/
  zone : List Char
  ttl : UInt32
deriving Repr, DecidableEq

namespace Origin

/-- The origin of the zone with a given name. -/
def ofName (name : String) (ttl : UInt32) : Origin :=
  ⟨Text.lower (Text.trimEndDots (Text.trim name.toList)), ttl⟩

/-- The origin of a zone. -/
def ofZone (zone : Zone) : Origin :=
  ofName zone.name zone.effectiveTtl

/-- The canonical form of a label. A dot at the end makes it a full name, which
has to lie in the zone. -/
def label (origin : Origin) (text : List Char) : Except Defect (List Char) :=
  let spelled := Text.lower (Text.trim text)
  if spelled = [] ∨ spelled = ['@'] then .ok ['@']
  else
    match Text.stripSuffix? ['.'] spelled with
    | none => .ok spelled
    | some name =>
        if name = origin.zone then .ok ['@']
        else
          match Text.stripSuffix? ('.' :: origin.zone) name with
          | some (c :: rest) => .ok (c :: rest)
          | _ => .error (.labelOutsideZone (String.ofList spelled) (String.ofList origin.zone))

/-- The canonical form of a name that a payload points at. A single label belongs
to the zone; any other name is absolute. The null target `.` is an exception that
only some types allow. -/
def target (origin : Origin) (allowNull : Bool) (text : List Char) : Except Defect (List Char) :=
  let spelled := Text.lower (Text.trim text)
  if spelled = [] then .error .emptyTarget
  else if spelled = ['.'] then if allowNull then .ok ['.'] else .error .nullTarget
  else if spelled = ['@'] then .ok (origin.zone ++ ['.'])
  else if spelled.getLast? = some '.' then .ok spelled
  else if spelled.contains '.' then .ok (spelled ++ ['.'])
  else .ok (spelled ++ '.' :: origin.zone ++ ['.'])

/-- `target` on strings. -/
def targetName (origin : Origin) (allowNull : Bool) (text : String) : Except Defect String :=
  (origin.target allowNull text.toList).map String.ofList

/-- Hexadecimal digits. -/
def isHexDigit (c : Char) : Bool :=
  (Text.hexDigit? c).isSome

/-- A field of hexadecimal digits, without the blanks around it. -/
def hex (field : String) (text : String) : Except Defect (List Char) :=
  let digits := Text.trim text.toList
  if digits.isEmpty || !digits.all isHexDigit then .error (.notHex field (String.ofList digits))
  else .ok digits

/-- The strings of a TXT record, all cut into pieces if one of them is too long. -/
def strings (texts : List String) : List String :=
  if texts.any fun text => Text.chunkLimit < Text.octets text.toList then
    texts.flatMap fun text => (Text.chunks text.toList).map String.ofList
  else texts

/-- The canonical form of a payload. -/
def payload (origin : Origin) : Payload → Except Defect Payload
  | .a address => .ok (.a address)
  | .aaaa address => .ok (.aaaa address)
  | .cname target => return .cname (← origin.targetName false target)
  | .aliased target => return .aliased (← origin.targetName false target)
  | .ns target => return .ns (← origin.targetName false target)
  | .ptr target => return .ptr (← origin.targetName false target)
  | .mx preference exchange => return .mx preference (← origin.targetName true exchange)
  | .srv priority weight port target =>
      return .srv priority weight port (← origin.targetName true target)
  | .txt texts => if texts.isEmpty then .error .noStrings else .ok (.txt (strings texts))
  | .caa flags tag value =>
      let tag := Text.lower (Text.trim tag.toList)
      if tag.isEmpty then .error .emptyCaaTag else .ok (.caa flags (String.ofList tag) value)
  | .tlsa usage selector matchingType certificate => do
      let digits ← hex "certificate data" certificate
      return .tlsa usage selector matchingType (String.ofList (Text.lower digits))
  | .sshfp algorithm fingerprintType fingerprint => do
      let digits ← hex "fingerprint" fingerprint
      return .sshfp algorithm fingerprintType (String.ofList (Text.lower digits))
  | .ds keyTag algorithm digestType digest => do
      let digits ← hex "digest" digest
      return .ds keyTag algorithm digestType (String.ofList (Text.upper digits))
  | .soa mname rname serial refresh retry expire minimum => do
      let mname ← origin.targetName false mname
      let rname ← origin.targetName false rname
      return .soa mname rname serial refresh retry expire minimum
  | .encoded text =>
      if (Text.trim text.toList).isEmpty then .error .emptyPayload else .ok (.encoded text)

/-- The canonical form of a record. What is wrong with a payload is reported under
the canonical label. -/
def record (origin : Origin) (record : Record) : Except Error Record :=
  if !record.payload.fits record.type then
    Record.refuse record.label record.type Defect.payloadMismatch.message
  else
    match origin.label record.label.toList with
    | .error defect => Record.refuse record.label record.type defect.message
    | .ok label =>
        let label := String.ofList label
        match origin.payload record.payload with
        | .error defect => Record.refuse label record.type defect.message
        | .ok payload =>
            .ok { record with label, payload
                              ttl := if record.ttl = 0 then origin.ttl else record.ttl }

end Origin

end DnsReconcile
