/-
# Payloads

What a record holds, by type, and its presentation form: fields separated by
blanks. A payload that reads from its presentation form fits the type it was read
for; the text of a record that is not DNS data is taken as it stands.
-/

import DnsReconcile.Address.IPv6
import DnsReconcile.Record.Type
import DnsReconcile.Text.Quoted

namespace DnsReconcile

/-- What a record holds. -/
inductive Payload where
  | a (address : IPv4)
  | aaaa (address : IPv6)
  | cname (target : String)
  | aliased (target : String)
  | ns (target : String)
  | ptr (target : String)
  | mx (preference : UInt16) (exchange : String)
  /-- One or more character strings. -/
  | txt (strings : List String)
  | srv (priority weight port : UInt16) (target : String)
  | caa (flags : UInt8) (tag value : String)
  | tlsa (usage selector matchingType : UInt8) (certificate : String)
  | sshfp (algorithm fingerprintType : UInt8) (fingerprint : String)
  | ds (keyTag : UInt16) (algorithm digestType : UInt8) (digest : String)
  | soa (mname rname : String) (serial refresh retry expire minimum : UInt32)
  /-- The payload of a pseudo-type. -/
  | encoded (text : String)
deriving Repr, DecidableEq

namespace Payload

/-- Why a text is no payload of the expected type. -/
inductive Problem where
  | notIPv4 (text : String)
  | notIPv6 (text : String)
  /-- The fields that should stand there, and how many do. -/
  | fieldCount (expected : String) (found : Nat)
  | tooFewFields (expected : String)
  | badNumber (field text : String)
deriving Repr, DecidableEq

/-- The wording of a problem. -/
def Problem.message : Problem → String
  | .notIPv4 text => "'" ++ text ++ "' is not an IPv4 address"
  | .notIPv6 text => "'" ++ text ++ "' is not an IPv6 address"
  | .fieldCount expected found =>
      "expected '" ++ expected ++ "', got " ++ toString found ++ " field(s)"
  | .tooFewFields expected => "expected '" ++ expected ++ "'"
  | .badNumber field text => "invalid " ++ field ++ ": '" ++ text ++ "'"

/-- The type a payload belongs to. The payload of a pseudo-type does not say
which one; a page rule is assumed. -/
def type : Payload → RecordType
  | a _ => .a
  | aaaa _ => .aaaa
  | cname _ => .cname
  | aliased _ => .aliased
  | ns _ => .ns
  | ptr _ => .ptr
  | mx .. => .mx
  | txt _ => .txt
  | srv .. => .srv
  | caa .. => .caa
  | tlsa .. => .tlsa
  | sshfp .. => .sshfp
  | ds .. => .ds
  | soa .. => .soa
  | encoded _ => .pageRule

/-- Whether a payload has the form that a type asks for. -/
def fits (payload : Payload) (type : RecordType) : Bool :=
  match payload with
  | encoded _ => type.isPseudo
  | _ => type == payload.type

/-- The name a payload points at, if its type has one. -/
def target? : Payload → Option String
  | cname target | aliased target | ns target | ptr target => some target
  | mx _ exchange => some exchange
  | srv _ _ _ target => some target
  | _ => none

/-- A character string between quotation marks. -/
def quoted (text : String) : String :=
  String.ofList (Text.quote text.toList)

/-- The presentation form of a payload. -/
def print : Payload → String
  | a address => address.print
  | aaaa address => address.print
  | cname target | aliased target | ns target | ptr target => target
  | mx preference exchange => toString preference ++ " " ++ exchange
  | txt strings => " ".intercalate (strings.map quoted)
  | srv priority weight port target =>
      toString priority ++ " " ++ toString weight ++ " " ++ toString port ++ " " ++ target
  | caa flags tag value => toString flags ++ " " ++ tag ++ " " ++ quoted value
  | tlsa usage selector matchingType certificate =>
      toString usage ++ " " ++ toString selector ++ " " ++ toString matchingType ++ " " ++
        certificate
  | sshfp algorithm fingerprintType fingerprint =>
      toString algorithm ++ " " ++ toString fingerprintType ++ " " ++ fingerprint
  | ds keyTag algorithm digestType digest =>
      toString keyTag ++ " " ++ toString algorithm ++ " " ++ toString digestType ++ " " ++ digest
  | soa mname rname serial refresh retry expire minimum =>
      mname ++ " " ++ rname ++ " " ++ toString serial ++ " " ++ toString refresh ++ " " ++
        toString retry ++ " " ++ toString expire ++ " " ++ toString minimum
  | encoded text => text

/-- A field that has to be a number of some width. -/
def number {α : Type} (read? : List Char → Option α) (name : String) (field : List Char) :
    Except Problem α :=
  match read? field with
  | some value => .ok value
  | none => .error (.badNumber name (String.ofList field))

/-- The value of a CAA payload: what follows its first two fields, blanks included.
The content has no blanks around it. -/
def caaValue (content flags tag : List Char) : List Char :=
  let rest := Text.trimStart (content.drop flags.length)
  Text.unquote (Text.trim (rest.drop tag.length))

/-- Read the fields of a payload, given its whole content too. -/
def readFields (type : RecordType) (content : List Char) (fields : List (List Char)) :
    Except Problem Payload :=
  match type with
  | .a =>
      match IPv4.read? content with
      | some address => .ok (a address)
      | none => .error (.notIPv4 (String.ofList content))
  | .aaaa =>
      match IPv6.read? content with
      | some address => .ok (aaaa address)
      | none => .error (.notIPv6 (String.ofList content))
  | .cname => .ok (cname (String.ofList content))
  | .aliased => .ok (aliased (String.ofList content))
  | .ns => .ok (ns (String.ofList content))
  | .ptr => .ok (ptr (String.ofList content))
  | .txt => .ok (txt [String.ofList content])
  | .mx =>
      match fields with
      | [preference, exchange] => do
          let preference ← number Text.readUInt16? "preference" preference
          return mx preference (String.ofList exchange)
      | _ => .error (.fieldCount "preference exchange" fields.length)
  | .srv =>
      match fields with
      | [priority, weight, port, target] => do
          let priority ← number Text.readUInt16? "priority" priority
          let weight ← number Text.readUInt16? "weight" weight
          let port ← number Text.readUInt16? "port" port
          return srv priority weight port (String.ofList target)
      | _ => .error (.fieldCount "priority weight port target" fields.length)
  | .caa =>
      match fields with
      | flags :: tag :: _ :: _ => do
          let value := caaValue content flags tag
          let flags ← number Text.readUInt8? "flags" flags
          return caa flags (String.ofList tag) (String.ofList value)
      | _ => .error (.tooFewFields "flags tag value")
  | .tlsa =>
      match fields with
      | [usage, selector, matchingType, certificate] => do
          let usage ← number Text.readUInt8? "usage" usage
          let selector ← number Text.readUInt8? "selector" selector
          let matchingType ← number Text.readUInt8? "matching type" matchingType
          return tlsa usage selector matchingType (String.ofList certificate)
      | _ => .error (.fieldCount "usage selector matching-type certificate" fields.length)
  | .sshfp =>
      match fields with
      | [algorithm, fingerprintType, fingerprint] => do
          let algorithm ← number Text.readUInt8? "algorithm" algorithm
          let fingerprintType ← number Text.readUInt8? "fingerprint type" fingerprintType
          return sshfp algorithm fingerprintType (String.ofList fingerprint)
      | _ => .error (.fieldCount "algorithm type fingerprint" fields.length)
  | .ds =>
      match fields with
      | [keyTag, algorithm, digestType, digest] => do
          let keyTag ← number Text.readUInt16? "key tag" keyTag
          let algorithm ← number Text.readUInt8? "algorithm" algorithm
          let digestType ← number Text.readUInt8? "digest type" digestType
          return ds keyTag algorithm digestType (String.ofList digest)
      | _ => .error (.fieldCount "key-tag algorithm digest-type digest" fields.length)
  | .soa =>
      match fields with
      | [mname, rname, serial, refresh, retry, expire, minimum] => do
          let serial ← number Text.readUInt32? "serial" serial
          let refresh ← number Text.readUInt32? "refresh" refresh
          let retry ← number Text.readUInt32? "retry" retry
          let expire ← number Text.readUInt32? "expire" expire
          let minimum ← number Text.readUInt32? "minimum" minimum
          return soa (String.ofList mname) (String.ofList rname) serial refresh retry expire minimum
      | _ => .error (.fieldCount "mname rname serial refresh retry expire minimum" fields.length)
  | .redirect | .tempRedirect | .pageRule | .workerRoute => .ok (encoded (String.ofList content))

/-- Read a payload of a given type from its presentation form. -/
def read (type : RecordType) (content : String) : Except Problem Payload :=
  let trimmed := Text.trim content.toList
  readFields type trimmed (Text.words trimmed)

end Payload

end DnsReconcile
