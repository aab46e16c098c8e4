/-
# JSON values

The values that settings files, provider replies and provider references are made
of. Integers of up to 64 bits are kept as integers. Every other number is kept as
its spelling, because nothing here calculates with fractions.
-/

namespace DnsReconcile

/-- A JSON number. -/
inductive Json.Number where
  | integer (value : Int)
  | real (spelling : String)
deriving Repr, DecidableEq

/-- A JSON value. The members of an object stand in key order without repetition
when the object was built by `Json.ofMembers`. -/
inductive Json where
  | null
  | bool (value : Bool)
  | number (value : Json.Number)
  | string (value : String)
  | array (items : List Json)
  | object (members : List (String × Json))
deriving Repr, BEq, Inhabited

namespace Json

/-- Put a member where its key belongs, in place of a member with the same key. -/
def insertMember (key : String) (value : Json) : List (String × Json) → List (String × Json)
  | [] => [(key, value)]
  | member :: rest =>
      if key < member.1 then (key, value) :: member :: rest
      else if key = member.1 then (key, value) :: rest
      else member :: insertMember key value rest

/-- An object with the listed members; of several with one key the last. -/
def ofMembers (members : List (String × Json)) : Json :=
  .object (members.foldl (fun listed member => insertMember member.1 member.2 listed) [])

/-- An integer as a value. -/
def int (value : Int) : Json :=
  .number (.integer value)

/-- A natural number as a value. -/
def nat (value : Nat) : Json :=
  .int value

/-- A member of an object. -/
def member? (value : Json) (key : String) : Option Json :=
  match value with
  | .object members => members.lookup key
  | _ => none

/-- The text of a text value. -/
def text? : Json → Option String
  | .string value => some value
  | _ => none

/-- The truth value of a Boolean value. -/
def bool? : Json → Option Bool
  | .bool value => some value
  | _ => none

/-- The value of a natural number. -/
def nat? : Json → Option Nat
  | .number (.integer value) => value.toNat?
  | _ => none

/-- The items of an array. -/
def items? : Json → Option (List Json)
  | .array items => some items
  | _ => none

/-- Whether the value is null. -/
def isNull : Json → Bool
  | .null => true
  | _ => false

end Json

end DnsReconcile
