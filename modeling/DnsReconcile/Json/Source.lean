/-
# JSON as it was found

What a JSON text turned out to be, faults included. A reader that expects a value
of a certain form walks this tree in the order of the text and reports the first
fault it meets. A fault in a part that nobody looks at does not matter, unless it
is one of the grammar, which makes the rest of the text meaningless.
-/

import DnsReconcile.Json.Basic

namespace DnsReconcile.Json

/-- How a list of items or members ends. -/
inductive Ending where
  /-- With its closing bracket. -/
  | closed
  /-- Where the grammar is violated or the text ends. -/
  | broken
deriving Repr, DecidableEq

/-- A JSON text as it was found. -/
inductive Source where
  | null
  | bool (value : Bool)
  | number (value : Number)
  | string (value : String)
  | array (items : List Source) (ending : Ending)
  /-- Members in the order of the text, repetitions included. A key that is no
  text is `none`. -/
  | object (members : List (Option String × Source)) (ending : Ending)
  /-- A scalar that follows the grammar and yet has no value: half a surrogate
  pair, or a number out of range. It can be passed over but not read. -/
  | unreadable
  /-- Text that violates the grammar, or no text at all. -/
  | broken
  /-- An array or object nested too deep to be read. It can be passed over. -/
  | deep (inner : Source)
deriving Repr, Inhabited

/-- Why reading failed. -/
inductive Fault where
  /-- The text is not JSON, ends early or is nested too deep. -/
  | grammar
  /-- The text is JSON of the wrong form; a refused value may say why. -/
  | shape (reason : Option String)
deriving Repr, DecidableEq

namespace Source

mutual

/-- Whether a value can be passed over, that is, whether it follows the grammar. -/
def wellFormed : Source → Bool
  | .array items ending => allWellFormed items && ending == .closed
  | .object members ending => membersWellFormed members && ending == .closed
  | .broken => false
  | .deep inner => wellFormed inner
  | _ => true

/-- Whether every item can be passed over. -/
def allWellFormed : List Source → Bool
  | [] => true
  | item :: rest => wellFormed item && allWellFormed rest

/-- Whether the value of every member can be passed over. -/
def membersWellFormed : List (Option String × Source) → Bool
  | [] => true
  | (_, value) :: rest => wellFormed value && membersWellFormed rest

end

mutual

/-- The value that a text stands for, if it has one. -/
def value? : Source → Option Json
  | .null => some .null
  | .bool value => some (.bool value)
  | .number value => some (.number value)
  | .string value => some (.string value)
  | .array items .closed => (values? items).map .array
  | .object members .closed => (memberValues? members).map .ofMembers
  | _ => none

/-- The values of the items of an array. -/
def values? : List Source → Option (List Json)
  | [] => some []
  | item :: rest => do
      let value ← value? item
      let others ← values? rest
      return value :: others

/-- The keys and values of the members of an object, as they stand. -/
def memberValues? : List (Option String × Source) → Option (List (String × Json))
  | [] => some []
  | (key?, source) :: rest => do
      let key ← key?
      let value ← value? source
      let others ← memberValues? rest
      return (key, value) :: others

end

mutual

/-- A value as if it had been found in a text. -/
def ofValue : Json → Source
  | .null => .null
  | .bool value => .bool value
  | .number value => .number value
  | .string value => .string value
  | .array items => .array (ofValues items) .closed
  | .object members => .object (ofMemberValues members) .closed

/-- The items of an array as found. -/
def ofValues : List Json → List Source
  | [] => []
  | item :: rest => ofValue item :: ofValues rest

/-- The members of an object as found. -/
def ofMemberValues : List (String × Json) → List (Option String × Source)
  | [] => []
  | (key, value) :: rest => (some key, ofValue value) :: ofMemberValues rest

end

end Source

/-- A whole text, and whether nothing but space follows the value in it. -/
structure Document where
  root : Source
  ending : Ending

end DnsReconcile.Json
