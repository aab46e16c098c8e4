/-
# Reading typed values from JSON

A reader turns what was found in a text into a value of a certain type, or
reports the first fault in the order of the text. Records are read by a `Shape`,
a table of their fields: an object gives the fields by name, in any order and
with other members passed over; an array gives them in the order of the table.
-/

import DnsReconcile.Dict
import DnsReconcile.Json.Source

namespace DnsReconcile.Json

universe u

/-- A way to read values of one type. -/
abbrev Reader (α : Type u) := Source → Except Fault α

namespace Reader

variable {α β : Type u}

/-- The fault of meeting something of another kind: one of the grammar if nothing
readable stands there, otherwise one of shape. -/
def mismatch : Source → Fault
  | .broken | .unreadable => .grammar
  | _ => .shape none

/-- A text. -/
def text : Reader String
  | .string value => .ok value
  | other => .error (mismatch other)

/-- A truth value. -/
def bool : Reader Bool
  | .bool value => .ok value
  | other => .error (mismatch other)

/-- An integer that a condition accepts, converted. -/
def integer (convert? : Int → Option α) : Reader α
  | .number (.integer value) =>
      match convert? value with
      | some converted => .ok converted
      | none => .error (.shape none)
  | other => .error (mismatch other)

/-- A natural number below a bound. -/
def natBelow (bound : Nat) : Reader Nat :=
  integer fun value =>
    match value with
    | .ofNat n => if n < bound then some n else none
    | .negSucc _ => none

/-- An octet. -/
def uint8 : Reader UInt8 := fun source =>
  (natBelow UInt8.size source).map UInt8.ofNat

/-- A 16-bit number. -/
def uint16 : Reader UInt16 := fun source =>
  (natBelow UInt16.size source).map UInt16.ofNat

/-- A 32-bit number. -/
def uint32 : Reader UInt32 := fun source =>
  (natBelow UInt32.size source).map UInt32.ofNat

/-- A signed 64-bit number. -/
def int64 : Reader Int :=
  let bound : Int := (UInt64.size / 2 : Nat)
  integer fun value => if -bound ≤ value ∧ value < bound then some value else none

/-- Any value at all. -/
def value : Reader Json := fun source =>
  match source.value? with
  | some value => .ok value
  | none => .error .grammar

/-- Either null or a value of the given kind. -/
def nullable (read : Reader α) : Reader (Option α)
  | .null => .ok none
  | other => (read other).map some

/-- The list must end with its closing bracket. -/
def closing : Ending → Except Fault Unit
  | .closed => .ok ()
  | .broken => .error .grammar

/-- Read the items of an array in order. -/
def items (read : Reader α) : List Source → Except Fault (List α)
  | [] => .ok []
  | item :: rest => do
      let value ← read item
      let others ← items read rest
      return value :: others

/-- An array of values of one kind. -/
def list (read : Reader α) : Reader (List α)
  | .array sources ending =>
      match items read sources, ending with
      | .ok values, .closed => .ok values
      | .ok _, .broken => .error .grammar
      | .error fault, _ => .error fault
  | .deep _ => .error .grammar
  | other => .error (mismatch other)

/-- Read the members of an object in order; of several with one key the last
counts. -/
def entries (read : Reader α) (map : Dict α) :
    List (Option String × Source) → Except Fault (Dict α)
  | [] => .ok map
  | (none, _) :: _ => .error .grammar
  | (some key, source) :: rest =>
      match read source with
      | .ok value => entries read (map.insert key value) rest
      | .error fault => .error fault

/-- An object whose values are of one kind. -/
def dict (read : Reader α) : Reader (Dict α)
  | .object members ending =>
      match entries read Dict.empty members, ending with
      | .ok map, .closed => .ok map
      | .ok _, .broken => .error .grammar
      | .error fault, _ => .error fault
  | .deep _ => .error .grammar
  | other => .error (mismatch other)

/-- The value of the first reader that succeeds. Nothing unreadable may stand
there, whichever reader would look at it. -/
def firstOf (readers : List (Reader α)) : Reader α := fun source =>
  match source.value? with
  | none => .error .grammar
  | some _ =>
      match readers.findSome? fun read => (read source).toOption with
      | some value => .ok value
      | none => .error (.shape none)

end Reader

/-- When a field may be missing. -/
inductive Presence where
  /-- Never. -/
  | required
  /-- From an object, but not from an array. -/
  | optional
  /-- From both. -/
  | defaulted
deriving Repr, DecidableEq

/-- A field of a record type: how it is called and how its value is put into a
record under construction. -/
structure Field (σ : Type u) where
  name : String
  presence : Presence
  store : Source → σ → Except Fault σ

namespace Field

variable {σ α : Type u}

/-- A field that has to be given. -/
def required (name : String) (read : Reader α) (put : σ → α → σ) : Field σ :=
  ⟨name, .required, fun source draft => (read source).map (put draft)⟩

/-- A field that an object may leave out. -/
def optional (name : String) (read : Reader α) (put : σ → α → σ) : Field σ :=
  ⟨name, .optional, fun source draft => (read source).map (put draft)⟩

/-- A field that keeps its initial value when it is not given. -/
def defaulted (name : String) (read : Reader α) (put : σ → α → σ) : Field σ :=
  ⟨name, .defaulted, fun source draft => (read source).map (put draft)⟩

end Field

/-- The form of a record type in JSON: the record before anything is read, and its
fields in order. -/
structure Shape (σ : Type u) where
  initial : σ
  fields : List (Field σ)

namespace Shape

variable {σ : Type u}

/-- Read members in order into a record. Each field may be given once; members
that are no fields are passed over. -/
def readMembers (fields : List (Field σ)) (ending : Ending) (seen : List String) (draft : σ) :
    List (Option String × Source) → Except Fault σ
  | [] =>
      match ending with
      | .broken => .error .grammar
      | .closed =>
          if fields.any fun field => field.presence == .required && !seen.contains field.name then
            .error (.shape none)
          else .ok draft
  | (none, _) :: _ => .error .grammar
  | (some key, source) :: rest =>
      match fields.find? (·.name == key) with
      | none =>
          if source.wellFormed then readMembers fields ending seen draft rest
          else .error .grammar
      | some field =>
          if seen.contains key then .error (.shape none)
          else
            match field.store source draft with
            | .ok draft => readMembers fields ending (key :: seen) draft rest
            | .error fault => .error fault

/-- Read items in order into a record, one for each field. -/
def readItems (ending : Ending) : List (Field σ) → σ → List Source → Except Fault σ
  | [], draft, [] =>
      match ending with
      | .closed => .ok draft
      | .broken => .error .grammar
  | [], _, _ :: _ => .error .grammar
  | fields, draft, [] =>
      match ending with
      | .broken => .error .grammar
      | .closed =>
          if fields.all (·.presence == .defaulted) then .ok draft else .error (.shape none)
  | field :: fields, draft, item :: rest =>
      match field.store item draft with
      | .ok draft => readItems ending fields draft rest
      | .error fault => .error fault

/-- Read a record whose fields have to be given by name. -/
def readNamed (shape : Shape σ) : Reader σ
  | .object members ending => readMembers shape.fields ending [] shape.initial members
  | .deep _ => .error .grammar
  | other => .error (Reader.mismatch other)

/-- Read a record whose fields may also be given in order. -/
def read (shape : Shape σ) : Reader σ
  | .object members ending => readMembers shape.fields ending [] shape.initial members
  | .array items ending => readItems ending shape.fields shape.initial items
  | .deep _ => .error .grammar
  | other => .error (Reader.mismatch other)

end Shape

/-- Read a whole text: after the value nothing may follow but space. -/
def Document.read {α : Type u} (document : Document) (reader : Reader α) : Except Fault α :=
  match reader document.root, document.ending with
  | .ok value, .closed => .ok value
  | .ok _, .broken => .error .grammar
  | .error fault, _ => .error fault

end DnsReconcile.Json
