/-
# Recognising JSON text

From the characters of a text to what was found there. Recognition never stops
with an error: it records where the grammar is violated and which scalars have no
value, and leaves it to readers to decide which of these faults counts.
-/

import DnsReconcile.Json.Source
import DnsReconcile.Text.Numeral

namespace DnsReconcile.Json

/-- The characters between tokens: space, tab, line feed, carriage return. -/
def isSpace (c : Char) : Bool :=
  c == ' ' || c == '\t' || c == '\n' || c == '\r'

/-- The text from the next token on. -/
def skipSpace (text : List Char) : List Char :=
  text.dropWhile isSpace

/-- The value of four hexadecimal digits. -/
def hexUnit? (a b c d : Char) : Option Nat := do
  let a ← Text.hexDigit? a
  let b ← Text.hexDigit? b
  let c ← Text.hexDigit? c
  let d ← Text.hexDigit? d
  return ((a * 16 + b) * 16 + c) * 16 + d

/-- The character that a short escape stands for. -/
def shortEscape? (c : Char) : Option Char :=
  if c = '"' then some '"'
  else if c = '\\' then some '\\'
  else if c = '/' then some '/'
  else if c = 'b' then some '\x08'
  else if c = 'f' then some '\x0c'
  else if c = 'n' then some '\n'
  else if c = 'r' then some '\r'
  else if c = 't' then some '\t'
  else none

/-- What stands between quotation marks and what follows it. The text is `none`
if it holds half a surrogate pair. -/
structure Quoted where
  text : Option (List Char)
  rest : List Char

/-- Put a character in front of a quoted text. -/
def Quoted.cons (c : Char) (quoted : Quoted) : Quoted :=
  ⟨quoted.text.map (c :: ·), quoted.rest⟩

/-- The quoted text has no value. -/
def Quoted.spoil (quoted : Quoted) : Quoted :=
  ⟨none, quoted.rest⟩

/-- Read up to the closing quotation mark. `high` is the first half of a surrogate
pair whose second half has to come next. `none` means that the grammar is
violated. -/
def scanQuoted (high : Option Nat) : List Char → Option Quoted
  | [] => none
  | '"' :: rest => some ⟨if high.isSome then none else some [], rest⟩
  | '\\' :: 'u' :: a :: b :: c :: d :: rest =>
      match hexUnit? a b c d, high with
      | none, _ => none
      | some unit, some first =>
          if 0xDC00 ≤ unit ∧ unit ≤ 0xDFFF then
            let code := 0x10000 + (first - 0xD800) * 0x400 + (unit - 0xDC00)
            (scanQuoted none rest).map (·.cons (Char.ofNat code))
          else (scanQuoted none rest).map (·.spoil)
      | some unit, none =>
          if 0xD800 ≤ unit ∧ unit ≤ 0xDBFF then scanQuoted (some unit) rest
          else if 0xDC00 ≤ unit ∧ unit ≤ 0xDFFF then (scanQuoted none rest).map (·.spoil)
          else (scanQuoted none rest).map (·.cons (Char.ofNat unit))
  | '\\' :: c :: rest =>
      match shortEscape? c with
      | none => none
      | some plain =>
          (scanQuoted none rest).map fun quoted =>
            if high.isSome then quoted.spoil else quoted.cons plain
  | c :: rest =>
      if c.toNat < 32 || c == '\\' then none
      else
        (scanQuoted none rest).map fun quoted =>
          if high.isSome then quoted.spoil else quoted.cons c

/-- A number as it is written: sign, digits before the point, digits after it, and
the exponent. -/
structure Numeral where
  negative : Bool
  whole : List Char
  fraction : Option (List Char)
  exponent : Option Int

/-- The digits at the front of a text and the rest. -/
def spanDigits (text : List Char) : List Char × List Char :=
  (text.takeWhile Char.isDigit, text.dropWhile Char.isDigit)

/-- The fraction of a number, if a point follows. `none` means a violation. -/
def scanFraction : List Char → Option (Option (List Char) × List Char)
  | '.' :: rest =>
      let (digits, rest) := spanDigits rest
      if digits.isEmpty then none else some (some digits, rest)
  | rest => some (none, rest)

/-- The exponent of a number, if one follows. `none` means a violation. -/
def scanExponent (text : List Char) : Option (Option Int × List Char) :=
  let digitsOf (sign : Int) (rest : List Char) : Option (Option Int × List Char) :=
    let (digits, rest) := spanDigits rest
    if digits.isEmpty then none
    else some (some (sign * (Nat.ofDigitChars 10 digits 0 : Int)), rest)
  let signed : List Char → Option (Option Int × List Char)
    | '+' :: rest => digitsOf 1 rest
    | '-' :: rest => digitsOf (-1) rest
    | rest => digitsOf 1 rest
  match text with
  | 'e' :: rest => signed rest
  | 'E' :: rest => signed rest
  | rest => some (none, rest)

/-- Read a number at the front of a text. -/
def scanNumeral (text : List Char) : Option (Numeral × List Char) := do
  let (negative, text) := match text with
    | '-' :: rest => (true, rest)
    | rest => (false, rest)
  let (whole, text) := spanDigits text
  if whole.isEmpty || (whole.length > 1 && whole.head? == some '0') then none
  let (fraction, text) ← scanFraction text
  let (exponent, text) ← scanExponent text
  return (⟨negative, whole, fraction, exponent⟩, text)

namespace Numeral

/-- The spelling of a number, with a plain exponent. -/
def spelling (numeral : Numeral) : String :=
  (if numeral.negative then "-" else "") ++ String.ofList numeral.whole ++
    (match numeral.fraction with
      | some digits => "." ++ String.ofList digits
      | none => "") ++
    (match numeral.exponent with
      | some value => "e" ++ toString value
      | none => "")

/-- Whether the number is too large for a double: its magnitude reaches the point
half a step above the largest finite one. -/
def overflows (numeral : Numeral) : Bool :=
  let fraction := numeral.fraction.getD []
  let digits := (numeral.whole ++ fraction).dropWhile (· == '0')
  let scale : Int := numeral.exponent.getD 0 - (fraction.length : Int)
  let bound : Nat := Nat.pow 2 1024 - Nat.pow 2 970
  if digits.isEmpty then false
  else
    let magnitude := scale + (digits.length : Int)
    if magnitude > 400 then true
    else if magnitude < 300 then false
    else
      let significand := Nat.ofDigitChars 10 digits 0
      if 0 ≤ scale then bound ≤ significand * Nat.pow 10 scale.toNat
      else bound * Nat.pow 10 (-scale).toNat ≤ significand

/-- The integer that a number without fraction and exponent stands for, if it fits
into 64 bits. Minus zero is no integer. -/
def integer? (numeral : Numeral) : Option Int :=
  match numeral.fraction, numeral.exponent with
  | none, none =>
      let value := Nat.ofDigitChars 10 numeral.whole 0
      if numeral.negative then
        if 0 < value ∧ value ≤ UInt64.size / 2 then some (-(value : Int)) else none
      else if value < UInt64.size then some value
      else none
  | _, _ => none

/-- What a number counts as. -/
def toSource (numeral : Numeral) : Source :=
  match numeral.integer? with
  | some value => .number (.integer value)
  | none => if numeral.overflows then .unreadable else .number (.real numeral.spelling)

end Numeral

/-- The deepest level of arrays and objects that is still read. -/
def depthLimit : Nat := 127

/-- A container at a given level, marked if that level is too deep. -/
def atLevel (level : Nat) (container : Source) : Source :=
  if depthLimit < level then .deep container else container

/-- A value given by a word of the language. -/
def scanWord (word : List Char) (value : Source) (text : List Char) : Source × List Char :=
  if word.isPrefixOf text then (value, text.drop word.length) else (.broken, [])

mutual

/-- Recognise a value inside `level - 1` arrays and objects. The first argument
bounds the number of steps; the number of characters and two more are enough. -/
def scanValue : Nat → Nat → List Char → Source × List Char
  | 0, _, _ => (.broken, [])
  | steps + 1, level, text =>
      match skipSpace text with
      | '"' :: rest =>
          match scanQuoted none rest with
          | none => (.broken, [])
          | some ⟨some chars, rest⟩ => (.string (String.ofList chars), rest)
          | some ⟨none, rest⟩ => (.unreadable, rest)
      | '[' :: rest =>
          match skipSpace rest with
          | ']' :: rest => (atLevel level (.array [] .closed), rest)
          | rest =>
              let (items, ending, rest) := scanItems steps level rest
              (atLevel level (.array items ending), rest)
      | '\x7b' :: rest =>
          match skipSpace rest with
          | '\x7d' :: rest => (atLevel level (.object [] .closed), rest)
          | rest =>
              let (members, ending, rest) := scanMembers steps level rest
              (atLevel level (.object members ending), rest)
      | 'n' :: rest => scanWord ['u', 'l', 'l'] .null rest
      | 't' :: rest => scanWord ['r', 'u', 'e'] (.bool true) rest
      | 'f' :: rest => scanWord ['a', 'l', 's', 'e'] (.bool false) rest
      | rest =>
          match scanNumeral rest with
          | some (numeral, rest) => (numeral.toSource, rest)
          | none => (.broken, [])

/-- Recognise at least one item of an array, and how the array ends. -/
def scanItems : Nat → Nat → List Char → List Source × Ending × List Char
  | 0, _, _ => ([], .broken, [])
  | steps + 1, level, text =>
      let (item, rest) := scanValue steps (level + 1) text
      match skipSpace rest with
      | ']' :: rest => ([item], .closed, rest)
      | ',' :: rest =>
          let (items, ending, rest) := scanItems steps level rest
          (item :: items, ending, rest)
      | _ => ([item], .broken, [])

/-- Recognise at least one member of an object, and how the object ends. -/
def scanMembers : Nat → Nat → List Char → List (Option String × Source) × Ending × List Char
  | 0, _, _ => ([], .broken, [])
  | steps + 1, level, text =>
      match skipSpace text with
      | '"' :: rest =>
          match scanQuoted none rest with
          | none => ([], .broken, [])
          | some ⟨chars?, rest⟩ =>
              let key := chars?.map String.ofList
              match skipSpace rest with
              | ':' :: rest =>
                  let (value, rest) := scanValue steps (level + 1) rest
                  match skipSpace rest with
                  | '\x7d' :: rest => ([(key, value)], .closed, rest)
                  | ',' :: rest =>
                      let (members, ending, rest) := scanMembers steps level rest
                      ((key, value) :: members, ending, rest)
                  | _ => ([(key, value)], .broken, [])
              | _ => ([(key, .broken)], .broken, [])
      | _ => ([], .broken, [])

end

/-- Recognise a whole text. -/
def scan (text : String) : Document :=
  let chars := text.toList
  let (root, rest) := scanValue (chars.length + 2) 1 chars
  ⟨root, if (skipSpace rest).isEmpty then .closed else .broken⟩

/-- The value of a text, if it is JSON. -/
def parse? (text : String) : Option Json :=
  let document := scan text
  match document.ending with
  | .closed => document.root.value?
  | .broken => none

end DnsReconcile.Json
