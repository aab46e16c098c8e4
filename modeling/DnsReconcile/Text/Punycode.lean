/-
# Punycode

Text written with ASCII letters and digits alone. The ASCII characters of the text come
first, up to the last hyphen. Then every other character follows as a number, which says
how far its place and its code point are from those of the one before. The digits of a
number have a base of 36 and end at a threshold that adapts to the numbers so far.
-/

namespace DnsReconcile.Text.Punycode

/-- The value of a digit. -/
def digit? (c : Char) : Option Nat :=
  if 'a' ≤ c ∧ c ≤ 'z' then some (c.toNat - 97)
  else if '0' ≤ c ∧ c ≤ '9' then some (c.toNat - 22)
  else none

/-- The least digit that does not end a number, by the position of the digit. -/
def threshold (bias position : Nat) : Nat :=
  if position ≤ bias then 1 else min 26 (position - bias)

/-- Divide by 35 until a number is small, counting 36 for each time. -/
def reduce (delta : Nat) : Nat × Nat :=
  if 455 < delta then
    let (left, count) := reduce (delta / 35)
    (left, count + 36)
  else (delta, 0)
termination_by delta
decreasing_by omega

/-- The bias after a number, where the text has `length` characters with the new one. -/
def adapt (delta length : Nat) (isFirst : Bool) : Nat :=
  let start := if isFirst then delta / 700 else delta / 2
  let (left, count) := reduce (start + start / length)
  count + 36 * left / (left + 38)

/-- How far a text has been read. -/
structure Decoder where
  /-- The characters so far. -/
  text : List Char
  /-- The code point of the last character that was put in. -/
  code : Nat := 128
  /-- The place at which the next character is looked for. -/
  place : Nat := 0
  bias : Nat := 72
  /-- The value of the number so far. -/
  delta : Nat := 0
  /-- What the next digit of the number is worth, and its position. -/
  weight : Nat := 1
  position : Nat := 36
deriving Repr, DecidableEq

namespace Decoder

/-- Put in the character that a number stands for. -/
def insert? (decoder : Decoder) (delta : Nat) : Option Decoder :=
  let length := decoder.text.length + 1
  let index := decoder.place + delta
  let code := decoder.code + index / length
  let place := index % length
  if valid : code.isValidChar then
    some {
      text := decoder.text.insertIdx place (Char.ofNatAux code valid)
      code
      place := place + 1
      bias := adapt delta length (decoder.place == 0) }
  else none

/-- Read a digit. -/
def push? (decoder : Decoder) (c : Char) : Option Decoder := do
  let digit ← digit? c
  let delta := decoder.delta + digit * decoder.weight
  let threshold := threshold decoder.bias decoder.position
  if digit < threshold then decoder.insert? delta
  else
    return { decoder with
      delta
      weight := decoder.weight * (36 - threshold)
      position := decoder.position + 36 }

/-- Whether no number has been begun. -/
def isBetween (decoder : Decoder) : Bool :=
  decoder.position == 36

end Decoder

/-- The ASCII characters of the text, and the numbers. -/
def split (text : List Char) : List Char × List Char :=
  match (text.splitOn '-').getLast? with
  | some numbers =>
      if text.length ≤ numbers.length + 1 then ([], text)
      else (text.take (text.length - numbers.length - 1), numbers)
  | none => ([], text)

/-- The text that is written. -/
def decode? (text : List Char) : Option (List Char) := do
  let (plain, numbers) := split text
  let decoder ← numbers.foldlM Decoder.push? { text := plain }
  if decoder.isBetween then some decoder.text else none

end DnsReconcile.Text.Punycode
