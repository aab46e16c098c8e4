/-
# IPv4 addresses written with numbers

A looser written form than four decimal octets: one to four numbers with dots
between them, each of them in decimal, in octal after a zero, or in hexadecimal
after `0x`. All but the last are octets, and the last fills the octets that are
left.
-/

import DnsReconcile.Address.IPv4

namespace DnsReconcile.IPv4

/-- The value of digits to a base. -/
def readDigits? (base : Nat) (text : List Char) : Option Nat := do
  let digits ← text.mapM Text.hexDigit?
  if digits.all (· < base) then
    some (digits.foldl (fun value digit => value * base + digit) 0)
  else none

/-- The value of a number. No digits after `0x` are a zero. -/
def readNumber? : List Char → Option Nat
  | [] => none
  | '0' :: x :: digits =>
      if x = 'x' ∨ x = 'X' then readDigits? 16 digits else readDigits? 8 (x :: digits)
  | text => readDigits? 10 text

/-- Parts of a name, without an empty one at the end. -/
def dropRoot (parts : List (List Char)) : List (List Char) :=
  if 1 < parts.length ∧ parts.getLast? = some [] then parts.dropLast else parts

/-- Whether the last part of a name is a number, so that the name can only be an
address. -/
def endsInNumber (parts : List (List Char)) : Bool :=
  match (dropRoot parts).getLast? with
  | none => false
  | some last => (!last.isEmpty && last.all Char.isDigit) || (readNumber? last).isSome

/-- The address with a given value. -/
def ofNat (value : Nat) : IPv4 :=
  ⟨UInt8.ofNat (value / 16777216), UInt8.ofNat (value / 65536), UInt8.ofNat (value / 256),
    UInt8.ofNat value⟩

/-- The value of numbers that fill `left` octets. -/
def fill? : Nat → List Nat → Option Nat
  | 0, _ => none
  | _, [] => none
  | left + 1, [last] => if last < Nat.pow 256 (left + 1) then some last else none
  | left + 1, octet :: rest =>
      if octet < 256 then (fill? left rest).map (octet * Nat.pow 256 left + ·) else none

/-- The address that the parts of a name write. -/
def ofNumbers? (parts : List (List Char)) : Option IPv4 := do
  let numbers ← (dropRoot parts).mapM readNumber?
  let value ← fill? 4 numbers
  return ofNat value

end DnsReconcile.IPv4
