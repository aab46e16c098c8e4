/-
# IPv4 addresses

Four octets, written in decimal with dots between them. The written form is
unique: no octet has a leading zero, and nothing may be left out.
-/

import DnsReconcile.Text.Numeral

namespace DnsReconcile

/-- An IPv4 address. -/
structure IPv4 where
  first : UInt8
  second : UInt8
  third : UInt8
  fourth : UInt8
deriving Repr, DecidableEq

namespace IPv4

/-- An octet written with one to three digits and no leading zero. -/
def readOctet? (text : List Char) : Option UInt8 :=
  if 3 < text.length || !text.all Char.isDigit || (1 < text.length && text.head? == some '0') then
    none
  else Text.readUInt8? text

/-- The address that a text writes. -/
def read? (text : List Char) : Option IPv4 :=
  match text.splitOn '.' with
  | [a, b, c, d] => do
      let a ← readOctet? a
      let b ← readOctet? b
      let c ← readOctet? c
      let d ← readOctet? d
      return ⟨a, b, c, d⟩
  | _ => none

/-- The written form of an address. -/
def print (address : IPv4) : String :=
  ".".intercalate
    [toString address.first, toString address.second, toString address.third,
      toString address.fourth]

end IPv4

end DnsReconcile
