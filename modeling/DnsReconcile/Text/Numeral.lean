/-
# Numerals

Reading a decimal numeral: one plus sign at most, then at least one ASCII digit,
leading zeros allowed, and a value below a given bound. Nothing else is a
numeral, in particular no minus sign and no separators. Hexadecimal digits may be
capitals or not.
-/

namespace DnsReconcile.Text

/-- The digits of a numeral, without a plus sign in front. -/
def unsigned : List Char → List Char
  | '+' :: digits => digits
  | digits => digits

/-- The value of a decimal numeral below `bound`. -/
def readNat? (bound : Nat) (text : List Char) : Option Nat :=
  let digits := unsigned text
  if digits.isEmpty || !digits.all Char.isDigit then none
  else
    let value := Nat.ofDigitChars 10 digits 0
    if value < bound then some value else none

/-- An octet from its numeral. -/
def readUInt8? (text : List Char) : Option UInt8 :=
  (readNat? UInt8.size text).map UInt8.ofNat

/-- A 16-bit number from its numeral. -/
def readUInt16? (text : List Char) : Option UInt16 :=
  (readNat? UInt16.size text).map UInt16.ofNat

/-- A 32-bit number from its numeral. -/
def readUInt32? (text : List Char) : Option UInt32 :=
  (readNat? UInt32.size text).map UInt32.ofNat

/-- The value of a hexadecimal digit. -/
def hexDigit? (c : Char) : Option Nat :=
  let code := c.toNat
  if 48 ≤ code ∧ code ≤ 57 then some (code - 48)
  else if 65 ≤ code ∧ code ≤ 70 then some (code - 55)
  else if 97 ≤ code ∧ code ≤ 102 then some (code - 87)
  else none

end DnsReconcile.Text
