/-
# Percent encoding

Octets as two hexadecimal digits after a percent sign, wherever a character cannot
stand for itself. Which characters can depends on where the text is used.
-/

import DnsReconcile.Text.Numeral
import DnsReconcile.Text.Utf8

namespace DnsReconcile.Http.Percent

/-- An octet as two capital hexadecimal digits after a percent sign. -/
def encodeOctet (octet : UInt8) : List Char :=
  let digit (value : Nat) : Char :=
    if value < 10 then Char.ofNat (48 + value) else Char.ofNat (55 + value)
  ['%', digit (octet.toNat / 16), digit (octet.toNat % 16)]

/-- A character, encoded if it does not stand for itself. -/
def encodeChar (isPlain : Char → Bool) (c : Char) : List Char :=
  if isPlain c then [c] else (String.utf8EncodeChar c).flatMap encodeOctet

/-- A text in which only some characters stand for themselves. -/
def encode (isPlain : Char → Bool) (text : List Char) : List Char :=
  text.flatMap (encodeChar isPlain)

/-- The octets of an encoded text. A percent sign without two digits after it stands
for itself. -/
def decode : List Char → List UInt8
  | '%' :: a :: b :: rest =>
      match Text.hexDigit? a, Text.hexDigit? b with
      | some high, some low => UInt8.ofNat (high * 16 + low) :: decode rest
      | _, _ => 37 :: decode (a :: b :: rest)
  | c :: rest => String.utf8EncodeChar c ++ decode rest
  | [] => []

end DnsReconcile.Http.Percent
