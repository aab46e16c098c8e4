/-
# UTF-8

The octets of a text and the text of octets. Octets are read from the front: each
step takes a character, or the longest beginning of one that cannot be completed.
Such a beginning is one fault, and so is an octet that begins nothing.
-/

namespace DnsReconcile.Text

/-- The octets of a text. -/
def utf8 (text : List Char) : List UInt8 :=
  text.flatMap String.utf8EncodeChar

/-- What the first octet of a character says about the whole. -/
structure Utf8Lead where
  /-- The bits that the first octet has of the code point. -/
  bits : Nat
  /-- How many octets follow. -/
  length : Nat
  /-- The bounds of the second octet, which keep out code points that are too small
  for their length, too large, or no characters. -/
  least : Nat
  greatest : Nat
deriving Repr, DecidableEq

namespace Utf8Lead

/-- What an octet says if it is the first of a character. -/
def ofOctet? (octet : UInt8) : Option Utf8Lead :=
  let value := octet.toNat
  if value < 0x80 then some ⟨value, 0, 0x80, 0xBF⟩
  else if value < 0xC2 then none
  else if value < 0xE0 then some ⟨value - 0xC0, 1, 0x80, 0xBF⟩
  else if value < 0xF0 then
    some ⟨value - 0xE0, 2, if value = 0xE0 then 0xA0 else 0x80,
      if value = 0xED then 0x9F else 0xBF⟩
  else if value < 0xF5 then
    some ⟨value - 0xF0, 3, if value = 0xF0 then 0x90 else 0x80,
      if value = 0xF4 then 0x8F else 0xBF⟩
  else none

/-- The octets that belong to the character, as far as they are there. -/
def following (lead : Utf8Lead) (rest : List UInt8) : List UInt8 :=
  match rest.take lead.length with
  | [] => []
  | second :: others =>
      if lead.least ≤ second.toNat ∧ second.toNat ≤ lead.greatest then
        second :: others.takeWhile fun octet => 0x80 ≤ octet.toNat && octet.toNat ≤ 0xBF
      else []

/-- The character with given octets after the first. -/
def character (lead : Utf8Lead) (octets : List UInt8) : Char :=
  Char.ofNat (octets.foldl (fun code octet => code * 64 + (octet.toNat - 0x80)) lead.bits)

end Utf8Lead

/-- Read octets, passing over the next `skip` of them, which have been read. A fault
is `none`. -/
def readUtf8From (skip : Nat) : List UInt8 → List (Option Char)
  | [] => []
  | octet :: rest =>
      match skip with
      | left + 1 => readUtf8From left rest
      | 0 =>
          match Utf8Lead.ofOctet? octet with
          | none => none :: readUtf8From 0 rest
          | some lead =>
              let octets := lead.following rest
              (if octets.length = lead.length then some (lead.character octets) else none) ::
                readUtf8From octets.length rest

/-- The characters and faults of octets, in order. -/
def readUtf8 (octets : List UInt8) : List (Option Char) :=
  readUtf8From 0 octets

/-- The character that stands for a fault. -/
def replacement : Char := '\uFFFD'

/-- The text of octets, whatever they are. -/
def ofUtf8 (octets : List UInt8) : List Char :=
  (readUtf8 octets).map fun c => c.getD replacement

/-- The text of octets without a fault. -/
def ofUtf8? (octets : List UInt8) : Option (List Char) :=
  (readUtf8 octets).mapM id

end DnsReconcile.Text
