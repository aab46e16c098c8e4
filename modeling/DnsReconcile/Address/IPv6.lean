/-
# IPv6 addresses

Eight groups of sixteen bits in hexadecimal, with colons between them. When
reading, `::` stands for one or more zero groups, once at most, and the last two
groups may be written as an IPv4 address. When printing, `::` takes the place of
the first longest run of at least two zero groups, and an IPv4-mapped address
shows its IPv4 part.
-/

import DnsReconcile.Address.IPv4

namespace DnsReconcile

/-- An IPv6 address. -/
structure IPv6 where
  groups : List UInt16
  length_groups : groups.length = 8
deriving Repr, DecidableEq

namespace IPv6

/-- A group of one to four hexadecimal digits. -/
def readGroup? (text : List Char) : Option UInt16 :=
  if text.isEmpty || 4 < text.length then none
  else
    (text.mapM Text.hexDigit?).map fun digits =>
      UInt16.ofNat (digits.foldl (fun value digit => value * 16 + digit) 0)

/-- The two groups of an IPv4 address. -/
def groupsOfIPv4 (address : IPv4) : List UInt16 :=
  [address.first.toUInt16 * 256 + address.second.toUInt16,
    address.third.toUInt16 * 256 + address.fourth.toUInt16]

/-- The groups of pieces between colons. Only the last piece may be an IPv4
address, and only if `dotted` allows it. -/
def readPieces? (dotted : Bool) : List (List Char) → Option (List UInt16)
  | [] => some []
  | [piece] =>
      if dotted && piece.contains '.' then (IPv4.read? piece).map groupsOfIPv4
      else (readGroup? piece).map ([·])
  | piece :: rest => do
      let group ← readGroup? piece
      let others ← readPieces? dotted rest
      return group :: others

/-- The groups of a text without `::`. No text gives no groups. -/
def readGroups? (dotted : Bool) (text : List Char) : Option (List UInt16) :=
  if text.isEmpty then some [] else readPieces? dotted (text.splitOn ':')

/-- The text before and after the first `::`. -/
def splitElision? : List Char → Option (List Char × List Char)
  | ':' :: ':' :: rest => some ([], rest)
  | c :: rest => (splitElision? rest).map fun parts => (c :: parts.1, parts.2)
  | [] => none

/-- The address with given groups, if there are eight. -/
def ofGroups? (groups : List UInt16) : Option IPv6 :=
  if eight : groups.length = 8 then some ⟨groups, eight⟩ else none

/-- The address that a text writes. -/
def read? (text : List Char) : Option IPv6 :=
  match splitElision? text with
  | none => (readGroups? true text).bind ofGroups?
  | some (front, back) => do
      let before ← readGroups? false front
      let after ← readGroups? true back
      if before.length + after.length ≤ 7 then
        ofGroups? (before ++ List.replicate (8 - before.length - after.length) 0 ++ after)
      else none

/-- The number of zero groups at the front. -/
def leadingZeros (groups : List UInt16) : Nat :=
  (groups.takeWhile (· == 0)).length

/-- Where the first longest run of zero groups begins, and its length. -/
def longestZeros : List UInt16 → Nat × Nat
  | [] => (0, 0)
  | group :: rest =>
      let here := leadingZeros (group :: rest)
      let (start, length) := longestZeros rest
      if length ≤ here then (0, here) else (start + 1, length)

/-- Groups in hexadecimal with colons between them. -/
def printGroups (groups : List UInt16) : String :=
  ":".intercalate (groups.map fun group => String.ofList (Nat.toDigits 16 group.toNat))

/-- The IPv4 address that the last two groups write. -/
def tailAddress (high low : UInt16) : IPv4 :=
  ⟨(high >>> 8).toUInt8, high.toUInt8, (low >>> 8).toUInt8, low.toUInt8⟩

/-- The written form of an address. -/
def print (address : IPv6) : String :=
  match address.groups with
  | [0, 0, 0, 0, 0, 0xFFFF, high, low] => "::ffff:" ++ (tailAddress high low).print
  | groups =>
      let (start, length) := longestZeros groups
      if 1 < length then
        printGroups (groups.take start) ++ "::" ++ printGroups (groups.drop (start + length))
      else printGroups groups

end IPv6

end DnsReconcile
