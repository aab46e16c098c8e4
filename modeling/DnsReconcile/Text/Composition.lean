/-
# Canonical composition

Texts that look the same and mean the same have one composed form: marks stand in the
order of their classes, and every character is merged with the marks that follow it
wherever a character for both exists.
-/

import DnsReconcile.Text.CaseTable
import DnsReconcile.Text.CompositionTable

namespace DnsReconcile.Text

/-- The combining class of a character. It is zero unless the character is a mark that
may change places with others. -/
def combiningClass (c : Char) : Nat :=
  if c.toNat < 0x300 then 0
  else ((combiningClasses.find? fun entry => inRanges entry.ranges c.toNat).map (·.value)).getD 0

/-- The syllable that two parts make: a consonant and a vowel, or a syllable of these
and a consonant. -/
def hangulOfParts? (first second : Nat) : Option Nat :=
  if 0x1100 ≤ first ∧ first < 0x1113 ∧ 0x1161 ≤ second ∧ second < 0x1176 then
    some (0xAC00 + ((first - 0x1100) * 21 + (second - 0x1161)) * 28)
  else if 0xAC00 ≤ first ∧ first < 0xD7A4 ∧ (first - 0xAC00) % 28 = 0 ∧
      0x11A7 < second ∧ second < 0x11C3 then
    some (first + (second - 0x11A7))
  else none

/-- The two parts of a syllable. -/
def hangulParts? (code : Nat) : Option (Nat × Nat) :=
  if 0xAC00 ≤ code ∧ code < 0xD7A4 then
    let index := code - 0xAC00
    if index % 28 = 0 then some (0x1100 + index / 588, 0x1161 + index % 588 / 28)
    else some (code - index % 28, 0x11A7 + index % 28)
  else none

/-- The character that a character and one after it make. -/
def ofParts? (first second : Char) : Option Char :=
  match hangulOfParts? first.toNat second.toNat with
  | some code => some (Char.ofNat code)
  | none =>
      compositionRows.findSome? fun row =>
        if row.mark = second.toNat then
          ((row.bases.toList.zip row.composites.toList).find? (·.1 == first)).map (·.2)
        else none

/-- The two characters that a character is made of. -/
def parts? (c : Char) : Option (Char × Char) :=
  match hangulParts? c.toNat with
  | some (first, second) => some (Char.ofNat first, Char.ofNat second)
  | none =>
      if c.toNat < 0xC0 then none
      else
        compositionRows.findSome? fun row =>
          ((row.bases.toList.zip row.composites.toList).find? (·.2 == c)).map
            fun pair => (pair.1, Char.ofNat row.mark)

/-- A character taken apart, and its first part again, so often at most. -/
def takeApart : Nat → Char → List Char
  | 0, c => [c]
  | depth + 1, c =>
      match parts? c with
      | some (first, second) => takeApart depth first ++ [second]
      | none => [c]

/-- The most marks that one character is made with. -/
def deepest : Nat := 4

/-- A character put in front of marks, in the order of their classes. -/
def insertMark (c : Char) : List Char → List Char
  | [] => [c]
  | d :: rest =>
      if 0 < combiningClass d ∧ combiningClass d < combiningClass c then d :: insertMark c rest
      else c :: d :: rest

/-- A text with every run of marks in the order of their classes. -/
def orderMarks (text : List Char) : List Char :=
  text.foldr insertMark []

/-- Merge a character with the marks after it. `marks` are those that stay, the last
one first. A mark of the same or a higher class, or a character that is no mark, keeps
what follows from being merged. -/
def mergeFrom (base : Char) (marks : List Char) : List Char → List Char
  | [] => base :: marks.reverse
  | c :: rest =>
      let isFree := marks.all fun mark => combiningClass mark < combiningClass c
      match if isFree then ofParts? base c else none with
      | some merged => mergeFrom merged marks rest
      | none =>
          if combiningClass c = 0 then base :: marks.reverse ++ mergeFrom c [] rest
          else mergeFrom base (c :: marks) rest

/-- Merge every character of a text with the marks after it. Marks in front of the text
stay. -/
def merge (text : List Char) : List Char :=
  text.takeWhile (combiningClass · != 0) ++
    match text.dropWhile (combiningClass · != 0) with
    | [] => []
    | base :: rest => mergeFrom base [] rest

/-- The composed form of a text. ASCII text is composed. -/
def compose (text : List Char) : List Char :=
  if text.all (·.toNat < 128) then text
  else merge (orderMarks (text.flatMap (takeApart deepest)))

end DnsReconcile.Text
