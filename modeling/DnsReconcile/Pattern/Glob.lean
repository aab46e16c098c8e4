/-
# Globs

A glob describes text that is divided into segments by slashes. `?` stands for one
character, `*` for any run of characters and a class in brackets for one of several
characters, but never for a slash. ASCII letters match regardless of case. A
character at the front of a class belongs to it even if it is a bracket.
-/

import DnsReconcile.Text.Case

namespace DnsReconcile.Pattern

/-- What belongs to a character class. -/
inductive ClassItem where
  | single (c : Char)
  | range (first last : Char)
deriving Repr, DecidableEq

/-- A part of a glob. -/
inductive Token where
  | literal (c : Char)
  | anyChar
  | anyRun
  | oneOf (items : List ClassItem)
  | noneOf (items : List ClassItem)
deriving Repr, DecidableEq

/-- A glob, as the parts it is made of. -/
abbrev Glob := List Token

/-- The characters between the brackets of a class as items of the class. -/
def classItems : List Char → List ClassItem
  | first :: '-' :: last :: rest => .range first last :: classItems rest
  | c :: rest => .single c :: classItems rest
  | [] => []

/-- Where in a glob the next character stands. -/
inductive Place where
  | outside
  /-- Right after an opening bracket. -/
  | opened
  /-- Right after an opening bracket and an exclamation mark. -/
  | openedNegated
  /-- In a class that has these characters so far, the last one first. -/
  | inside (negated : Bool) (chars : List Char)

/-- The token of a finished class. -/
def classToken (negated : Bool) (items : List ClassItem) : Token :=
  if negated then .noneOf items else .oneOf items

/-- Read the rest of a glob. There is none if a class is not closed. -/
def Glob.readFrom? : Place → List Char → Option Glob
  | .outside, [] => some []
  | _, [] => none
  | .outside, c :: rest =>
      if c = '[' then readFrom? .opened rest
      else
        let token : Token := if c = '?' then .anyChar else if c = '*' then .anyRun else .literal c
        (readFrom? .outside rest).map (token :: ·)
  | .opened, c :: rest =>
      if c = '!' then readFrom? .openedNegated rest else readFrom? (.inside false [c]) rest
  | .openedNegated, c :: rest => readFrom? (.inside true [c]) rest
  | .inside negated chars, c :: rest =>
      if c = ']' then
        (readFrom? .outside rest).map (classToken negated (classItems chars.reverse) :: ·)
      else readFrom? (.inside negated (c :: chars)) rest

/-- Read a glob. -/
def Glob.read? (text : List Char) : Option Glob :=
  Glob.readFrom? .outside text

/-- An ASCII character. -/
def isAscii (c : Char) : Bool :=
  c.toNat < 128

/-- An ASCII letter in lower case. -/
def isAsciiLower (c : Char) : Bool :=
  97 ≤ c.toNat && c.toNat ≤ 122

/-- Whether a character lies between two others. -/
def between (first last c : Char) : Bool :=
  first.toNat ≤ c.toNat && c.toNat ≤ last.toNat

/-- Whether a class item covers a character. A range whose ends are letters also
covers what lies between them once all are in lower case. -/
def ClassItem.covers (item : ClassItem) (c : Char) : Bool :=
  match item with
  | .single other => Text.asciiLowerChar c == Text.asciiLowerChar other
  | .range first last =>
      let low := Text.asciiLowerChar first
      let high := Text.asciiLowerChar last
      (isAscii c && isAsciiLower low && isAsciiLower high &&
        between low high (Text.asciiLowerChar c)) || between first last c

/-- The character that divides segments. -/
def separator : Char := '/'

/-- Whether a token that stands for one character stands for this one. -/
def Token.covers (token : Token) (c : Char) : Bool :=
  match token with
  | .literal other => Text.asciiLowerChar c == Text.asciiLowerChar other
  | .anyChar => c != separator
  | .oneOf items => c != separator && items.any (·.covers c)
  | .noneOf items => c != separator && !items.any (·.covers c)
  | .anyRun => false

/-- Whether a text can be divided in two so that the first part lies in one segment
and the second part satisfies a condition. -/
def afterRun (goal : List Char → Bool) : List Char → Bool
  | [] => goal []
  | c :: rest => goal (c :: rest) || (c != separator && afterRun goal rest)

/-- Whether a glob describes a text. -/
def Glob.covers : Glob → List Char → Bool
  | [], text => text.isEmpty
  | .anyRun :: rest, text => afterRun (covers rest) text
  | token :: rest, text =>
      match text with
      | [] => false
      | c :: others => token.covers c && covers rest others

end DnsReconcile.Pattern
