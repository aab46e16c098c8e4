/-
# Quoted strings

The presentation form of a character string: between quotation marks, with a
backslash in front of quotation marks and backslashes. Taking the quotation marks
off again is lenient: text that does not stand between two of them is returned as
it is, and escapes are undone in two passes, quotation marks first.
-/

import DnsReconcile.Text.Blank

namespace DnsReconcile.Text

/-- Put a backslash in front of each backslash and each quotation mark. -/
def escapeQuotes : List Char → List Char
  | [] => []
  | c :: rest =>
      if c = '"' ∨ c = '\\' then '\\' :: c :: escapeQuotes rest else c :: escapeQuotes rest

/-- A string between quotation marks. -/
def quote (text : List Char) : List Char :=
  '"' :: escapeQuotes text ++ ['"']

/-- Replace each backslash pair `\c`, read from the left, by the character `c`
alone. -/
def unescape (c : Char) : List Char → List Char
  | '\\' :: d :: rest =>
      if d = c then c :: unescape c rest else '\\' :: unescape c (d :: rest)
  | d :: rest => d :: unescape c rest
  | [] => []

/-- The text between a quotation mark at either end, if both are there. -/
def betweenQuotes? (text : List Char) : Option (List Char) :=
  (stripPrefix? ['"'] text).bind (stripSuffix? ['"'])

/-- Take off the quotation marks and undo the escapes. -/
def unquote (text : List Char) : List Char :=
  match betweenQuotes? text with
  | some inner => unescape '\\' (unescape '"' inner)
  | none => text

end DnsReconcile.Text
