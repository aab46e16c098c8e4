/-
# Queries

The names and values that follow the path of a request, in the form in which web
forms send them: a plus sign for a space, and two hexadecimal digits after a
percent sign for every octet outside a small set.
-/

import DnsReconcile.Http.Percent

namespace DnsReconcile.Http.Query

/-- Characters that stand for themselves. -/
def isPlain (c : Char) : Bool :=
  c.isAlphanum || c == '*' || c == '-' || c == '.' || c == '_'

/-- One character of a name or a value. -/
def encodeChar (c : Char) : List Char :=
  if c = ' ' then ['+'] else Percent.encodeChar isPlain c

/-- A name or a value. -/
def encodePart (text : String) : List Char :=
  text.toList.flatMap encodeChar

/-- A name and its value. -/
def encodePair (pair : String × String) : List Char :=
  encodePart pair.1 ++ '=' :: encodePart pair.2

/-- Names and values in order. -/
def encode (pairs : List (String × String)) : List Char :=
  ['&'].intercalate (pairs.map encodePair)

/-- A name or a value from its encoded form. -/
def decodePart (text : List Char) : String :=
  String.ofList
    (Text.ofUtf8 (Percent.decode (text.map fun c => if c = '+' then ' ' else c)))

/-- A name and its value, which is empty if no equals sign divides them. -/
def decodePair (text : List Char) : String × String :=
  (decodePart (text.takeWhile (· != '=')), decodePart ((text.dropWhile (· != '=')).drop 1))

/-- Names and values in order. -/
def decode (text : List Char) : List (String × String) :=
  ((text.splitOn '&').filter fun part => !part.isEmpty).map decodePair

end DnsReconcile.Http.Query
