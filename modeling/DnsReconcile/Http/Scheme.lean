/-
# Schemes

The word in front of an address, and what it says about the rest: whether a host
has to be named, and whether a backslash divides like a slash.
-/

import DnsReconcile.Text.Case

namespace DnsReconcile.Http

/-- The scheme of an address, in lower case. -/
structure Scheme where
  name : String
deriving Repr, DecidableEq

namespace Scheme

/-- Characters of a scheme after the letter it begins with. -/
def isSchemeChar (c : Char) : Bool :=
  c.isAlphanum || c == '+' || c == '-' || c == '.'

/-- The scheme of an address and what follows its colon. -/
def split? (text : List Char) : Option (Scheme × List Char) :=
  let scheme := text.takeWhile isSchemeChar
  match scheme, text.dropWhile isSchemeChar with
  | first :: _, ':' :: rest =>
      if first.isAlpha then some (⟨String.ofList (Text.asciiLower scheme)⟩, rest) else none
  | _, _ => none

/-- Schemes whose addresses always name a host. -/
def isWeb (scheme : Scheme) : Bool :=
  ["http", "https", "ws", "wss", "ftp"].contains scheme.name

/-- The scheme of local files, whose addresses may name a host. -/
def isFile (scheme : Scheme) : Bool :=
  scheme.name == "file"

/-- Schemes that the rules of addresses know. -/
def isKnown (scheme : Scheme) : Bool :=
  scheme.isWeb || scheme.isFile

/-- Characters that divide the parts of a path. -/
def isSlash (scheme : Scheme) (c : Char) : Bool :=
  c == '/' || (scheme.isKnown && c == '\\')

end Scheme

end DnsReconcile.Http
