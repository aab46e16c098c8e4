/-
# Addresses of web resources

An absolute address: its scheme, whom it names, the path, the query and the
fragment. The path, the query and the fragment are kept in the form in which they
are sent or shown. An address need not name a host; then it can be shown but no
message can be sent to it.
-/

import DnsReconcile.Http.Authority
import DnsReconcile.Http.Query
import DnsReconcile.Text.Blank

namespace DnsReconcile.Http

/-- An absolute address. -/
structure Url where
  scheme : Scheme
  /-- Whom the address names, if two slashes announce it. -/
  authority : Option Authority
  path : List Char
  query : Option (List Char) := none
  fragment : Option (List Char) := none
deriving Repr, DecidableEq

namespace Url

/-- Text without the control characters and spaces around it, and without the tabs
and line breaks in it. -/
def clean (text : List Char) : List Char :=
  let outer (c : Char) : Bool := c.toNat ≤ 32
  let inner := Text.dropEndWhile outer (text.dropWhile outer)
  inner.filter fun c => c != '\t' && c != '\n' && c != '\r'

/-- Characters that stand for themselves in a path without segments. -/
def isPlainInText (c : Char) : Bool :=
  32 ≤ c.toNat && c.toNat < 127

/-- Characters that stand for themselves in a query. -/
def isPlainInQuery (scheme : Scheme) (c : Char) : Bool :=
  32 < c.toNat && c.toNat < 127 && !(['"', '#', '<', '>'].contains c) &&
    !(scheme.isKnown && c == '\'')

/-- Characters that stand for themselves in a fragment. -/
def isPlainInFragment (c : Char) : Bool :=
  32 < c.toNat && c.toNat < 127 && !(['"', '<', '>', '\x60'].contains c)

/-- Text without a slash in front. -/
def dropSlash (scheme : Scheme) (text : List Char) : List Char :=
  match text with
  | c :: rest => if scheme.isSlash c then rest else text
  | [] => []

/-- The authority and the path of a web address. Slashes in front of the host count
as two, however many there are. -/
def readWeb? (scheme : Scheme) (text : List Char) : Option (Option Authority × List Char) := do
  let (authority, rest) ← Authority.read? scheme (text.dropWhile scheme.isSlash)
  return (some authority, Path.print (Path.segments scheme (dropSlash scheme rest)))

/-- The authority and the path of a file's address. A drive in front of the path takes
the place of the host, and empty segments there are left out. -/
def readFile? (scheme : Scheme) (text : List Char) : Option (Option Authority × List Char) := do
  let written (host : Host) (segments : List (List Char)) : Option Authority × List Char :=
    (some { host }, Path.print (Path.dropEmpty segments))
  match text with
  | a :: b :: rest =>
      if scheme.isSlash a && scheme.isSlash b then
        let (host, rest) ← Authority.readFile? scheme rest
        if host = .empty then return written .empty (Path.segments scheme rest)
        let segments := Path.segments scheme (dropSlash scheme rest)
        let onDrive := (segments.head?.map Path.isDrive).getD false
        return written (if onDrive then .empty else host) segments
      else return written .empty (Path.segments scheme (dropSlash scheme text))
  | _ => return written .empty (Path.segments scheme (dropSlash scheme text))

/-- The authority and the path of an address with any other scheme. Only a path that
begins with a slash has segments, and there is none after an authority without a
slash. -/
def readOther? (scheme : Scheme) (text : List Char) : Option (Option Authority × List Char) := do
  match text with
  | '/' :: '/' :: rest =>
      let (authority, rest) ← Authority.read? scheme rest
      let path :=
        if rest.isEmpty then [] else Path.print (Path.segments scheme (dropSlash scheme rest))
      return (some authority, path)
  | '/' :: rest => return (none, Path.print (Path.segments scheme rest))
  | _ => return (none, Percent.encode isPlainInText text)

/-- The address that a text writes. -/
def read? (text : String) : Option Url := do
  let (scheme, rest) ← Scheme.split? (clean text.toList)
  let main := rest.takeWhile (· != '#')
  let fragment := (rest.dropWhile (· != '#')).drop 1
  let query := (main.dropWhile (· != '?')).drop 1
  let place := main.takeWhile (· != '?')
  let (authority, path) ←
    if scheme.isWeb then readWeb? scheme place
    else if scheme.isFile then readFile? scheme place
    else readOther? scheme place
  return {
    scheme, authority, path
    query :=
      if place.length < main.length then some (Percent.encode (isPlainInQuery scheme) query)
      else none
    fragment :=
      if main.length < rest.length then some (Percent.encode isPlainInFragment fragment) else none }

/-- Whether the address names a host. -/
def hasHost (url : Url) : Bool :=
  match url.authority with
  | some authority => authority.host != .empty
  | none => false

/-- The credentials that the address holds. -/
def credentials? (url : Url) : Option Credentials :=
  url.authority.bind (·.credentials)

/-- The written form of an address that names no host. A path with two slashes in
front is kept apart from an authority. -/
def printHostless (url : Url) : String :=
  let slashes :=
    match url.authority, url.path with
    | some _, _ => ['/', '/']
    | none, '/' :: '/' :: _ => ['/', '.']
    | none, _ => []
  let part (mark : Char) (text : Option (List Char)) : List Char :=
    match text with
    | some text => mark :: text
    | none => []
  url.scheme.name ++ ":" ++
    String.ofList (slashes ++ url.path ++ part '?' url.query ++ part '#' url.fragment)

/-- The address with further names and values in its query. -/
def withQuery (url : Url) (pairs : List (String × String)) : Url :=
  let added := Query.encode pairs
  let query :=
    match url.query with
    | some given =>
        if given.isEmpty then added
        else if added.isEmpty then given
        else given ++ '&' :: added
    | none => added
  { url with query := if query.isEmpty then none else some query }

end Url

end DnsReconcile.Http
