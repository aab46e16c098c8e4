/-
# Authorities

The part of an address between two slashes and the path: the host, a port, and
possibly the name and the password with which the host is asked.
-/

import DnsReconcile.Http.Host
import DnsReconcile.Http.Path
import DnsReconcile.Text.Base64

namespace DnsReconcile.Http

/-- A user's name and password, as an address writes them. -/
structure Credentials where
  user : List Char
  password : Option (List Char)
deriving Repr, DecidableEq

namespace Credentials

/-- The credentials before the at sign. An empty password is none, and nothing at all
is no credentials. -/
def read? (text : List Char) : Option Credentials :=
  let user := text.takeWhile (· != ':')
  let password := (text.dropWhile (· != ':')).drop 1
  if user.isEmpty && password.isEmpty then none
  else some ⟨user, if password.isEmpty then none else some password⟩

/-- How a message proves who asks, unless the name cannot be read or nothing is
left. A password that cannot be read is left out. -/
def authorization? (credentials : Credentials) : Option String := do
  let user ← Text.ofUtf8? (Percent.decode credentials.user)
  let password := credentials.password.bind fun text => Text.ofUtf8? (Percent.decode text)
  if user.isEmpty && password.isNone then none
  let text := user ++ ':' :: password.getD []
  return "Basic " ++ String.ofList (Text.Base64.encode (Text.utf8 text))

end Credentials

/-- Whom an address names. -/
structure Authority where
  credentials : Option Credentials := none
  host : Host
  port : Option UInt16 := none
deriving Repr, DecidableEq

namespace Authority

/-- The text up to a colon outside brackets, and the rest. -/
def splitHost (bracketed : Bool) : List Char → List Char × List Char
  | [] => ([], [])
  | c :: rest =>
      if c == ':' && !bracketed then ([], c :: rest)
      else
        let (host, rest) := splitHost (if c == '[' then true else bracketed && c != ']') rest
        (c :: host, rest)

/-- A port after its colon, and what follows its digits. The number may be left out. -/
def splitPort? (text : List Char) : Option (Option UInt16 × List Char) :=
  match text with
  | ':' :: rest =>
      let digits := rest.takeWhile Char.isDigit
      let rest := rest.dropWhile Char.isDigit
      if digits.isEmpty then some (none, rest)
      else (Text.readUInt16? digits).map fun port => (some port, rest)
  | _ => some (none, text)

/-- The part before the last at sign, if there is one, and the part after it. -/
def splitUser (text : List Char) : Option (List Char) × List Char :=
  match (text.splitOn '@').getLast? with
  | some last =>
      if last.length = text.length then (none, text)
      else (some (text.take (text.length - last.length - 1)), last)
  | none => (none, text)

/-- The text up to the path, and the path. -/
def split (scheme : Scheme) (text : List Char) : List Char × List Char :=
  text.span fun c => !scheme.isSlash c

/-- The authority in front of a path, and the path. A backslash ends the port wherever it
can stand in an authority. An address that names a user or a port also names a host. -/
def read? (scheme : Scheme) (text : List Char) : Option (Authority × List Char) := do
  let (inside, outside) := split scheme text
  let (user, place) := splitUser inside
  let (name, rest) := splitHost false place
  let host ← if scheme.isKnown then Host.readKnown? name else Host.readOther? name
  let (port, left) ← splitPort? rest
  if !(left.isEmpty || left.head? == some '\\') then none
  let credentials := user.bind Credentials.read?
  if host = .empty ∧ (!rest.isEmpty ∨ credentials.isSome ∨ user = some []) then none
  return (⟨credentials, host, port⟩, left ++ outside)

/-- The host in front of a file's path, and the path. A drive in its place belongs to
the path. The host may be left out, which means the same as the machine itself. -/
def readFile? (scheme : Scheme) (text : List Char) : Option (Host × List Char) := do
  let (inside, outside) := split scheme text
  if Path.isDrive inside then return (.empty, text)
  if inside.isEmpty then return (.empty, outside)
  let host ← Host.readKnown? inside
  return (if host = .name .localhost then .empty else host, outside)

end Authority

end DnsReconcile.Http
