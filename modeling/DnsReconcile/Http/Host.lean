/-
# Hosts

Who answers for an address. Where the scheme is known, the host is an address of
the Internet or a domain name, and a name that ends in a number has to be an
address. For other schemes it is any text without the characters that divide an
address.
-/

import DnsReconcile.Address.IPv4.Numbers
import DnsReconcile.Address.IPv6
import DnsReconcile.DomainName
import DnsReconcile.Http.Percent

namespace DnsReconcile.Http

/-- The host of an address. -/
inductive Host where
  /-- No host, where an address may leave it out. -/
  | empty
  | name (name : DomainName)
  | ipv4 (address : IPv4)
  | ipv6 (address : IPv6)
  /-- A text that only the scheme understands. -/
  | other (text : List Char)
deriving Repr, DecidableEq

namespace Host

/-- Characters that divide an address, so that no host contains them. -/
def isDivider (c : Char) : Bool :=
  ['\x00', '\t', '\n', '\r', ' ', '#', '/', ':', '<', '>', '?', '@', '[', '\\', ']', '^',
    '|'].contains c

/-- The IPv6 address that a text in brackets writes. -/
def readBracketed? (text : List Char) : Option Host :=
  match text with
  | '[' :: rest =>
      if rest.getLast? = some ']' then (IPv6.read? rest.dropLast).map .ipv6 else none
  | _ => none

/-- A host after a scheme that is not known. -/
def readOther? (text : List Char) : Option Host :=
  if text.isEmpty then some .empty
  else if text.head? = some '[' then readBracketed? text
  else if text.any isDivider then none
  else some (.other text)

/-- A host after a scheme that is known. -/
def readKnown? (text : List Char) : Option Host :=
  if text.head? = some '[' then readBracketed? text
  else do
    let name ← DomainName.read? (Text.ofUtf8 (Percent.decode text))
    if IPv4.endsInNumber name.labels then
      let address ← IPv4.ofNumbers? name.labels
      return .ipv4 address
    else return .name name

end Host

end DnsReconcile.Http
