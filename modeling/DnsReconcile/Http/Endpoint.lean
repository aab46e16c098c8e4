/-
# Endpoints

Where a service is and on whose behalf it is asked. An endpoint turns a request
into the message that goes over the wire. That fails, before anything is sent, if
the address does not name a host or the token does not fit into a header.
-/

import DnsReconcile.Http.Basic
import DnsReconcile.Http.Url

namespace DnsReconcile.Http

/-- A request as it is sent. -/
structure Message where
  method : Method
  path : String
  /-- In the form in which it stands after the question mark. -/
  query : Option String
  body : Option Json
  authorization : String
  contentType : String
deriving Repr, BEq

/-- Why a request cannot be sent. -/
inductive Unsendable where
  /-- The text is no address. -/
  | malformed
  /-- Nobody is named who could be asked. -/
  | hostless (url : Url)
  /-- The token has a character that no header has. -/
  | badToken
deriving Repr, DecidableEq

/-- The reason in words, with the address if there is one. -/
def Unsendable.reason : Unsendable → String
  | malformed | badToken => "builder error"
  | hostless url => "builder error for url (" ++ url.printHostless ++ ")"

/-- Where a service is and who asks it. -/
structure Endpoint where
  /-- The address of the service, without slashes at the end. -/
  base : String
  /-- What proves who asks. -/
  token : String
deriving DecidableEq

namespace Endpoint

/-- The endpoint at an address, which may be written with slashes at the end. -/
def ofAddress (address token : String) : Endpoint where
  base := String.ofList (Text.dropEndWhile (· == '/') address.toList)
  token := token

/-- Whether a character may stand in a header. -/
def isHeaderChar (c : Char) : Bool :=
  c == '\t' || (32 ≤ c.toNat && c.toNat != 127)

/-- What proves who asks: the credentials in the address if it holds any, and else the
token. -/
def authorization (endpoint : Endpoint) (url : Url) : String :=
  (url.credentials?.bind (·.authorization?)).getD ("Bearer " ++ endpoint.token)

/-- The message for a request. -/
def message (endpoint : Endpoint) (request : Request) : Except Unsendable Message := do
  let some url := Url.read? (endpoint.base ++ request.path) | throw .malformed
  if !url.hasHost then throw (.hostless url)
  if !endpoint.token.toList.all isHeaderChar then throw .badToken
  let sent := url.withQuery request.query
  return {
    method := request.method
    path := String.ofList sent.path
    query := sent.query.map String.ofList
    body := request.body
    authorization := endpoint.authorization url
    contentType := "application/json" }

/-- Send a request over a network that has a state. -/
def send {ω : Type} (endpoint : Endpoint) (network : Message → ω → Reply × ω)
    (request : Request) (state : ω) : Reply × ω :=
  match endpoint.message request with
  | .ok message => network message state
  | .error fault => (.failure fault.reason, state)

end Endpoint

end DnsReconcile.Http
