/-
# Requests and replies

What is asked of a web service and what it says. A request does not know where
the service is or who asks; an endpoint adds that when the request is sent.
-/

import DnsReconcile.Json.Basic

namespace DnsReconcile.Http

/-- What a request wants with a resource. -/
inductive Method where
  | get
  | post
  | put
  | patch
  | delete
deriving Repr, DecidableEq

/-- The name of a method in a message. -/
def Method.name : Method → String
  | get => "GET"
  | post => "POST"
  | put => "PUT"
  | patch => "PATCH"
  | delete => "DELETE"

/-- What is asked of a service. -/
structure Request where
  method : Method
  /-- Below the address of the service, with a slash in front. -/
  path : String
  query : List (String × String) := []
  body : Option Json := none
deriving Repr, BEq

/-- What came back. -/
inductive Reply where
  /-- The request was not sent, or nobody answered. -/
  | failure (reason : String)
  | response (status : Nat) (body : String)
deriving Repr, DecidableEq

end DnsReconcile.Http
