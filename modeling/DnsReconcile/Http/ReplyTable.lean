/-
# Tables of replies

A service that has its replies prepared, by method and path and possibly query.
Several replies to one request are given one after another, and the last of them
from then on.
-/

import DnsReconcile.Dict
import DnsReconcile.Http.Endpoint

namespace DnsReconcile.Http

/-- A prepared reply. -/
structure Prepared where
  status : Nat
  body : String
deriving Repr, DecidableEq

/-- The reply, which has no body where its status allows none. -/
def Prepared.reply (prepared : Prepared) : Reply :=
  .response prepared.status
    (if prepared.status = 204 ∨ prepared.status = 304 then "" else prepared.body)

/-- Prepared replies by method and path, and by query where that matters. -/
structure ReplyTable where
  routes : Dict (List Prepared) := Dict.empty

namespace ReplyTable

/-- The key for any query of a resource. -/
def plainKey (message : Message) : String :=
  message.method.name ++ " " ++ message.path

/-- The keys under which the reply to a message is looked for, in order. -/
def keys (message : Message) : List String :=
  match message.query with
  | some query => [plainKey message ++ "?" ++ query, plainKey message]
  | none => [plainKey message]

/-- The reply when nothing is prepared. -/
def noRoute : Reply := .response 404 "no route"

/-- Give the next reply. -/
def answer (message : Message) (table : ReplyTable) : Reply × ReplyTable :=
  match (keys message).find? table.routes.contains with
  | none => (noRoute, table)
  | some key =>
      match table.routes.get? key with
      | some (first :: second :: rest) =>
          (first.reply, ⟨table.routes.insert key (second :: rest)⟩)
      | some [last] => (last.reply, table)
      | _ => (noRoute, table)

end ReplyTable

end DnsReconcile.Http
