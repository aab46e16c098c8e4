/-
# Providers

Whoever serves a zone. A provider decides some things on its own, without looking
at any zone it serves: which records it can hold, how it wants a zone changed,
what metadata it compares. For all else it is called: to list records or features,
or to carry out one action.
-/

import DnsReconcile.Correction
import DnsReconcile.Zone.Basic

namespace DnsReconcile

/-- A request to a provider about a zone. -/
inductive Call where
  /-- List the records. -/
  | fetch (zone : String)
  /-- List the features of the whole domain and their states. -/
  | fetchFeatures (zone : String)
  /-- Carry out one action. -/
  | write (zone : String) (action : Action)

/-- What a provider gives back. -/
abbrev Call.Answer : Call → Type
  | .fetch _ => Except Error (List Record)
  | .fetchFeatures _ => Except Error (Dict Bool)
  | .write _ _ => Except Error Unit

/-- The answer that refuses any request. -/
def Call.refuse (error : Error) : (call : Call) → call.Answer
  | .fetch _ => .error error
  | .fetchFeatures _ => .error error
  | .write _ _ => .error error

/-- Refuse the first record of a type that a provider does not support. -/
def auditTypes (reason : String) (supports : RecordType → Bool) (records : List Record) :
    Except Error Unit :=
  match records.find? fun record => !supports record.type with
  | some record => Record.refuse record.label record.type reason
  | none => .ok ()

/-- What a provider decides on its own. -/
structure Adapter where
  name : String
  /-- Adapt a desired zone before its records are brought into canonical form.
  Warnings may come with either outcome. -/
  preprocess : Zone → List String × Except Error Zone := fun zone => ([], .ok zone)
  /-- The metadata of a record that decides whether it has to be modified. -/
  comparable : Record → Dict String := fun _ => Dict.empty
  supports : RecordType → Bool := fun type => !type.isPseudo
  /-- Refuse desired records that the provider cannot hold. -/
  audit : List Record → Except Error Unit :=
    auditTypes ("record type not supported by " ++ name) supports

/-- A provider whose zones are part of a state. -/
structure Provider (σ : Type) where
  adapter : Adapter
  answer : (call : Call) → σ → call.Answer × σ

/-- The refusal of a provider that has no features. -/
def Adapter.noFeature {α : Type} (adapter : Adapter) (feature : String) : Except Error α :=
  .error (.unsupported (adapter.name ++ " does not manage feature '" ++ feature ++ "'"))

end DnsReconcile
