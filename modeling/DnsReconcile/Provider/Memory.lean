/-
# Zones in memory

A store that holds records and features of any number of zones. A zone that nobody
wrote to is empty. Every record gets an identifier when it is stored, and no
identifier is given twice. A feature can be switched once its state has been set.
-/

import DnsReconcile.Provider.Basic

namespace DnsReconcile

/-- The zones of a provider that keeps them in memory. -/
structure Store where
  zones : Dict (List Record) := Dict.empty
  features : Dict (Dict Bool) := Dict.empty
  /-- How many identifiers have been given. The counter is taken not to wrap. -/
  issued : Nat := 0

namespace Store

/-- The identifier that is given as the `n`th. -/
def identifier (n : Nat) : String :=
  "mem-" ++ toString n

/-- A record under a new identifier, and the store that has given it. -/
def stamp (store : Store) (record : Record) : Record × Store :=
  (record.withRef (identifier (store.issued + 1)) .null,
    { store with issued := store.issued + 1 })

/-- Records under new identifiers, in order. -/
def stampAll (store : Store) : List Record → List Record × Store
  | [] => ([], store)
  | record :: rest =>
      let (stamped, store) := store.stamp record
      let (others, store) := store.stampAll rest
      (stamped :: others, store)

/-- The records of a zone. -/
def records (store : Store) (zone : String) : List Record :=
  (store.zones.get? zone).getD []

/-- The features of a zone and their states. -/
def featuresOf (store : Store) (zone : String) : Dict Bool :=
  (store.features.get? zone).getD Dict.empty

/-- Replace the records of a zone. -/
def seed (store : Store) (zone : String) (records : List Record) : Store :=
  let (stamped, store) := store.stampAll records
  { store with zones := store.zones.insert zone stamped }

/-- Set which features a zone has and their states. -/
def setFeatures (store : Store) (zone : String) (features : Dict Bool) : Store :=
  { store with features := store.features.insert zone features }

/-- Whether a stored record is the one that is meant: by identifier if the record
that is asked for has one, else by its content. -/
def isMeant (wanted stored : Record) : Bool :=
  match wanted.ref with
  | some ref =>
      match stored.ref with
      | some own => own.id == ref.id
      | none => false
  | none => stored.sameAs wanted

/-- The position of the record that is meant. -/
def position? (records : List Record) (wanted : Record) : Option Nat :=
  records.findIdx? (isMeant wanted)

/-- Add a record to a zone. -/
def create (store : Store) (zone : String) (record : Record) : Store :=
  let (stamped, store) := store.stamp record
  { store with zones := store.zones.insert zone (store.records zone ++ [stamped]) }

/-- The refusal for a record that is not in its zone. -/
def missing {α : Type} (zone : String) (record : Record) : Except Error α :=
  .error (.notFound (record.type.name ++ " record '" ++ record.label ++ "' in " ++ zone))

/-- Change the records of a zone at the position of the record that is meant. -/
def changeAt (store : Store) (zone : String) (wanted : Record)
    (change : List Record → Nat → List Record) : Except Error Store :=
  match store.zones.get? zone with
  | none => .error (.notFound ("zone " ++ zone))
  | some records =>
      match position? records wanted with
      | none => missing zone wanted
      | some index => .ok { store with zones := store.zones.insert zone (change records index) }

/-- Replace a record. It keeps its identifier. -/
def update (store : Store) (zone : String) (existing desired : Record) : Except Error Store :=
  store.changeAt zone existing fun records index =>
    records.modify index fun stored => { desired with ref := stored.ref }

/-- Remove a record. -/
def delete (store : Store) (zone : String) (record : Record) : Except Error Store :=
  store.changeAt zone record fun records index => records.eraseIdx index

/-- Switch a feature whose state is known. -/
def setFeature (store : Store) (zone feature : String) (enabled : Bool) : Except Error Store :=
  let features := store.featuresOf zone
  if features.contains feature then
    .ok { store with features := store.features.insert zone (features.insert feature enabled) }
  else .error (.unsupported ("feature '" ++ feature ++ "' on " ++ zone))

/-- Carry out one action. -/
def write (store : Store) (zone : String) : Action → Except Error Store
  | .create record => .ok (store.create zone record)
  | .modify existing desired => store.update zone existing desired
  | .delete record => store.delete zone record
  | .toggle feature enabled => store.setFeature zone feature enabled

/-- Carry out one action. If it fails, nothing changes. -/
def perform (store : Store) (zone : String) (action : Action) : Except Error Unit × Store :=
  match store.write zone action with
  | .ok changed => (.ok (), changed)
  | .error error => (.error error, store)

/-- What the store decides on its own. -/
def adapter : Adapter where
  name := "memory"

/-- The store as a provider. -/
def provider : Provider Store where
  adapter := adapter
  answer
    | .fetch zone, store => (.ok (store.records zone), store)
    | .fetchFeatures zone, store => (.ok (store.featuresOf zone), store)
    | .write zone action, store => store.perform zone action

end Store

end DnsReconcile
