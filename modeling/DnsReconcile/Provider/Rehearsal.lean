/-
# Providers for rehearsals

Stores in memory that stand in for a real provider when the rest of the library is
tried out. One knows nothing but records. The other keeps a log of its writes and
can be told to fail.
-/

import DnsReconcile.Provider.Memory

namespace DnsReconcile

namespace Store

/-- What a provider without anything special decides on its own. -/
def bareAdapter : Adapter where
  name := "bare"

/-- A store without features. -/
def bareProvider : Provider Store where
  adapter := bareAdapter
  answer
    | .fetch zone, store => (.ok (store.records zone), store)
    | .fetchFeatures _, store => (.ok Dict.empty, store)
    | .write _ (.toggle feature _), store => (bareAdapter.noFeature feature, store)
    | .write zone action, store => store.perform zone action

end Store

/-- A store that keeps a log of writes and fails on demand. -/
structure Rehearsal where
  store : Store := {}
  /-- The writes so far. -/
  log : List String := []
  /-- The labels at which writes fail. -/
  failLabels : List String := []
  /-- Whether records cannot be listed. -/
  failFetch : Bool := false
  /-- Whether features cannot be listed. -/
  failFeatures : Bool := false

namespace Rehearsal

/-- What the log says about an action. -/
def entry : Action → String
  | .create record => "create " ++ record.type.name ++ " " ++ record.label
  | .modify _ desired => "modify " ++ desired.type.name ++ " " ++ desired.label
  | .delete record => "delete " ++ record.type.name ++ " " ++ record.label
  | .toggle feature enabled =>
      "toggle " ++ feature ++ " " ++ (if enabled then "true" else "false")

/-- The label at which an action writes. -/
def labelOf? : Action → Option String
  | .create record | .delete record => some record.label
  | .modify _ desired => some desired.label
  | .toggle _ _ => none

/-- The label at which an action is made to fail. -/
def injected? (rehearsal : Rehearsal) (action : Action) : Option String :=
  (labelOf? action).filter rehearsal.failLabels.contains

/-- Log an action, then fail or carry it out. -/
def perform (rehearsal : Rehearsal) (zone : String) (action : Action) :
    Except Error Unit × Rehearsal :=
  let logged := { rehearsal with log := rehearsal.log ++ [entry action] }
  match rehearsal.injected? action with
  | some label => (.error (.provider "test" ("injected failure at " ++ label)), logged)
  | none =>
      let (result, store) := logged.store.perform zone action
      (result, { logged with store })

/-- The provider, given the types it rejects and the metadata keys it compares. -/
def provider (rejected : List RecordType) (compared : List String) : Provider Rehearsal where
  adapter := {
    name := "test"
    supports := fun type => !rejected.contains type
    comparable := fun record => record.metadata.filter fun key _ => compared.contains key }
  answer
    | .fetch zone, rehearsal =>
        (if rehearsal.failFetch then .error (.http "injected fetch failure")
          else .ok (rehearsal.store.records zone), rehearsal)
    | .fetchFeatures zone, rehearsal =>
        (if rehearsal.failFeatures then .error (.rateLimited "injected feature failure")
          else .ok (rehearsal.store.featuresOf zone), rehearsal)
    | .write zone action, rehearsal => rehearsal.perform zone action

end Rehearsal

end DnsReconcile
