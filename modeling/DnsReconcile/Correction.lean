/-
# Corrections

One change to a zone as a single request to its provider, with a message. A
changeset becomes a list of corrections in an order in which signatures go before
the delegations they belong to and come back after them: DS deletions, other
deletions, NS creations, other creations, modifications. Switching features of the
whole domain comes last.
-/

import DnsReconcile.Changeset.Basic

namespace DnsReconcile

/-- What a correction does. -/
inductive Action where
  | create (record : Record)
  | delete (record : Record)
  | modify (existing desired : Record)
  | toggle (feature : String) (enabled : Bool)

/-- One change to a zone. -/
structure Correction where
  message : String
  action : Action

namespace Correction

/-- Whether the correction switches a feature. -/
def isToggle (correction : Correction) : Bool :=
  match correction.action with
  | .toggle .. => true
  | _ => false

/-- The record that the correction writes or removes. -/
def record? (correction : Correction) : Option Record :=
  match correction.action with
  | .create record | .delete record => some record
  | .modify _ desired => some desired
  | .toggle .. => none

/-- Create the record of an entry. -/
def ofCreate (change : LoneChange) : Correction :=
  ⟨change.message, .create change.record⟩

/-- Delete the record of an entry. -/
def ofDelete (change : LoneChange) : Correction :=
  ⟨change.message, .delete change.record⟩

/-- Replace the observed record of an entry by the desired one. -/
def ofModify (change : PairedChange) : Correction :=
  ⟨change.message, .modify change.existing change.desired⟩

end Correction

namespace LooseChange

/-- Create the desired record of an entry, if it has one. -/
def creation? (change : LooseChange) : Option Correction := do
  let desired ← change.desired
  return ⟨change.message, .create desired⟩

/-- Delete the observed record of an entry, if it has one. -/
def deletion? (change : LooseChange) : Option Correction := do
  let existing ← change.existing
  return ⟨change.message, .delete existing⟩

/-- Replace the observed record of an entry by the desired one, if it has both. -/
def modification? (change : LooseChange) : Option Correction := do
  let existing ← change.existing
  let desired ← change.desired
  return ⟨change.message, .modify existing desired⟩

end LooseChange

/-- The corrections of a loose changeset in order. An entry belongs to the type of the record it
goes by, and is dropped if it lacks a record that its correction takes. -/
def LooseChangeset.corrections (changes : LooseChangeset) : List Correction :=
  let isType (type : RecordType) (change : LooseChange) : Bool := change.type? == some type
  let (signatures, otherDeletions) := changes.delete.partition (isType .ds)
  let (delegations, otherCreations) := changes.create.partition (isType .ns)
  signatures.filterMap LooseChange.deletion? ++
    otherDeletions.filterMap LooseChange.deletion? ++
    delegations.filterMap LooseChange.creation? ++
    otherCreations.filterMap LooseChange.creation? ++
    changes.modify.filterMap LooseChange.modification?

namespace Correction

/-- The corrections of a changeset in order. -/
def sequence (changes : Changeset) : List Correction :=
  changes.loose.corrections

/-- The two states of a feature as messages show them. -/
def stateName (enabled : Bool) : String :=
  if enabled then "on" else "off"

/-- The corrections that bring features into the desired state. A feature that the
provider does not report is left alone. -/
def ofFeatures (zone : String) (desired current : Dict Bool) : List Correction :=
  desired.entries.filterMap fun (feature, enabled) =>
    match current.get? feature with
    | none => none
    | some actual =>
        if actual = enabled then none
        else
          some ⟨"TOGGLE " ++ feature ++ " " ++ zone ++ ": " ++ stateName actual ++ " -> " ++
              stateName enabled,
            .toggle feature enabled⟩

/-- Whether, at every label, no NS deletion precedes a DS deletion and no DS
creation precedes an NS creation. `removed` and `added` are the labels at which an
earlier correction deletes an NS record or creates a DS record. -/
def ordered (removed added : List String) : List Correction → Bool
  | [] => true
  | correction :: rest =>
      match correction.action with
      | .delete record =>
          if record.type = .ns then ordered (record.label :: removed) added rest
          else if record.type = .ds ∧ removed.contains record.label then false
          else ordered removed added rest
      | .create record =>
          if record.type = .ns ∧ added.contains record.label then false
          else if record.type = .ds then ordered removed (record.label :: added) rest
          else ordered removed added rest
      | _ => ordered removed added rest

end Correction

end DnsReconcile
