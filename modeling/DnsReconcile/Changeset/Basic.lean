/-
# Changesets

How desired and observed records of a zone relate: which stay as they are, which
are to be created, deleted or modified. Each entry carries the records it is about
and a message. An entry of a comparison has a record on just the sides that its class
asks for. Whoever puts a changeset together by hand is free to leave a side out or to
fill both, so entries also come in a loose form, in which either side is optional.
-/

import DnsReconcile.Record.Basic

namespace DnsReconcile

/-- An entry about one record, which exists on one side only. -/
structure LoneChange where
  record : Record
  message : String

/-- An entry about an observed record and its desired counterpart. -/
structure PairedChange where
  existing : Record
  desired : Record
  message : String

/-- What happens to the records of an entry. -/
inductive ChangeKind where
  | unchanged
  | create
  | delete
  | modify
deriving Repr, DecidableEq

/-- An entry of which either side may be missing, whatever its kind. -/
structure LooseChange where
  kind : ChangeKind
  /-- The observed record, absent when a record is created. -/
  existing : Option Record
  /-- The desired record, absent when a record is deleted. -/
  desired : Option Record
  message : String

namespace LooseChange

/-- The record that an entry goes by: the desired one if there is one. -/
def record? (change : LooseChange) : Option Record :=
  change.desired.or change.existing

/-- The type of the record that an entry goes by. -/
def type? (change : LooseChange) : Option RecordType :=
  change.record?.map (·.type)

end LooseChange

/-- A changeset of loose entries. -/
structure LooseChangeset where
  unchanged : List LooseChange := []
  create : List LooseChange := []
  delete : List LooseChange := []
  modify : List LooseChange := []

/-- The differences between desired and observed records, each class in key order. -/
structure Changeset where
  unchanged : List PairedChange := []
  create : List LoneChange := []
  delete : List LoneChange := []
  modify : List PairedChange := []

namespace Changeset

/-- Whether nothing needs to change. -/
def isEmpty (changes : Changeset) : Bool :=
  changes.create.isEmpty && changes.delete.isEmpty && changes.modify.isEmpty

/-- The number of entries that ask for a change. -/
def changeCount (changes : Changeset) : Nat :=
  changes.create.length + changes.delete.length + changes.modify.length

end Changeset

/-- An entry about a record to be created. -/
def LoneChange.creation (change : LoneChange) : LooseChange :=
  ⟨.create, none, some change.record, change.message⟩

/-- An entry about a record to be deleted. -/
def LoneChange.deletion (change : LoneChange) : LooseChange :=
  ⟨.delete, some change.record, none, change.message⟩

/-- An entry about a record that stays or is to be modified. -/
def PairedChange.loose (kind : ChangeKind) (change : PairedChange) : LooseChange :=
  ⟨kind, some change.existing, some change.desired, change.message⟩

/-- A changeset in loose form. -/
def Changeset.loose (changes : Changeset) : LooseChangeset where
  unchanged := changes.unchanged.map (PairedChange.loose .unchanged)
  create := changes.create.map LoneChange.creation
  delete := changes.delete.map LoneChange.deletion
  modify := changes.modify.map (PairedChange.loose .modify)

end DnsReconcile
