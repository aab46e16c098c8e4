/-
# Canonical record sets

A list of records in canonical form, in the order of their listing keys, that
obeys the two rules a zone has for the records at one label: a CNAME stands alone,
and most types occur once.
-/

import DnsReconcile.Record.Key
import DnsReconcile.Sort
import DnsReconcile.Zone.Origin

namespace DnsReconcile.RecordSet

/-- The types of the DNS records at a label, in order. -/
def typesAt (label : String) (records : List Record) : List RecordType :=
  (records.filter fun record => !record.type.isPseudo && record.label == label).map (·.type)

/-- The first type that occurs twice in a row although it may occur only once. -/
def repeated? : List RecordType → Option RecordType
  | first :: second :: rest =>
      if first = second ∧ !first.isMultiValue then some first else repeated? (second :: rest)
  | _ => none

/-- The rules for the types at one label, given in order. -/
def checkTypes (label : String) (types : List RecordType) : Except Error Unit :=
  if types.contains .cname && 1 < types.length then
    Record.refuse label .cname "a CNAME cannot share its label with other records"
  else
    match repeated? types with
    | some type =>
        Record.refuse label type ("only one " ++ type.name ++ " record is allowed per label")
    | none => .ok ()

/-- The labels that hold DNS records, each once, in the order of a sorted list. -/
def labels (records : List Record) : List String :=
  ((records.filter fun record => !record.type.isPseudo).map (·.label)).eraseDups

/-- The rules for the records at each label of a sorted list. -/
def check (records : List Record) : Except Error Unit :=
  (labels records).forM fun label => checkTypes label (typesAt label records)

/-- Records in the order of their listing keys. -/
def sorted (records : List Record) : List Record :=
  sortBy (fun first second => RecordKey.le first.listingKey second.listingKey) records

/-- The canonical form of a list of records. The first record without a canonical
form is reported, then the first label that breaks a rule. -/
def normalize (origin : Origin) (records : List Record) : Except Error (List Record) := do
  let canonical ← records.mapM origin.record
  let listed := sorted canonical
  check listed
  return listed

end DnsReconcile.RecordSet
