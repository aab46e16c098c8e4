/-
# Comparing record sets

Both sides are matched by identity keys. A matched pair is a modification if TTL,
payload or the compared metadata differ. What is only desired is created. What is
only there is deleted, unless it is protected: the zone does not purge, or the
record belongs to somebody else. The name servers of the zone itself are left out
unless the zone manages them.
-/

import DnsReconcile.Changeset.Basic
import DnsReconcile.Record.Key
import DnsReconcile.Sort
import DnsReconcile.Zone.Policy

namespace DnsReconcile

/-- What a comparison depends on besides the records. -/
structure Comparison where
  zone : Zone
  matcher : LabelMatcher
  /-- The metadata that counts as part of a record. -/
  comparable : Record → Dict String := fun _ => Dict.empty

/-- The records of one identity key. -/
inductive Correlation where
  | both (existing desired : Record)
  | onlyDesired (desired : Record)
  | onlyExisting (existing : Record)

namespace Comparison

/-- Whether an observed record takes part. -/
def participates (managesApexNs : Bool) (record : Record) : Bool :=
  managesApexNs || !(record.type == .ns && record.isApex)

/-- Refuse a payload that its record's type does not allow. -/
def checkShape (record : Record) : Except Error Unit :=
  if record.payload.fits record.type then .ok ()
  else
    .error (.diff
      (record.type.name ++ " record '" ++ record.label ++ "' carries a mismatched payload"))

/-- Go through the records of one side in order: each needs a payload of its type,
and those that take part need different keys. -/
def checkSide (side : String) (takesPart : Record → Bool) (seen : List RecordKey) :
    List Record → Except Error Unit
  | [] => .ok ()
  | record :: rest => do
      checkShape record
      if takesPart record then
        if seen.contains record.key then
          .error (.diff ("duplicate " ++ side ++ " record: " ++ record.key.print))
        else checkSide side takesPart (record.key :: seen) rest
      else checkSide side takesPart seen rest

/-- Whether the two records of a pair differ in what counts. -/
def differs (comparison : Comparison) (existing desired : Record) : Bool :=
  existing.ttl != desired.ttl || existing.payload != desired.payload ||
    comparison.comparable existing != comparison.comparable desired

/-- Whether an observed record stays although nobody desires it. -/
def protects (comparison : Comparison) (existing : Record) : Bool :=
  !comparison.zone.purge ||
    (comparison.zone.ignoredLabel? comparison.matcher existing.label).isSome ||
    (comparison.zone.ignoredByTarget? comparison.matcher existing).isSome

/-- A record as messages show it. -/
def render (comparison : Comparison) (record : Record) : String :=
  String.join (record.describe ::
    (comparison.comparable record).entries.map fun entry => " " ++ entry.1 ++ "=" ++ entry.2)

/-- What is done to which name. -/
def heading (comparison : Comparison) (verb : String) (record : Record) : String :=
  verb ++ " " ++ record.type.name ++ " " ++ record.fqdn comparison.zone.name

/-- A message that shows one record. -/
def loneMessage (comparison : Comparison) (verb : String) (record : Record) : String :=
  comparison.heading verb record ++ " " ++ comparison.render record

/-- A message that shows a record before and after. -/
def modifyMessage (comparison : Comparison) (existing desired : Record) : String :=
  comparison.heading "MODIFY" desired ++ ": (" ++ comparison.render existing ++ ") -> (" ++
    comparison.render desired ++ ")"

/-- Records with their identity keys. -/
def keyed (records : List Record) : List (RecordKey × Record) :=
  records.map fun record => (record.key, record)

/-- The keys of either side in order. -/
def keys (desired existing : List (RecordKey × Record)) : List RecordKey :=
  let present := existing.map (·.1)
  sortBy RecordKey.le (present ++ (desired.map (·.1)).filter fun key => !present.contains key)

/-- The records under each key, in key order. -/
def correlations (desired existing : List Record) : List Correlation :=
  let desired := keyed desired
  let existing := keyed existing
  (keys desired existing).filterMap fun key =>
    match existing.lookup key, desired.lookup key with
    | some existing, some desired => some (.both existing desired)
    | none, some desired => some (.onlyDesired desired)
    | some existing, none => some (.onlyExisting existing)
    | none, none => none

/-- Pairs that agree. -/
def unchanged? (comparison : Comparison) : Correlation → Option PairedChange
  | .both existing desired =>
      if comparison.differs existing desired then none
      else some ⟨existing, desired, comparison.loneMessage "UNCHANGED" desired⟩
  | _ => none

/-- Pairs that differ. -/
def modify? (comparison : Comparison) : Correlation → Option PairedChange
  | .both existing desired =>
      if comparison.differs existing desired then
        some ⟨existing, desired, comparison.modifyMessage existing desired⟩
      else none
  | _ => none

/-- Records that are only desired. -/
def create? (comparison : Comparison) : Correlation → Option LoneChange
  | .onlyDesired desired => some ⟨desired, comparison.loneMessage "CREATE" desired⟩
  | _ => none

/-- Records that are only there and not protected. -/
def delete? (comparison : Comparison) : Correlation → Option LoneChange
  | .onlyExisting existing =>
      if comparison.protects existing then none
      else some ⟨existing, comparison.loneMessage "DELETE" existing⟩
  | _ => none

/-- The entries that correlated records give rise to. -/
def classify (comparison : Comparison) (correlations : List Correlation) : Changeset where
  unchanged := correlations.filterMap comparison.unchanged?
  create := correlations.filterMap comparison.create?
  delete := correlations.filterMap comparison.delete?
  modify := correlations.filterMap comparison.modify?

/-- The differences between canonical desired and observed records. -/
def changes (comparison : Comparison) (desired existing : List Record) :
    Except Error Changeset := do
  comparison.zone.checkIgnored comparison.matcher desired
  let takesPart := participates (comparison.zone.managesApexNs desired)
  checkSide "existing" takesPart [] existing
  checkSide "desired" (fun _ => true) [] desired
  return comparison.classify (correlations desired (existing.filter takesPart))

end Comparison

end DnsReconcile
