/-
# Loose entries

A loose entry is carried out if it has the records that its class asks for, and dropped otherwise.
So a loose changeset has a proper one inside it. Both have the same corrections, and as long as
deletions go by what they delete also in the same order: creations are named after the record they
create, but a deletion that has a desired record is named after that one, and otherwise makes no
use of it.
-/

import DnsReconcile.Correction
import Mathlib.Data.List.Perm.Basic
import Mathlib.Data.List.ReduceOption

namespace DnsReconcile

/-! ## Proper entries -/

namespace LooseChange

/-- The entry about the observed record. -/
def observed? (change : LooseChange) : Option LoneChange :=
  change.existing.map fun record => ⟨record, change.message⟩

/-- The entry about the desired record. -/
def wanted? (change : LooseChange) : Option LoneChange :=
  change.desired.map fun record => ⟨record, change.message⟩

/-- The entry about both records. -/
def pair? (change : LooseChange) : Option PairedChange := do
  let existing ← change.existing
  let desired ← change.desired
  return ⟨existing, desired, change.message⟩

theorem deletion?_eq (change : LooseChange) :
    change.deletion? = change.observed?.map Correction.ofDelete := by
  obtain ⟨kind, existing, desired, message⟩ := change
  cases existing <;> rfl

theorem creation?_eq (change : LooseChange) :
    change.creation? = change.wanted?.map Correction.ofCreate := by
  obtain ⟨kind, existing, desired, message⟩ := change
  cases desired <;> rfl

theorem modification?_eq (change : LooseChange) :
    change.modification? = change.pair?.map Correction.ofModify := by
  obtain ⟨kind, existing, desired, message⟩ := change
  cases existing <;> cases desired <;> rfl

/-- A deletion counts as that of a signature exactly if it deletes one. -/
def GoesByDeleted (change : LooseChange) : Prop :=
  ∀ record ∈ change.existing, change.type? = some .ds ↔ record.type = .ds

/-- A proper deletion has no other record to go by. -/
theorem goesByDeleted_deletion (change : LoneChange) : change.deletion.GoesByDeleted := by
  intro record same
  obtain rfl := Option.some.inj same
  exact Option.some_inj

/-- A creation goes by what it creates. -/
theorem type?_eq_of_wanted? {change : LooseChange} {entry : LoneChange}
    (found : change.wanted? = some entry) : change.type? = some entry.record.type := by
  obtain ⟨record, desired, rfl⟩ := Option.map_eq_some_iff.1 found
  simp only [type?, record?, desired, Option.some_or, Option.map_some]

end LooseChange

namespace LooseChangeset

variable {changes : LooseChangeset}

/-- The entries that have the records that their class asks for, with these records alone. -/
def tight (changes : LooseChangeset) : Changeset where
  unchanged := changes.unchanged.filterMap LooseChange.pair?
  create := changes.create.filterMap LooseChange.wanted?
  delete := changes.delete.filterMap LooseChange.observed?
  modify := changes.modify.filterMap LooseChange.pair?

/-- Every deletion goes by what it deletes. -/
def Truthful (changes : LooseChangeset) : Prop :=
  ∀ change ∈ changes.delete, change.GoesByDeleted

/-- What each entry that asks for a change has done, class by class. -/
def requests (changes : LooseChangeset) : List (Option Correction) :=
  changes.delete.map LooseChange.deletion? ++ changes.create.map LooseChange.creation? ++
    changes.modify.map LooseChange.modification?

end LooseChangeset

namespace Changeset

variable (changes : Changeset)

/-- A changeset is not changed by loosening it. -/
theorem tight_loose : changes.loose.tight = changes := by
  obtain ⟨unchanged, create, delete, modify⟩ := changes
  simp only [loose, LooseChangeset.tight, List.filterMap_map]
  congr
  all_goals exact List.filterMap_some

theorem truthful_loose : changes.loose.Truthful :=
  List.forall_mem_map.2 fun change _ => LooseChange.goesByDeleted_deletion change

end Changeset

/-! ## Their corrections -/

/-- To select entries and transform them is to transform them and select what comes of them. -/
theorem filterMap_filter_of_agree {α β : Type} {transform : α → Option β} {before : α → Bool}
    {after : β → Bool} {list : List α}
    (agree : ∀ entry ∈ list, ∀ result ∈ transform entry, before entry = after result) :
    (list.filter before).filterMap transform = (list.filterMap transform).filter after := by
  rw [List.filterMap_filter, List.filter_filterMap]
  refine List.filterMap_congr fun entry member => ?_
  cases found : transform entry with
  | none => split <;> rfl
  | some result =>
      rw [agree entry member result found, Option.filter_some]

namespace Correction

/-- One correction for each entry that asks for a change, class by class. -/
def ofChangeset (changes : Changeset) : List Correction :=
  changes.delete.map ofDelete ++ changes.create.map ofCreate ++ changes.modify.map ofModify

/-- The entries of a class, those of one type first. -/
def typeFirst (type : RecordType) (changes : List LoneChange) : List LoneChange :=
  (changes.filter fun change => change.record.type == type) ++
    changes.filter fun change => !(change.record.type == type)

theorem typeFirst_perm (type : RecordType) (changes : List LoneChange) :
    (typeFirst type changes).Perm changes :=
  List.filter_append_perm _ _

/-- What the loose entries of a class ask for, those that go by one type first. -/
def inParts (type : RecordType) (request : LooseChange → Option Correction)
    (changes : List LooseChange) : List Correction :=
  (changes.filter fun change => change.type? == some type).filterMap request ++
    (changes.filter fun change => !(change.type? == some type)).filterMap request

theorem inParts_perm (type : RecordType) (request : LooseChange → Option Correction)
    (changes : List LooseChange) :
    (inParts type request changes).Perm (changes.filterMap request) := by
  rw [inParts, ← List.filterMap_append]
  exact (List.filter_append_perm _ _).filterMap request

/-- If the entries go by the records of the proper entries, the parts are the same. -/
theorem inParts_eq {type : RecordType} {changes : List LooseChange}
    {request : LooseChange → Option Correction} {proper : LooseChange → Option LoneChange}
    {make : LoneChange → Correction} (made : ∀ change, request change = (proper change).map make)
    (agree : ∀ change ∈ changes, ∀ entry ∈ proper change,
      (change.type? = some type ↔ entry.record.type = type)) :
    inParts type request changes = (typeFirst type (changes.filterMap proper)).map make := by
  have agree' : ∀ change ∈ changes, ∀ entry ∈ proper change,
      (change.type? == some type) = (entry.record.type == type) := by
    intro change member entry found
    rw [Bool.eq_iff_iff, beq_iff_eq, beq_iff_eq]
    exact agree change member entry found
  have first := filterMap_filter_of_agree agree'
  have others := filterMap_filter_of_agree fun change member entry found =>
    congrArg not (agree' change member entry found)
  rw [typeFirst, ← first, ← others, List.map_append, List.map_filterMap, List.map_filterMap]
  simp only [inParts, ← made]

end Correction

namespace LooseChangeset

open Correction

variable {changes : LooseChangeset}

/-- The corrections, class by class. -/
theorem corrections_eq_inParts (changes : LooseChangeset) :
    changes.corrections =
      inParts .ds LooseChange.deletion? changes.delete ++
        inParts .ns LooseChange.creation? changes.create ++
        changes.modify.filterMap LooseChange.modification? := by
  simp only [corrections, inParts, List.partition_eq_filter_filter, Function.comp_def,
    List.append_assoc]

/-- What is asked for is what the proper entries ask for. -/
theorem reduceOption_requests (changes : LooseChangeset) :
    changes.requests.reduceOption = ofChangeset changes.tight := by
  rw [requests, ofChangeset, List.reduceOption_append, List.reduceOption_append]
  simp only [List.reduceOption, List.filterMap_map, Function.id_comp, tight, List.map_filterMap]
  simp only [← LooseChange.deletion?_eq, ← LooseChange.creation?_eq, ← LooseChange.modification?_eq]

/-- Every entry that is not dropped has one correction, whatever it goes by. -/
theorem corrections_perm (changes : LooseChangeset) :
    changes.corrections.Perm changes.requests.reduceOption := by
  have deletions := inParts_perm .ds LooseChange.deletion? changes.delete
  have creations := inParts_perm .ns LooseChange.creation? changes.create
  rw [corrections_eq_inParts, requests, List.reduceOption_append, List.reduceOption_append]
  simp only [List.reduceOption, List.filterMap_map, Function.id_comp]
  exact (deletions.append creations).append_right _

/-- The corrections are those of the proper entries, if deletions go by what they delete. -/
theorem corrections_eq (truthful : changes.Truthful) :
    changes.corrections =
      (typeFirst .ds changes.tight.delete).map ofDelete ++
        (typeFirst .ns changes.tight.create).map ofCreate ++ changes.tight.modify.map ofModify := by
  have deletions : inParts .ds LooseChange.deletion? changes.delete =
      (typeFirst .ds changes.tight.delete).map ofDelete := by
    refine inParts_eq LooseChange.deletion?_eq fun change member entry found => ?_
    obtain ⟨record, existing, rfl⟩ := Option.map_eq_some_iff.1 found
    exact truthful change member record existing
  have creations : inParts .ns LooseChange.creation? changes.create =
      (typeFirst .ns changes.tight.create).map ofCreate := by
    refine inParts_eq LooseChange.creation?_eq fun change member entry found => ?_
    rw [LooseChange.type?_eq_of_wanted? found, Option.some_inj]
  have modifications : changes.modify.filterMap LooseChange.modification? =
      changes.tight.modify.map ofModify := by
    rw [tight, List.map_filterMap]
    exact List.filterMap_congr fun change _ => LooseChange.modification?_eq change
  rw [corrections_eq_inParts, deletions, creations, modifications]

end LooseChangeset

/-! ## Corrections of proper changesets -/

/-- The corrections of a changeset, class by class. -/
theorem Correction.sequence_eq (changes : Changeset) :
    sequence changes =
      (typeFirst .ds changes.delete).map ofDelete ++ (typeFirst .ns changes.create).map ofCreate ++
        changes.modify.map ofModify := by
  have same := LooseChangeset.corrections_eq changes.truthful_loose
  rwa [changes.tight_loose] at same

theorem Correction.sequence_perm (changes : Changeset) :
    (sequence changes).Perm (ofChangeset changes) := by
  have each := changes.loose.corrections_perm
  rwa [LooseChangeset.reduceOption_requests, changes.tight_loose] at each

end DnsReconcile
