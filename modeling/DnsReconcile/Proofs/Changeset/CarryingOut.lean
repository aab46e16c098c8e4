/-
# Carrying corrections out

What corrections do to a list of records, one after another. Records are known by their keys,
so deletions take keys away, creations add some and modifications keep them. Carried out in
full, the corrections of a changeset give the outcome that the changeset announces.
-/

import DnsReconcile.Proofs.Changeset.Resumption
import DnsReconcile.Proofs.Correction.Phases

namespace DnsReconcile

universe u

variable {records : List Record} {entries : List LoneChange} {pairs : List PairedChange}

/-- A record set after an action. Records are known by their keys. -/
def Action.carryOut (records : List Record) : Action → List Record
  | .create record => records ++ [record]
  | .delete record => records.eraseP fun other => record.key == other.key
  | .modify existing desired =>
      records.map fun other => if other.key = existing.key then desired else other
  | .toggle _ _ => records

/-- A modification keeps keys. -/
theorem Action.keys_carryOut_modify {existing desired : Record}
    (kept : existing.key = desired.key) :
    ((Action.modify existing desired).carryOut records).map Record.key =
      records.map Record.key := by
  rw [carryOut, List.map_map]
  apply List.map_congr_left
  intro other _
  rw [Function.comp_apply]
  split
  · next same => rw [same, kept]
  · rfl

namespace Correction

/-- A record set after corrections have been carried out in order. -/
def carryOut (corrections : List Correction) (records : List Record) : List Record :=
  corrections.foldl (fun records correction => correction.action.carryOut records) records

theorem carryOut_append (first second : List Correction) (records : List Record) :
    carryOut (first ++ second) records = carryOut second (carryOut first records) :=
  List.foldl_append

/-- Deletions take away keys. -/
theorem keys_carryOut_ofDelete :
    (carryOut (entries.map ofDelete) records).map Record.key =
      (records.map Record.key).diff (entries.map fun change => change.record.key) := by
  induction entries generalizing records with
  | nil => rfl
  | cons change rest ih =>
      have erased : (((ofDelete change).action.carryOut records).map Record.key) =
          (records.map Record.key).erase change.record.key := by
        rw [List.erase_eq_eraseP, List.eraseP_map]
        rfl
      rw [List.map_cons, List.map_cons, List.diff_cons, ← erased]
      exact ih

theorem carryOut_ofCreate :
    carryOut (entries.map ofCreate) records = records ++ entries.map (·.record) := by
  induction entries generalizing records with
  | nil => exact (List.append_nil _).symm
  | cons change rest ih =>
      rw [List.map_cons, List.map_cons, List.append_cons]
      exact ih

/-- Creations add keys. -/
theorem keys_carryOut_ofCreate :
    (carryOut (entries.map ofCreate) records).map Record.key =
      records.map Record.key ++ entries.map fun change => change.record.key := by
  rw [carryOut_ofCreate, List.map_append, List.map_map]
  rfl

/-- Modifications keep keys. -/
theorem keys_carryOut_ofModify (kept : ∀ pair ∈ pairs, pair.existing.key = pair.desired.key) :
    (carryOut (pairs.map ofModify) records).map Record.key = records.map Record.key := by
  induction pairs generalizing records with
  | nil => rfl
  | cons pair rest ih =>
      obtain ⟨same, kept'⟩ := List.forall_mem_cons.1 kept
      exact (ih kept').trans (Action.keys_carryOut_modify same)

/-- Wherever the corrections are stopped: deletions have taken away keys, and then creations
have added some. -/
theorem keys_carryOut_take {changes : Changeset}
    (kept : ∀ pair ∈ changes.modify, pair.existing.key = pair.desired.key) (count : Nat) :
    (carryOut ((sequence changes).take count) records).map Record.key =
      (records.map Record.key).diff
          (((typeFirst .ds changes.delete).take count).map fun change => change.record.key) ++
        ((typeFirst .ns changes.create).take (count - changes.delete.length)).map
          fun change => change.record.key := by
  have count_deletions :
      ((typeFirst .ds changes.delete).map ofDelete).length = changes.delete.length := by
    rw [List.length_map, (typeFirst_perm .ds changes.delete).length_eq]
  rw [sequence_eq, List.append_assoc, List.take_append, List.take_append, count_deletions,
    ← List.map_take, ← List.map_take, ← List.map_take, carryOut_append, carryOut_append,
    keys_carryOut_ofModify, keys_carryOut_ofCreate, keys_carryOut_ofDelete]
  intro pair member
  exact kept pair (List.mem_of_mem_take member)

end Correction

/-! ## In full -/

/-- Taking out the first element with a property takes out all if there is only one. -/
theorem eraseP_eq_filter {α : Type u} {p : α → Bool} {list : List α}
    (once : list.Pairwise fun first second => ¬ (p first = true ∧ p second = true)) :
    list.eraseP p = list.filter fun x => !p x := by
  induction list with
  | nil => rfl
  | cons x rest ih =>
      obtain ⟨apart, once'⟩ := List.pairwise_cons.1 once
      cases here : p x with
      | false =>
          rw [List.eraseP_cons_of_neg (by simp [here]), List.filter_cons_of_pos (by simp [here]),
            ih once']
      | true =>
          rw [List.eraseP_cons_of_pos here, List.filter_cons_of_neg (by simp [here])]
          symm
          apply List.filter_eq_self.2
          intro y member
          rw [Bool.not_eq_true', ← Bool.not_eq_true]
          exact fun there => apart y member ⟨here, there⟩

namespace Correction

theorem carryOut_ofDelete
    (once : ∀ change ∈ entries, records.Pairwise fun first second =>
      ¬ (change.record.key = first.key ∧ change.record.key = second.key)) :
    carryOut (entries.map ofDelete) records =
      records.filter fun record => !entries.any fun change => change.record.key == record.key := by
  induction entries generalizing records with
  | nil => exact (List.filter_true records).symm
  | cons change rest ih =>
      obtain ⟨first, others⟩ := List.forall_mem_cons.1 once
      have erased : (ofDelete change).action.carryOut records =
          records.filter fun record => !(change.record.key == record.key) := by
        apply eraseP_eq_filter
        simpa using first
      have others' : ∀ other ∈ rest,
          (records.filter fun record => !(change.record.key == record.key)).Pairwise
            fun first second => ¬ (other.record.key = first.key ∧ other.record.key = second.key) :=
        fun other member => (others other member).sublist List.filter_sublist
      calc carryOut ((change :: rest).map ofDelete) records
          = carryOut (rest.map ofDelete) ((ofDelete change).action.carryOut records) := rfl
        _ = _ := by
          rw [erased, ih others', List.filter_filter]
          apply List.filter_congr
          intro record _
          rw [List.any_cons, Bool.not_or, Bool.and_comm]

/-- What stands in the place of a record after modifications. -/
def replaced (pairs : List PairedChange) (record : Record) : Record :=
  match pairs.find? fun pair => pair.existing.key == record.key with
  | some pair => pair.desired
  | none => record

theorem replaced_cons (pair : PairedChange) (rest : List PairedChange) (record : Record) :
    replaced (pair :: rest) record =
      if record.key = pair.existing.key then pair.desired else replaced rest record := by
  rw [replaced, List.find?_cons]
  by_cases concerned : record.key = pair.existing.key
  · rw [concerned, beq_self_eq_true, if_pos rfl]
  · rw [beq_false_of_ne (Ne.symm concerned), if_neg concerned]
    rfl

/-- A record that no modification concerns stays. -/
theorem replaced_eq_self {record : Record}
    (unconcerned : ∀ pair ∈ pairs, pair.existing.key ≠ record.key) :
    replaced pairs record = record := by
  have none_found : pairs.find? (fun pair => pair.existing.key == record.key) = none :=
    List.find?_eq_none.2 fun pair member => by simp [unconcerned pair member]
  rw [replaced, none_found]

theorem carryOut_ofModify (once : (pairs.map fun pair => pair.existing.key).Nodup)
    (kept : ∀ pair ∈ pairs, pair.existing.key = pair.desired.key) :
    carryOut (pairs.map ofModify) records = records.map (replaced pairs) := by
  induction pairs generalizing records with
  | nil => exact (List.map_id records).symm
  | cons pair rest ih =>
      obtain ⟨new, once'⟩ := List.nodup_cons.1 once
      obtain ⟨same, kept'⟩ := List.forall_mem_cons.1 kept
      calc carryOut ((pair :: rest).map ofModify) records
          = carryOut (rest.map ofModify) ((ofModify pair).action.carryOut records) := rfl
        _ = records.map (replaced (pair :: rest)) := by
          rw [ih once' kept']
          show (records.map _).map _ = _
          rw [List.map_map]
          apply List.map_congr_left
          intro record _
          rw [Function.comp_apply, replaced_cons]
          by_cases concerned : record.key = pair.existing.key
          · -- Later modifications concern other keys.
            rw [if_pos concerned, if_pos concerned]
            apply replaced_eq_self
            intro other member equal
            exact new (List.mem_map.2 ⟨other, member, equal.trans same.symm⟩)
          · rw [if_neg concerned, if_neg concerned]

end Correction

namespace Comparison

variable {comparison : Comparison} {desired existing : List Record} {changes : Changeset}

theorem fate_eq (changes : Changeset) (record : Record) :
    changes.fate (fun wanted record => wanted.key == record.key) record =
      if changes.delete.any fun change => change.record.key == record.key then none
      else some (Correction.replaced changes.modify record) := by
  rw [Changeset.fate, Correction.replaced]
  split
  · rfl
  · cases changes.modify.find? fun pair => pair.existing.key == record.key <;> rfl

section Compared

variable (compared : comparison.changes desired existing = .ok changes)
include compared

/-- No two records have the key of a record that is deleted. -/
theorem pairwise_of_delete {change : LoneChange} (asked : change ∈ changes.delete) :
    existing.Pairwise fun first second =>
      ¬ (change.record.key = first.key ∧ change.record.key = second.key) := by
  have distinct := (changes_eq_ok_iff.1 compared).1.existing_distinct
  rw [participating, List.Nodup, List.pairwise_map, List.pairwise_filter] at distinct
  obtain ⟨⟨present, -⟩, -⟩ := (mem_delete_iff compared).1 asked
  have part := (List.mem_filter.1 present).2
  apply distinct.imp
  intro first second apart both
  have same : first.key = second.key := both.1.symm.trans both.2
  rw [participates_congr both.1] at part
  have part' := part
  rw [participates_congr same] at part'
  exact apart part part' same

/-- Modifications do not concern created records. -/
theorem replaced_eq_self_of_create {change : LoneChange} (asked : change ∈ changes.create) :
    Correction.replaced changes.modify change.record = change.record := by
  apply Correction.replaced_eq_self
  intro pair member same
  obtain ⟨⟨-, new⟩, -⟩ := (mem_create_iff compared).1 asked
  obtain ⟨⟨present, -⟩, -⟩ := (mem_modify_iff compared).1 member
  exact new (same ▸ List.mem_map_of_mem present)

/-- The corrections of a changeset, carried out one after another, bring about its outcome. -/
theorem carryOut_sequence_perm :
    (Correction.carryOut (Correction.sequence changes) existing).Perm
      (changes.outcome existing) := by
  have deletions := Correction.typeFirst_perm .ds changes.delete
  have creations := Correction.typeFirst_perm .ns changes.create
  have stays : (existing.filter fun record =>
        !(Correction.typeFirst .ds changes.delete).any fun change =>
          change.record.key == record.key).map (Correction.replaced changes.modify) =
      existing.filterMap (changes.fate fun wanted record => wanted.key == record.key) := by
    rw [← List.filterMap_eq_map, List.filterMap_filter]
    apply List.filterMap_congr
    intro record _
    rw [deletions.any_eq, fate_eq]
    cases changes.delete.any fun change => change.record.key == record.key <;> rfl
  have new : ((Correction.typeFirst .ns changes.create).map (·.record)).map
        (Correction.replaced changes.modify) =
      (Correction.typeFirst .ns changes.create).map (·.record) := by
    rw [List.map_map]
    apply List.map_congr_left
    intro change member
    exact replaced_eq_self_of_create compared (creations.subset member)
  rw [Correction.sequence_eq, Correction.carryOut_append, Correction.carryOut_append,
    Correction.carryOut_ofDelete fun change member =>
      pairwise_of_delete compared (deletions.subset member),
    Correction.carryOut_ofCreate,
    Correction.carryOut_ofModify (modify_ordered compared).nodup_map
      fun _ => key_eq_of_modify compared,
    List.map_append, stays, new]
  exact (creations.map (·.record)).append_left _

end Compared

end Comparison

end DnsReconcile
