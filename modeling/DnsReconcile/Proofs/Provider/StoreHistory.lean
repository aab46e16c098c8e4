/-
# Histories of a store

Whatever has been done to a store that was empty at first, each of its records has an
identifier that was given out, and no two records of a zone share one. This is what lets
a record be found again after others have been removed or replaced. What an operation does
to the records is said once (`Operates`), and from that what it does to the identifiers: it
keeps some of one zone, in order, and puts new ones behind them (`Renumbers`).
-/

import DnsReconcile.Provider.Memory
import DnsReconcile.Proofs.Refusals
import Mathlib.Data.List.Nodup

namespace DnsReconcile

/-- The identifier of the provider's own copy. -/
def Record.id? (record : Record) : Option String :=
  record.ref.map (·.id)

namespace Store

variable {store before changed : Store} {zone other : String} {id : Option String}
variable {record wanted : Record}

/-! ## Identifiers -/

/-- An identifier can be read back, as its digits can. -/
theorem identifier_injective : Function.Injective identifier := by
  intro first second same
  have digits : Nat.toDigits 10 first = Nat.toDigits 10 second := by
    have spelled := congrArg String.toList same
    simpa [identifier, String.toList_append, Nat.toList_repr] using spelled
  have read (n : Nat) : Nat.ofDigitChars 10 (Nat.toDigits 10 n) 0 = n :=
    Nat.ofDigitChars_toDigits (by decide) (by decide)
  rw [← read first, ← read second, digits]

/-- Records under consecutive identifiers, the first of which follows `given`. -/
def stamped (given : Nat) : List Record → List Record
  | [] => []
  | record :: rest => record.withRef (identifier (given + 1)) .null :: stamped (given + 1) rest

/-- Stamping gives the identifiers that come next. -/
theorem stampAll_eq (store : Store) (records : List Record) :
    store.stampAll records =
      (stamped store.issued records, { store with issued := store.issued + records.length }) := by
  induction records generalizing store with
  | nil => rfl
  | cons record rest ih =>
      simp only [stampAll, stamp, ih, stamped, List.length_cons]
      rw [Nat.add_assoc, Nat.add_comm 1]

theorem stamped_ids (given : Nat) (records : List Record) :
    (stamped given records).map Record.id? =
      (List.range' (given + 1) records.length).map fun n => some (identifier n) := by
  induction records generalizing given with
  | nil => rfl
  | cons record rest ih =>
      rw [stamped, List.map_cons, ih, List.length_cons, List.range'_succ, List.map_cons]
      rfl

/-- New identifiers lie behind those given before. -/
theorem id?_of_mem_stamped {given : Nat} {records : List Record}
    (member : record ∈ stamped given records) :
    ∃ n, given < n ∧ n ≤ given + records.length ∧ record.id? = some (identifier n) := by
  have found := List.mem_map_of_mem (f := Record.id?) member
  rw [stamped_ids, List.mem_map] at found
  obtain ⟨n, bounds, same⟩ := found
  rw [List.mem_range'_1] at bounds
  exact ⟨n, by omega, by omega, same.symm⟩

/-- Stamping gives a record an identifier and changes nothing else. -/
theorem exists_of_mem_stamped {given : Nat} {records : List Record}
    (member : record ∈ stamped given records) :
    ∃ source ∈ records, { source with ref := record.ref } = record := by
  induction records generalizing given with
  | nil => exact absurd member List.not_mem_nil
  | cons first rest ih =>
      cases List.mem_cons.1 member with
      | inl same => exact ⟨first, List.mem_cons_self, same ▸ rfl⟩
      | inr later =>
          obtain ⟨source, inside, same⟩ := ih later
          exact ⟨source, List.mem_cons_of_mem _ inside, same⟩

/-! ## Looking at a store -/

/-- The identifiers of a zone's records, in the order of the records. -/
def ids (store : Store) (zone : String) : List (Option String) :=
  (store.records zone).map Record.id?

/-- Writing a zone is seen there and nowhere else. -/
theorem records_put (store : Store) (zone : String) (records : List Record) (other : String) :
    ({ store with zones := store.zones.insert zone records } : Store).records other =
      if other = zone then records else store.records other := by
  simp only [Store.records]
  rw [Dict.get?_insert]
  split <;> rfl

/-- Changing a zone at a record succeeds if the record is there. -/
theorem changeAt_eq_ok_iff {change : List Record → Nat → List Record} {after : Store} :
    store.changeAt zone wanted change = .ok after ↔
      ∃ index, position? (store.records zone) wanted = some index ∧
        after =
          { store with zones := store.zones.insert zone (change (store.records zone) index) } := by
  simp only [changeAt, Store.records]
  cases store.zones.get? zone with
  | none => simp [position?]
  | some records =>
      rw [Option.getD_some]
      dsimp only
      cases found : position? records wanted with
      | none => simp [missing]
      | some index =>
          simp only [Except.ok.injEq, Option.some.injEq, exists_eq_left']
          exact eq_comm

/-! ## Rewriting a zone -/

/-- One zone has been rewritten with the given records, for which some identifiers have
been given out. Nothing else is different. -/
structure Rewrites (zone : String) (records : List Record) (given : Nat)
    (before after : Store) : Prop where
  here : after.records zone = records
  elsewhere : ∀ other, other ≠ zone → after.records other = before.records other
  features : after.features = before.features
  issued : after.issued = before.issued + given

theorem rewrites_put (store : Store) (zone : String) (records : List Record) :
    Rewrites zone records 0 store
      { store with zones := store.zones.insert zone records } where
  here := by rw [records_put, if_pos rfl]
  elsewhere other apart := by rw [records_put, if_neg apart]
  features := rfl
  issued := rfl

theorem rewrites_seed (store : Store) (zone : String) (records : List Record) :
    Rewrites zone (stamped store.issued records) records.length store
      (store.seed zone records) := by
  have put := rewrites_put store zone (stamped store.issued records)
  simp only [Store.seed]
  rw [stampAll_eq]
  exact ⟨put.here, put.elsewhere, rfl, rfl⟩

/-- The record that is meant has a place among the others, and it is removed or changed there. -/
theorem exists_place {records : List Record} {index : Nat}
    (found : position? records wanted = some index) :
    ∃ front target back, records = front ++ target :: back ∧ isMeant wanted target = true ∧
      records.eraseIdx index = front ++ back ∧
      ∀ change : Record → Record, records.modify index change = front ++ change target :: back := by
  obtain ⟨inside, meant, -⟩ := List.findIdx?_eq_some_iff_getElem.1 found
  refine ⟨records.take index, records[index], records.drop (index + 1), ?_, meant,
    List.eraseIdx_eq_take_drop_succ .., fun change => ?_⟩
  · rw [List.getElem_cons_drop, List.take_append_drop]
  · rw [List.modify_eq_take_cons_drop inside]

/-! ## Operations -/

/-- What can be done to a store from outside. -/
inductive Operation where
  | seed (zone : String) (records : List Record)
  | setFeatures (zone : String) (features : Dict Bool)
  | write (zone : String) (action : Action)

/-- The store after an operation. A write that is refused leaves it as it was. -/
def after (store : Store) : Operation → Store
  | .seed zone records => store.seed zone records
  | .setFeatures zone features => store.setFeatures zone features
  | .write zone action => (store.perform zone action).2

/-- What an operation does to the records of a store. -/
inductive Operates (store changed : Store) : Operation → Prop where
  | seeded {zone : String} {records : List Record}
      (rewrites : Rewrites zone (stamped store.issued records) records.length store changed) :
      Operates store changed (.seed zone records)
  | created {zone : String} {record : Record}
      (rewrites : Rewrites zone (store.records zone ++ stamped store.issued [record]) 1 store
        changed) :
      Operates store changed (.write zone (.create record))
  | modified {zone : String} {existing desired target : Record} {front back : List Record}
      (place : store.records zone = front ++ target :: back)
      (meant : isMeant existing target = true)
      (rewrites : Rewrites zone (front ++ { desired with ref := target.ref } :: back) 0 store
        changed) :
      Operates store changed (.write zone (.modify existing desired))
  | deleted {zone : String} {wanted target : Record} {front back : List Record}
      (place : store.records zone = front ++ target :: back)
      (rewrites : Rewrites zone (front ++ back) 0 store changed) :
      Operates store changed (.write zone (.delete wanted))
  | nothing {operation : Operation} (zones : changed.zones = store.zones)
      (issued : changed.issued = store.issued) : Operates store changed operation

theorem operates_of_write {action : Action} (written : store.write zone action = .ok changed) :
    Operates store changed (.write zone action) := by
  cases action with
  | create record =>
      obtain rfl := Except.ok.inj written
      have put := rewrites_put store zone (store.records zone ++ stamped store.issued [record])
      exact .created ⟨put.here, put.elsewhere, rfl, rfl⟩
  | modify existing desired =>
      obtain ⟨index, found, rfl⟩ := changeAt_eq_ok_iff.1 written
      obtain ⟨front, target, back, place, meant, -, modified⟩ := exists_place found
      rw [modified]
      exact .modified place meant (rewrites_put _ _ _)
  | delete wanted =>
      obtain ⟨index, found, rfl⟩ := changeAt_eq_ok_iff.1 written
      obtain ⟨front, target, back, place, -, erased, -⟩ := exists_place found
      rw [erased]
      exact .deleted place (rewrites_put _ _ _)
  | toggle feature enabled =>
      simp only [Store.write, setFeature] at written
      split at written
      · obtain rfl := Except.ok.inj written
        exact .nothing rfl rfl
      · cases written

theorem operates_after (store : Store) (operation : Operation) :
    Operates store (store.after operation) operation := by
  cases operation with
  | seed zone records => exact .seeded (rewrites_seed store zone records)
  | setFeatures zone features => exact .nothing rfl rfl
  | write zone action =>
      simp only [Store.after, perform]
      cases written : store.write zone action with
      | error error => exact .nothing rfl rfl
      | ok changed => exact operates_of_write written

/-! ## Identifiers after an operation -/

/-- The identifiers of one zone are some of those it had before and behind them new ones. Nothing
has happened to those of other zones. -/
structure Renumbers (zone : String) (kept : List (Option String)) (fresh : Nat)
    (before changed : Store) : Prop where
  sublist : kept.Sublist (before.ids zone)
  here : changed.ids zone =
    kept ++ (List.range' (before.issued + 1) fresh).map fun n => some (identifier n)
  elsewhere : ∀ other, other ≠ zone → changed.ids other = before.ids other
  issued : changed.issued = before.issued + fresh

theorem Rewrites.renumbers {records : List Record} (added : List Record)
    (rewrites : Rewrites zone (records ++ stamped before.issued added) added.length before changed)
    (part : (records.map Record.id?).Sublist (before.ids zone)) :
    Renumbers zone (records.map Record.id?) added.length before changed where
  sublist := part
  here := by rw [ids, rewrites.here, List.map_append, stamped_ids]
  elsewhere other apart := by rw [ids, rewrites.elsewhere other apart, ids]
  issued := rewrites.issued

/-- A zone that is rewritten without new records. -/
theorem Rewrites.renumbers_of_sublist {records : List Record}
    (rewrites : Rewrites zone records 0 before changed)
    (part : (records.map Record.id?).Sublist (before.ids zone)) :
    Renumbers zone (records.map Record.id?) 0 before changed := by
  rw [← List.append_nil records] at rewrites
  exact rewrites.renumbers [] part

/-- Every operation renumbers one zone. -/
theorem Operates.exists_renumbers {operation : Operation}
    (operates : Operates store changed operation) :
    ∃ zone kept fresh, Renumbers zone kept fresh store changed := by
  cases operates with
  | seeded rewrites =>
      rw [← List.nil_append (stamped ..)] at rewrites
      exact ⟨_, _, _, rewrites.renumbers _ (List.nil_sublist _)⟩
  | created rewrites => exact ⟨_, _, _, rewrites.renumbers _ (List.Sublist.refl _)⟩
  | modified place meant rewrites =>
      refine ⟨_, _, _, rewrites.renumbers_of_sublist ?_⟩
      rw [ids, place, List.map_append, List.map_append, List.map_cons, List.map_cons]
      exact List.Sublist.refl _
  | deleted place rewrites =>
      refine ⟨_, _, _, rewrites.renumbers_of_sublist ?_⟩
      rw [ids, place]
      exact ((List.sublist_cons_self _ _).append_left _).map _
  | nothing zones issued =>
      have same : changed.records = store.records := by
        funext other
        rw [records, records, zones]
      refine ⟨"", store.ids "", 0, List.Sublist.refl _, ?_, fun other _ => ?_, issued⟩
      · rw [List.range'_zero, List.map_nil, List.append_nil, ids, same, ids]
      · rw [ids, same, ids]

theorem exists_renumbers (store : Store) (operation : Operation) :
    ∃ zone kept fresh, Renumbers zone kept fresh store (store.after operation) :=
  (operates_after store operation).exists_renumbers

/-- An identifier that is found was there before, or it is new. -/
theorem Renumbers.mem_or_new {kept : List (Option String)} {fresh : Nat}
    (renumbers : Renumbers zone kept fresh before changed) (found : id ∈ changed.ids other) :
    id ∈ before.ids other ∨
      other = zone ∧ ∃ n, before.issued < n ∧ n ≤ changed.issued ∧ id = some (identifier n) := by
  by_cases same : other = zone
  · subst same
    rw [renumbers.here, List.mem_append, List.mem_map] at found
    rcases found with old | ⟨n, bounds, rfl⟩
    · exact .inl (renumbers.sublist.subset old)
    · rw [List.mem_range'_1] at bounds
      refine .inr ⟨rfl, n, by omega, ?_, rfl⟩
      rw [renumbers.issued]
      omega
  · rw [renumbers.elsewhere other same] at found
    exact .inl found

theorem issued_le_after (store : Store) (operation : Operation) :
    store.issued ≤ (store.after operation).issued := by
  obtain ⟨zone, kept, fresh, renumbers⟩ := exists_renumbers store operation
  rw [renumbers.issued]
  exact Nat.le_add_right _ _

/-! ## Every history -/

/-- The stores that operations can lead to. -/
inductive Reachable : Store → Prop where
  | empty : Reachable {}
  | after {store : Store} (reachable : Reachable store) (operation : Operation) :
      Reachable (store.after operation)

/-- Every record has an identifier that was given out, and no two records of a zone have
the same. -/
structure Numbered (store : Store) : Prop where
  issued : ∀ zone, ∀ id ∈ store.ids zone, ∃ n, n ≤ store.issued ∧ id = some (identifier n)
  distinct : ∀ zone, (store.ids zone).Nodup

theorem numbered_empty : Numbered {} :=
  ⟨fun _ _ member => absurd member List.not_mem_nil, fun _ => List.nodup_nil⟩

theorem Renumbers.numbered {kept : List (Option String)} {fresh : Nat}
    (renumbers : Renumbers zone kept fresh store changed) (numbered : store.Numbered) :
    changed.Numbered := by
  have grown : store.issued ≤ changed.issued := by
    rw [renumbers.issued]
    exact Nat.le_add_right _ _
  constructor
  · intro other id found
    rcases renumbers.mem_or_new found with old | ⟨-, n, -, bound, named⟩
    · obtain ⟨n, bound, named⟩ := numbered.issued other id old
      exact ⟨n, Nat.le_trans bound grown, named⟩
    · exact ⟨n, bound, named⟩
  · intro other
    by_cases same : other = zone
    · subst same
      rw [renumbers.here, List.nodup_append]
      refine ⟨renumbers.sublist.nodup (numbered.distinct other), ?_, ?_⟩
      · refine List.Nodup.map (fun first second same => ?_) List.nodup_range'
        exact identifier_injective (Option.some.inj same)
      · rintro id old new member rfl
        obtain ⟨n, bound, named⟩ := numbered.issued other id (renumbers.sublist.subset old)
        obtain ⟨m, bounds, named'⟩ := List.mem_map.1 member
        rw [List.mem_range'_1] at bounds
        have number := identifier_injective (Option.some.inj (named'.trans named))
        omega
    · rw [renumbers.elsewhere other same]
      exact numbered.distinct other

theorem Numbered.write (numbered : store.Numbered) {action : Action} {after : Store}
    (written : store.write zone action = .ok after) : after.Numbered := by
  obtain ⟨other, kept, fresh, renumbers⟩ := (operates_of_write written).exists_renumbers
  exact renumbers.numbered numbered

theorem Numbered.after (numbered : store.Numbered) (operation : Operation) :
    (store.after operation).Numbered := by
  obtain ⟨zone, kept, fresh, renumbers⟩ := exists_renumbers store operation
  exact renumbers.numbered numbered

/-- Identifiers are in order after every history. -/
theorem Reachable.numbered (reachable : store.Reachable) : store.Numbered := by
  induction reachable with
  | empty => exact numbered_empty
  | after _ operation ih => exact ih.after operation

end Store

end DnsReconcile
