/-
# Identity of stored records

What an identifier is good for. As every operation keeps some identifiers of one zone and puts new
ones behind them, an identifier is in one place at most, and once it is gone it stays gone. A
record that is asked for by its identifier is therefore the one that was seen under it, perhaps
modified in the meantime, or there is none.
-/

import DnsReconcile.Proofs.Provider.StoreWrites

namespace DnsReconcile.Store

variable {store changed : Store} {zone : String} {id : Option String}
variable {wanted planned stored : Record}

/-- The store after several operations. -/
def afterAll (store : Store) (operations : List Operation) : Store :=
  operations.foldl Store.after store

theorem Reachable.afterAll (reachable : store.Reachable) (operations : List Operation) :
    (store.afterAll operations).Reachable := by
  induction operations generalizing store with
  | nil => exact reachable
  | cons operation rest ih => exact ih (.after reachable operation)

/-! ## Places -/

/-- Every identifier has been given out, to one zone. -/
structure Placed (store : Store) : Prop where
  issued : ∀ zone, ∀ id ∈ store.ids zone,
    ∃ n, 1 ≤ n ∧ n ≤ store.issued ∧ id = some (identifier n)
  single : ∀ zone other id, id ∈ store.ids zone → id ∈ store.ids other → zone = other

theorem placed_empty : Placed {} :=
  ⟨fun _ _ member => absurd member List.not_mem_nil,
    fun _ _ _ member => absurd member List.not_mem_nil⟩

/-- An identifier that is new is not there. -/
theorem Placed.not_mem_of_new (placed : store.Placed) {n : Nat} (new : store.issued < n) :
    some (identifier n) ∉ store.ids zone := by
  intro member
  obtain ⟨m, -, bound, same⟩ := placed.issued zone _ member
  have number := identifier_injective (Option.some.inj same)
  omega

theorem Placed.after (placed : store.Placed) (operation : Operation) :
    (store.after operation).Placed := by
  obtain ⟨zone, kept, fresh, renumbers⟩ := exists_renumbers store operation
  constructor
  · intro other id found
    rcases renumbers.mem_or_new found with old | ⟨-, n, new, bound, named⟩
    · obtain ⟨n, positive, bound, named⟩ := placed.issued other id old
      exact ⟨n, positive, Nat.le_trans bound (issued_le_after store operation), named⟩
    · exact ⟨n, by omega, bound, named⟩
  · intro first second id found found'
    rcases renumbers.mem_or_new found with old | ⟨here, n, new, -, rfl⟩ <;>
      rcases renumbers.mem_or_new found' with old' | ⟨here', m, new', -, named⟩
    · exact placed.single first second id old old'
    · subst named
      exact absurd old (placed.not_mem_of_new new')
    · exact absurd old' (placed.not_mem_of_new new)
    · rw [here, here']

theorem Reachable.placed (reachable : store.Reachable) : store.Placed := by
  induction reachable with
  | empty => exact placed_empty
  | after _ operation ih => exact ih.after operation

/-! ## Identifiers that are gone -/

/-- The identifier was given out, and no record has it any more. -/
def Gone (store : Store) (id : Option String) : Prop :=
  (∃ n ≤ store.issued, id = some (identifier n)) ∧ ∀ zone, id ∉ store.ids zone

theorem Gone.after (gone : store.Gone id) (operation : Operation) :
    (store.after operation).Gone id := by
  obtain ⟨⟨n, bound, rfl⟩, absent⟩ := gone
  refine ⟨⟨n, Nat.le_trans bound (issued_le_after store operation), rfl⟩, fun other found => ?_⟩
  obtain ⟨zone, kept, fresh, renumbers⟩ := exists_renumbers store operation
  rcases renumbers.mem_or_new found with old | ⟨-, m, new, -, named⟩
  · exact absent other old
  · have number := identifier_injective (Option.some.inj named)
    omega

theorem Gone.afterAll (gone : store.Gone id) (operations : List Operation) :
    (store.afterAll operations).Gone id := by
  induction operations generalizing store with
  | nil => exact gone
  | cons operation rest ih => exact ih (gone.after operation)

/-- An identifier stays in its zone until it is gone. -/
theorem Placed.mem_or_gone (placed : store.Placed) (held : id ∈ store.ids zone)
    (operation : Operation) :
    id ∈ (store.after operation).ids zone ∨ (store.after operation).Gone id := by
  by_cases stays : id ∈ (store.after operation).ids zone
  · exact .inl stays
  · obtain ⟨n, -, bound, rfl⟩ := placed.issued zone id held
    refine .inr ⟨⟨n, Nat.le_trans bound (issued_le_after store operation), rfl⟩, ?_⟩
    intro other found
    obtain ⟨changed, kept, fresh, renumbers⟩ := exists_renumbers store operation
    rcases renumbers.mem_or_new found with old | ⟨-, m, new, -, named⟩
    · exact stays (placed.single zone other _ held old ▸ found)
    · have number := identifier_injective (Option.some.inj named)
      omega

theorem Reachable.mem_or_gone (reachable : store.Reachable) (held : id ∈ store.ids zone)
    (operations : List Operation) :
    id ∈ (store.afterAll operations).ids zone ∨ (store.afterAll operations).Gone id := by
  induction operations generalizing store with
  | nil => exact .inl held
  | cons operation rest ih =>
      rcases reachable.placed.mem_or_gone held operation with stays | gone
      · exact ih (reachable.after operation) stays
      · exact .inr (gone.afterAll rest)

/-! ## Records over time -/

/-- What one operation makes of a record: it stays as it is, or a modification that means it gives
it a new content under the same identifier. -/
inductive Turns (zone : String) (record : Record) : Operation → Record → Prop where
  | stays (operation : Operation) : Turns zone record operation record
  | modified {existing : Record} (desired : Record) (meant : isMeant existing record = true) :
      Turns zone record (.write zone (.modify existing desired)) { desired with ref := record.ref }

/-- What operations make of a record that stays in its zone. -/
inductive Becomes (zone : String) : Store → List Operation → Record → Record → Prop where
  | now {store : Store} {record : Record} (held : record ∈ store.records zone) :
      Becomes zone store [] record record
  | later {store : Store} {operation : Operation} {rest : List Operation}
      {record middle last : Record} (held : record ∈ store.records zone)
      (turns : Turns zone record operation middle)
      (becomes : Becomes zone (store.after operation) rest middle last) :
      Becomes zone store (operation :: rest) record last

/-- In a zone, an identifier belongs to one record. -/
theorem Reachable.eq_of_id?_eq (reachable : store.Reachable)
    (held : planned ∈ store.records zone) (held' : stored ∈ store.records zone)
    (same : stored.id? = planned.id?) : stored = planned :=
  List.inj_on_of_nodup_map (reachable.numbered.distinct zone) held' held same

/-- A record that is put into a zone has another identifier than any that was there. -/
theorem Reachable.id?_ne_of_mem_stamped (reachable : store.Reachable) {added : List Record}
    (held : planned ∈ store.records zone) (new : stored ∈ stamped store.issued added) :
    stored.id? ≠ planned.id? := by
  obtain ⟨n, late, -, named⟩ := id?_of_mem_stamped new
  intro same
  have found : some (identifier n) ∈ store.ids zone :=
    named ▸ same ▸ List.mem_map_of_mem held
  exact reachable.placed.not_mem_of_new late found

/-- What is found in a zone after an operation, under an identifier that was there before, is what
the operation makes of the record that had the identifier. -/
theorem Reachable.turns (reachable : store.Reachable) (held : planned ∈ store.records zone)
    {operation : Operation} (held' : stored ∈ (store.after operation).records zone)
    (same : stored.id? = planned.id?) : Turns zone planned operation stored := by
  have turns_of_old {operation : Operation} (old : stored ∈ store.records zone) :
      Turns zone planned operation stored := by
    obtain rfl := reachable.eq_of_id?_eq held old same
    exact .stays operation
  have seen {name : String} {records : List Record} {given : Nat}
      (rewrites : Rewrites name records given store (store.after operation)) :
      stored ∈ store.records zone ∨ zone = name ∧ stored ∈ records := by
    by_cases here : zone = name
    · subst here
      exact .inr ⟨rfl, rewrites.here ▸ held'⟩
    · exact .inl (rewrites.elsewhere zone here ▸ held')
  cases operates_after store operation with
  | seeded rewrites =>
      rcases seen rewrites with old | ⟨-, new⟩
      · exact turns_of_old old
      · exact absurd same (reachable.id?_ne_of_mem_stamped held new)
  | created rewrites =>
      rcases seen rewrites with old | ⟨rfl, inside⟩
      · exact turns_of_old old
      · rcases List.mem_append.1 inside with old | new
        · exact turns_of_old old
        · exact absurd same (reachable.id?_ne_of_mem_stamped held new)
  | @modified _ existing desired target front back place meant rewrites =>
      rcases seen rewrites with old | ⟨rfl, inside⟩
      · exact turns_of_old old
      · rcases List.mem_append.1 inside with old | inside
        · exact turns_of_old (place ▸ List.mem_append_left _ old)
        · rcases List.mem_cons.1 inside with rfl | old
          · have present : target ∈ store.records zone :=
              place ▸ List.mem_append_right _ List.mem_cons_self
            obtain rfl := reachable.eq_of_id?_eq held present same
            exact .modified desired meant
          · exact turns_of_old (place ▸ List.mem_append_right _ (List.mem_cons_of_mem _ old))
  | deleted place rewrites =>
      rcases seen rewrites with old | ⟨rfl, inside⟩
      · exact turns_of_old old
      · rcases List.mem_append.1 inside with old | old
        · exact turns_of_old (place ▸ List.mem_append_left _ old)
        · exact turns_of_old (place ▸ List.mem_append_right _ (List.mem_cons_of_mem _ old))
  | nothing zones issued =>
      refine turns_of_old ?_
      rw [records, zones] at held'
      exact held'

/-- What is found in a zone after several operations, under an identifier that was there before,
has become of the record that had the identifier. -/
theorem Reachable.becomes (reachable : store.Reachable) (held : planned ∈ store.records zone)
    {operations : List Operation} (held' : stored ∈ (store.afterAll operations).records zone)
    (same : stored.id? = planned.id?) : Becomes zone store operations planned stored := by
  induction operations generalizing store planned with
  | nil =>
      obtain rfl := reachable.eq_of_id?_eq held held' same
      exact .now held
  | cons operation rest ih =>
      have known : planned.id? ∈ store.ids zone := List.mem_map_of_mem held
      rcases reachable.placed.mem_or_gone known operation with stays | gone
      · obtain ⟨middle, present, named⟩ := List.mem_map.1 stays
        exact .later held (reachable.turns held present named)
          (ih (reachable.after operation) present held' (same.trans named.symm))
      · have found : planned.id? ∈ ((store.after operation).afterAll rest).ids zone :=
          same ▸ List.mem_map_of_mem held'
        exact absurd found ((gone.afterAll rest).2 zone)

/-! ## Asking by identifier -/

/-- What comes of asking for the record of a zone under an identifier, to replace it. If there is
none, it is not found, and nothing has changed. Otherwise others stand in its place, and nothing
else has changed. -/
inductive Answers (store : Store) (zone id : String) (replace : Record → List Record) :
    Except Error Unit × Store → Prop where
  | missing (detail : String) (absent : some id ∉ store.ids zone) :
      Answers store zone id replace (.error (.notFound detail), store)
  | found {front back : List Record} {target : Record} {changed : Store}
      (place : store.records zone = front ++ target :: back) (named : target.id? = some id)
      (rewrites : Rewrites zone (front ++ replace target ++ back) 0 store changed) :
      Answers store zone id replace (.ok (), changed)

section Asking

variable {name : String} (named : wanted.id? = some name)
include named

theorem not_mem_of_position?_eq_none {records : List Record}
    (missing : position? records wanted = none) : some name ∉ records.map Record.id? := by
  intro known
  obtain ⟨stored, present, own⟩ := List.mem_map.1 known
  have unmeant := List.findIdx?_eq_none_iff.1 missing stored present
  rw [(isMeant_iff named).2 own] at unmeant
  cases unmeant

/-- A change is refused only if its record is not there. -/
theorem not_found_of_changeAt {change : List Record → Nat → List Record} {error : Error}
    (refused : store.changeAt zone wanted change = .error error) :
    some name ∉ store.ids zone ∧ ∃ detail, error = .notFound detail := by
  simp only [ids, records]
  simp only [changeAt] at refused
  split at refused
  · next unknown =>
    rw [unknown]
    exact ⟨List.not_mem_nil, _, (Except.error.inj refused).symm⟩
  · next records known =>
    rw [known]
    split at refused
    · next absent =>
      exact ⟨not_mem_of_position?_eq_none named absent, _, (Except.error.inj refused).symm⟩
    · cases refused

theorem answers_delete (store : Store) (zone : String) :
    Answers store zone name (fun _ => []) (store.perform zone (.delete wanted)) := by
  simp only [perform]
  cases written : store.write zone (.delete wanted) with
  | error error =>
      obtain ⟨absent, detail, rfl⟩ := not_found_of_changeAt named written
      exact .missing detail absent
  | ok changed =>
      obtain ⟨index, found, rfl⟩ := changeAt_eq_ok_iff.1 written
      obtain ⟨front, target, back, place, meant, erased, -⟩ := exists_place found
      refine .found place ((isMeant_iff named).1 meant) ?_
      rw [erased, List.append_nil]
      exact rewrites_put _ _ _

theorem answers_modify (store : Store) (zone : String) (desired : Record) :
    Answers store zone name (fun stored => [{ desired with ref := stored.ref }])
      (store.perform zone (.modify wanted desired)) := by
  simp only [perform]
  cases written : store.write zone (.modify wanted desired) with
  | error error =>
      obtain ⟨absent, detail, rfl⟩ := not_found_of_changeAt named written
      exact .missing detail absent
  | ok changed =>
      obtain ⟨index, found, rfl⟩ := changeAt_eq_ok_iff.1 written
      obtain ⟨front, target, back, place, meant, -, modified⟩ := exists_place found
      refine .found place ((isMeant_iff named).1 meant) ?_
      rw [modified, List.append_assoc, List.singleton_append]
      exact rewrites_put _ _ _

end Asking

theorem eq_of_perform_eq_error {action : Action} {error : Error}
    (failed : store.perform zone action = (.error error, changed)) : changed = store := by
  simp only [perform] at failed
  split at failed
  · cases failed
  · exact (Prod.mk.inj failed).2.symm

/-! ## Planned deletions -/

/-- The records of a store have identifiers that were given out, and no two of them have the
same, in one zone or in two. -/
structure Identified (store : Store) : Prop where
  numbered : ∀ zone, ∀ record ∈ store.records zone,
    ∃ n, 1 ≤ n ∧ n ≤ store.issued ∧ record.id? = some (identifier n)
  distinct : ∀ zone, (store.ids zone).Nodup
  disjoint : ∀ zone other, zone ≠ other → (store.ids zone).Disjoint (store.ids other)

theorem Reachable.identified (reachable : store.Reachable) : store.Identified where
  numbered zone _ member := reachable.placed.issued zone _ (List.mem_map_of_mem member)
  distinct := reachable.numbered.distinct
  disjoint zone other apart _ held held' :=
    apart (reachable.placed.single zone other _ held held')

/-- What comes of a deletion that was planned for a record: the record is not there any more, and
nothing happens, or what has become of it is removed, and nothing else. -/
inductive Deletes (zone : String) (store : Store) (between : List Operation) (planned : Record) :
    Except Error Unit × Store → Prop where
  | missing (detail : String) (absent : planned.id? ∉ (store.afterAll between).ids zone) :
      Deletes zone store between planned (.error (.notFound detail), store.afterAll between)
  | removed {front back : List Record} {target : Record} {changed : Store}
      (place : (store.afterAll between).records zone = front ++ target :: back)
      (becomes : Becomes zone store between planned target)
      (rewrites : Rewrites zone (front ++ back) 0 (store.afterAll between) changed) :
      Deletes zone store between planned (.ok (), changed)

theorem Reachable.deletes (reachable : store.Reachable) (held : planned ∈ store.records zone)
    (between : List Operation) :
    Deletes zone store between planned
      ((store.afterAll between).perform zone (.delete planned)) := by
  obtain ⟨n, -, -, named⟩ := reachable.identified.numbered zone planned held
  have answers := answers_delete named (store.afterAll between) zone
  generalize (store.afterAll between).perform zone (.delete planned) = result at answers ⊢
  cases answers with
  | missing detail absent => exact .missing detail (named ▸ absent)
  | @found front back target changed place own rewrites =>
      rw [List.append_nil] at rewrites
      have present : target ∈ (store.afterAll between).records zone :=
        place ▸ List.mem_append_right _ List.mem_cons_self
      exact .removed place (reachable.becomes held present (own.trans named.symm)) rewrites

/-- In a store that was empty at first, identifiers are good for ever. Each was given out to one
record, and one that has gone from its zone does not come back, there or elsewhere. Asking for a
record by identifier concerns the record of that zone with that identifier or nothing, and what
fails changes nothing. So a deletion that was planned before others have used the store removes
the record it was planned for, as they have left it, or nothing. -/
theorem stored_records_keep_identity (operations between later : List Operation) :
    let store := afterAll {} operations
    let met := store.afterAll between
    store.Identified ∧
      (∀ zone, ∀ id ∈ store.ids zone, id ∉ met.ids zone →
        ∀ other, id ∉ (met.afterAll later).ids other) ∧
      (∀ zone action error changed,
        store.perform zone action = (.error error, changed) → changed = store) ∧
      (∀ (zone id : String) (wanted : Record), wanted.id? = some id →
        Answers store zone id (fun _ => []) (store.perform zone (.delete wanted)) ∧
        ∀ desired, Answers store zone id (fun stored => [{ desired with ref := stored.ref }])
          (store.perform zone (.modify wanted desired))) ∧
      ∀ zone, ∀ planned ∈ store.records zone,
        Deletes zone store between planned (met.perform zone (.delete planned)) := by
  intro store met
  have reachable : store.Reachable := Reachable.empty.afterAll operations
  refine ⟨reachable.identified, fun zone id held absent => ?_,
    fun _ _ _ _ => eq_of_perform_eq_error, fun zone id wanted named => ?_, fun zone planned held => reachable.deletes held between⟩
  · rcases reachable.mem_or_gone held between with stays | gone
    · exact absurd stays absent
    · exact (gone.afterAll later).2
  · exact ⟨answers_delete named store zone, answers_modify named store zone⟩

/-- The deletion of a record is planned. If somebody else modifies the record first, it is removed
as it then is. If somebody else deletes it and stores the same content again, nothing is. -/
theorem stored_records_keep_identity_of_two_writers :
    let record := Record.ofPayload "www" (.txt ["old"])
    let newer := Record.ofPayload "www" (.txt ["new"])
    let store := afterAll {} [.seed "example.com" [record, newer], .seed "example.net" [record]]
    let revised := store.afterAll [.write "example.com" (.modify record newer)]
    let replaced := store.afterAll [.write "example.com" (.delete record),
      .write "example.com" (.create record)]
    ∃ planned ∈ store.records "example.com", planned.id? = some "mem-1" ∧
      (∃ target changed, revised.perform "example.com" (.delete planned) = (.ok (), changed) ∧
        Becomes "example.com" store [.write "example.com" (.modify record newer)] planned target) ∧
      replaced.ids "example.com" = [some "mem-2", some "mem-4"] ∧
      (∃ detail, replaced.perform "example.com" (.delete planned) =
        (.error (.notFound detail), replaced)) ∧
      ∀ later other, some "mem-1" ∉ (replaced.afterAll later).ids other := by
  intro record newer store revised replaced
  have known : some "mem-1" ∈ store.ids "example.com" := by decide +kernel
  have gone : some "mem-1" ∉ replaced.ids "example.com" := by decide +kernel
  obtain ⟨planned, held, named⟩ := List.mem_map.1 known
  refine ⟨planned, held, named, ?_, by decide +kernel, ?_, fun later => ?_⟩
  · obtain ⟨-, -, -, -, deletes⟩ := stored_records_keep_identity
      [.seed "example.com" [record, newer], .seed "example.net" [record]]
      [.write "example.com" (.modify record newer)] []
    have deletion := deletes "example.com" planned held
    generalize perform _ "example.com" (.delete planned) = result at deletion ⊢
    cases deletion with
    | missing detail absent =>
        have stays : some "mem-1" ∈ revised.ids "example.com" := by decide +kernel
        exact absurd (named ▸ stays) absent
    | removed place becomes rewrites => exact ⟨_, _, rfl, becomes⟩
  · obtain ⟨-, -, -, asked, -⟩ := stored_records_keep_identity
      [.seed "example.com" [record, newer], .seed "example.net" [record],
        .write "example.com" (.delete record), .write "example.com" (.create record)] [] []
    have answers : Answers replaced "example.com" "mem-1" (fun _ => [])
        (replaced.perform "example.com" (.delete planned)) :=
      (asked "example.com" "mem-1" planned named).1
    generalize replaced.perform "example.com" (.delete planned) = result at answers ⊢
    cases answers with
    | missing detail absent => exact ⟨detail, rfl⟩
    | found place own =>
        have found := List.mem_map_of_mem (f := Record.id?)
          (place ▸ List.mem_append_right _ List.mem_cons_self)
        exact absurd (own ▸ found) gone
  · obtain ⟨-, returns, -⟩ := stored_records_keep_identity
      [.seed "example.com" [record, newer], .seed "example.net" [record]]
      [.write "example.com" (.delete record), .write "example.com" (.create record)] later
    exact returns "example.com" _ known gone

end DnsReconcile.Store
