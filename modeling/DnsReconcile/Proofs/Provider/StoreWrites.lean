/-
# Series of writes to a store

What several writes to one zone do together. Every write is found to leave the other
zones alone and to change the zone in a way that depends on identifiers only; so records
that are removed or replaced on the way do not keep later writes from finding theirs.
-/

import DnsReconcile.Proofs.Provider.StoreHistory

namespace DnsReconcile.Store

variable {store before middle after : Store} {zone id : String}
variable {record wanted stored : Record} {records : List Record}

/-- Carry out actions in order, unless one is refused. -/
def writeAll (store : Store) (zone : String) (actions : List Action) : Except Error Store :=
  actions.foldlM (fun store action => store.write zone action) store

theorem Rewrites.refl (zone : String) (store : Store) :
    Rewrites zone (store.records zone) 0 store store :=
  ⟨rfl, fun _ _ => rfl, rfl, rfl⟩

/-- Of two rewritings the second decides what is in the zone. -/
theorem Rewrites.trans {first second : List Record} {given more : Nat}
    (one : Rewrites zone first given before middle)
    (two : Rewrites zone second more middle after) :
    Rewrites zone second (given + more) before after where
  here := two.here
  elsewhere other apart := (two.elsewhere other apart).trans (one.elsewhere other apart)
  features := two.features.trans one.features
  issued := by rw [two.issued, one.issued, Nat.add_assoc]

/-! ## Finding records -/

/-- A record with an identifier means the record stored under it. -/
theorem isMeant_iff (named : wanted.id? = some id) :
    isMeant wanted stored = true ↔ stored.id? = some id := by
  obtain ⟨ref, held, rfl⟩ := Option.map_eq_some_iff.1 named
  simp only [isMeant, Record.id?]
  rw [held]
  cases stored.ref <;> simp

/-- Identifiers lead to one record. Removing it or changing it can be said without
positions. -/
theorem position?_spec (named : wanted.id? = some id) (known : some id ∈ records.map Record.id?)
    (distinct : (records.map Record.id?).Nodup) :
    ∃ index, position? records wanted = some index ∧
      records.eraseIdx index = records.filter (fun stored => !isMeant wanted stored) ∧
      ∀ change : Record → Record, records.modify index change =
        records.map fun stored => if isMeant wanted stored then change stored else stored := by
  induction records with
  | nil => exact absurd known List.not_mem_nil
  | cons head tail ih =>
      rw [List.map_cons, List.nodup_cons] at distinct
      simp only [position?]
      by_cases meant : isMeant wanted head = true
      · have others : ∀ stored ∈ tail, isMeant wanted stored = false := by
          intro stored member
          refine Bool.eq_false_iff.2 fun meant' => distinct.1 ?_
          rw [(isMeant_iff named).1 meant, ← (isMeant_iff named).1 meant']
          exact List.mem_map_of_mem member
        refine ⟨0, by rw [List.findIdx?_cons, if_pos meant], ?_, fun change => ?_⟩
        · rw [List.eraseIdx_cons_zero, List.filter_cons_of_neg (by simp [meant])]
          exact (List.filter_eq_self.2 fun stored member => by simp [others stored member]).symm
        · have kept : tail.map (fun stored =>
              if isMeant wanted stored then change stored else stored) = tail := by
            refine (List.map_congr_left fun stored member => ?_).trans tail.map_id
            rw [others stored member]
            rfl
          rw [List.modify_zero_cons, List.map_cons, if_pos meant, kept]
      · have known' : some id ∈ tail.map Record.id? := by
          rw [List.map_cons, List.mem_cons] at known
          exact known.resolve_left fun same => meant ((isMeant_iff named).2 same.symm)
        obtain ⟨index, found, erased, modified⟩ := ih known' distinct.2
        simp only [position?] at found
        have later : (head :: tail).findIdx? (isMeant wanted) = some (index + 1) := by
          rw [List.findIdx?_cons, if_neg meant, found]
          rfl
        refine ⟨index + 1, later, ?_, fun change => ?_⟩
        · rw [List.eraseIdx_cons_succ, erased, List.filter_cons_of_pos (by simp [meant])]
        · rw [List.modify_succ_cons, modified, List.map_cons, if_neg meant]

/-! ## Single writes -/

/-- Every identifier in a store is one. -/
theorem Numbered.exists_id (numbered : store.Numbered) (known : record.id? ∈ store.ids zone) :
    ∃ id, record.id? = some id := by
  obtain ⟨n, -, named⟩ := numbered.issued zone _ known
  exact ⟨_, named⟩

theorem write_delete (numbered : store.Numbered) (known : wanted.id? ∈ store.ids zone) :
    ∃ after, store.write zone (.delete wanted) = .ok after ∧
      Rewrites zone ((store.records zone).filter fun stored => !isMeant wanted stored) 0
        store after := by
  obtain ⟨id, named⟩ := numbered.exists_id known
  obtain ⟨index, found, erased, -⟩ :=
    position?_spec named (named ▸ known) (numbered.distinct zone)
  refine ⟨_, changeAt_eq_ok_iff.2 ⟨index, found, rfl⟩, ?_⟩
  rw [erased]
  exact rewrites_put _ _ _

/-- A stored record after the first modification that means it. It keeps its
identifier. -/
def revise (pairs : List PairedChange) (stored : Record) : Record :=
  match pairs.find? fun pair => isMeant pair.existing stored with
  | some pair => { pair.desired with ref := stored.ref }
  | none => stored

@[simp] theorem revise_nil (stored : Record) : revise [] stored = stored := rfl

theorem revise_cons (pair : PairedChange) (rest : List PairedChange) (stored : Record) :
    revise (pair :: rest) stored =
      if isMeant pair.existing stored then { pair.desired with ref := stored.ref }
      else revise rest stored := by
  simp only [revise]
  rw [List.find?_cons]
  cases isMeant pair.existing stored <;> rfl

@[simp] theorem revise_id? (pairs : List PairedChange) (stored : Record) :
    (revise pairs stored).id? = stored.id? := by
  simp only [revise]
  split <;> rfl

/-- A record that no modification means stays. -/
theorem revise_eq_self {pairs : List PairedChange}
    (unmeant : ∀ pair ∈ pairs, isMeant pair.existing stored = false) :
    revise pairs stored = stored := by
  have none_found : pairs.find? (fun pair => isMeant pair.existing stored) = none :=
    List.find?_eq_none.2 fun pair member => by simp [unmeant pair member]
  rw [revise, none_found]

theorem write_modify (numbered : store.Numbered) {pair : PairedChange}
    (known : pair.existing.id? ∈ store.ids zone) :
    ∃ after, store.write zone (.modify pair.existing pair.desired) = .ok after ∧
      Rewrites zone ((store.records zone).map (revise [pair])) 0 store after := by
  obtain ⟨id, named⟩ := numbered.exists_id known
  obtain ⟨index, found, -, modified⟩ :=
    position?_spec named (named ▸ known) (numbered.distinct zone)
  refine ⟨_, changeAt_eq_ok_iff.2 ⟨index, found, rfl⟩, ?_⟩
  have same : (store.records zone).map (revise [pair]) =
      (store.records zone).modify index fun stored => { pair.desired with ref := stored.ref } := by
    rw [modified]
    exact List.map_congr_left fun stored _ => by rw [revise_cons, revise_nil]
  rw [same]
  exact rewrites_put _ _ _

theorem write_create (store : Store) (zone : String) (record : Record) :
    ∃ after, store.write zone (.create record) = .ok after ∧
      Rewrites zone (store.records zone ++ stamped store.issued [record]) 1 store after := by
  have put := rewrites_put store zone (store.records zone ++ stamped store.issued [record])
  exact ⟨_, rfl, put.here, put.elsewhere, rfl, rfl⟩

/-! ## Series -/

theorem writeAll_cons {action : Action} {rest : List Action} :
    store.writeAll zone (action :: rest) = .ok after ↔
      ∃ middle, store.write zone action = .ok middle ∧ middle.writeAll zone rest = .ok after := by
  simp only [writeAll]
  rw [List.foldlM_cons, bind_eq_ok_iff]

theorem writeAll_append {first second : List Action} :
    store.writeAll zone (first ++ second) = .ok after ↔
      ∃ middle, store.writeAll zone first = .ok middle ∧
        middle.writeAll zone second = .ok after := by
  simp only [writeAll]
  rw [List.foldlM_append, bind_eq_ok_iff]

theorem Numbered.writeAll (numbered : store.Numbered) {actions : List Action}
    (written : store.writeAll zone actions = .ok after) : after.Numbered := by
  induction actions generalizing store with
  | nil =>
      obtain rfl := Except.ok.inj written
      exact numbered
  | cons action rest ih =>
      obtain ⟨middle, first, others⟩ := writeAll_cons.1 written
      exact ih (numbered.write first) others

/-- Deleting several records leaves those that none of the deletions means. -/
theorem writeAll_delete {wanted : List Record} (numbered : store.Numbered)
    (known : ∀ record ∈ wanted, record.id? ∈ store.ids zone)
    (once : (wanted.map Record.id?).Nodup) :
    ∃ after, store.writeAll zone (wanted.map .delete) = .ok after ∧
      Rewrites zone
        ((store.records zone).filter fun stored => !wanted.any (isMeant · stored)) 0
        store after := by
  induction wanted generalizing store with
  | nil =>
      refine ⟨store, rfl, ?_⟩
      have all : (store.records zone).filter
          (fun stored => !([] : List Record).any (isMeant · stored)) = store.records zone :=
        List.filter_eq_self.2 fun _ _ => rfl
      rw [all]
      exact Rewrites.refl zone store
  | cons record rest ih =>
      rw [List.map_cons, List.nodup_cons] at once
      obtain ⟨id, named⟩ := numbered.exists_id (known record List.mem_cons_self)
      obtain ⟨middle, deleted, one⟩ := write_delete numbered (known record List.mem_cons_self)
      have known' : ∀ other ∈ rest, other.id? ∈ middle.ids zone := by
        intro other member
        obtain ⟨stored, present, same⟩ :=
          List.mem_map.1 (known other (List.mem_cons_of_mem _ member))
        refine List.mem_map.2 ⟨stored, one.here ▸ List.mem_filter.2 ⟨present, ?_⟩, same⟩
        rw [Bool.not_eq_true', Bool.eq_false_iff]
        intro meant
        rw [isMeant_iff named, same, ← named] at meant
        exact once.1 (meant ▸ List.mem_map_of_mem member)
      obtain ⟨after, others, two⟩ := ih (numbered.write deleted) known' once.2
      refine ⟨after, writeAll_cons.2 ⟨middle, deleted, others⟩, ?_⟩
      have both := one.trans two
      rw [one.here, List.filter_filter] at both
      simpa only [List.any_cons, Bool.not_or, Bool.and_comm] using both

/-- Modifying several records replaces each by what is desired in its place. -/
theorem writeAll_modify {pairs : List PairedChange} (numbered : store.Numbered)
    (known : ∀ pair ∈ pairs, pair.existing.id? ∈ store.ids zone)
    (once : (pairs.map fun pair => pair.existing.id?).Nodup) :
    ∃ after,
      store.writeAll zone (pairs.map fun pair => .modify pair.existing pair.desired) = .ok after ∧
        Rewrites zone ((store.records zone).map (revise pairs)) 0 store after := by
  induction pairs generalizing store with
  | nil =>
      refine ⟨store, rfl, ?_⟩
      rw [show revise [] = id from rfl, List.map_id]
      exact Rewrites.refl zone store
  | cons pair rest ih =>
      rw [List.map_cons, List.nodup_cons] at once
      obtain ⟨id, named⟩ := numbered.exists_id (known pair List.mem_cons_self)
      obtain ⟨middle, modified, one⟩ := write_modify numbered (known pair List.mem_cons_self)
      have ids : middle.ids zone = store.ids zone := by
        simp only [Store.ids]
        rw [one.here, List.map_map]
        exact List.map_congr_left fun stored _ => revise_id? [pair] stored
      have known' : ∀ other ∈ rest, other.existing.id? ∈ middle.ids zone := fun other member =>
        ids ▸ known other (List.mem_cons_of_mem _ member)
      obtain ⟨after, others, two⟩ := ih (numbered.write modified) known' once.2
      refine ⟨after, writeAll_cons.2 ⟨middle, modified, others⟩, ?_⟩
      have both := one.trans two
      rw [one.here, List.map_map] at both
      have same : (store.records zone).map (revise rest ∘ revise [pair]) =
          (store.records zone).map (revise (pair :: rest)) := by
        apply List.map_congr_left
        intro stored _
        rw [Function.comp_apply, revise_cons, revise_cons, revise_nil]
        by_cases meant : isMeant pair.existing stored = true
        · rw [if_pos meant, if_pos meant]
          refine revise_eq_self fun other member => Bool.eq_false_iff.2 fun meant' => once.1 ?_
          have own := (isMeant_iff named).1 meant
          obtain ⟨id', named'⟩ := numbered.exists_id (known other (List.mem_cons_of_mem _ member))
          have own' : Record.id? { pair.desired with ref := stored.ref } = some id' :=
            (isMeant_iff named').1 meant'
          change stored.id? = some id' at own'
          rw [named, ← own, own', ← named']
          exact List.mem_map_of_mem (f := fun pair : PairedChange => pair.existing.id?) member
        · rw [if_neg meant, if_neg meant]
      rw [same] at both
      exact both

/-- Creating several records appends them under the identifiers that come next. -/
theorem writeAll_create (store : Store) (zone : String) (created : List Record) :
    ∃ after, store.writeAll zone (created.map .create) = .ok after ∧
      Rewrites zone (store.records zone ++ stamped store.issued created) created.length
        store after := by
  induction created generalizing store with
  | nil =>
      refine ⟨store, rfl, ?_⟩
      rw [stamped, List.append_nil]
      exact Rewrites.refl zone store
  | cons record rest ih =>
      obtain ⟨middle, written, one⟩ := write_create store zone record
      obtain ⟨after, others, two⟩ := ih middle
      refine ⟨after, writeAll_cons.2 ⟨middle, written, others⟩, ?_⟩
      have both := one.trans two
      rw [one.here, one.issued, List.append_assoc] at both
      rw [List.length_cons, Nat.add_comm]
      exact both

/-! ## Features -/

/-- The features of one zone have been switched to the given states. Nothing else is
different. -/
structure Switches (zone : String) (state : String → Option Bool) (before after : Store) :
    Prop where
  here : ∀ feature, (after.featuresOf zone).get? feature = state feature
  elsewhere : ∀ other, other ≠ zone → after.featuresOf other = before.featuresOf other
  zones : after.zones = before.zones

/-- Switching a feature that the zone has. -/
theorem write_toggle {feature : String} {actual : Bool} (enabled : Bool)
    (known : (store.featuresOf zone).get? feature = some actual) :
    ∃ after, store.write zone (.toggle feature enabled) = .ok after ∧
      Switches zone
        (fun other => if other = feature then some enabled
          else (store.featuresOf zone).get? other) store after := by
  have contained : (store.featuresOf zone).contains feature = true := by
    rw [Dict.contains, known]
    rfl
  refine ⟨_, if_pos contained, ?_, ?_, rfl⟩
  · intro other
    show (((store.features.insert zone _).get? zone).getD Dict.empty).get? other = _
    rw [Dict.get?_insert, if_pos rfl, Option.getD_some, Dict.get?_insert]
  · intro other apart
    show ((store.features.insert zone _).get? other).getD Dict.empty = _
    rw [Dict.get?_insert, if_neg apart]
    rfl

/-- The corrections of features bring each feature that the zone has into the desired
state, if one is desired. -/
theorem writeAll_toggle {current : Dict Bool} {entries : List (String × Bool)}
    (sorted : entries.Pairwise fun first second => first.1 < second.1)
    (agree : ∀ entry ∈ entries, (store.featuresOf zone).get? entry.1 = current.get? entry.1) :
    ∃ after,
      store.writeAll zone
          ((Correction.ofFeatures zone ⟨entries, sorted⟩ current).map (·.action)) = .ok after ∧
        Switches zone
          (fun feature => ((store.featuresOf zone).get? feature).map fun actual =>
            (entries.lookup feature).getD actual) store after := by
  induction entries generalizing store with
  | nil =>
      refine ⟨store, rfl, fun feature => ?_, fun _ _ => rfl, rfl⟩
      simp
  | cons entry rest ih =>
      obtain ⟨feature, enabled⟩ := entry
      obtain ⟨behind, sorted'⟩ := List.pairwise_cons.1 sorted
      have own := agree _ List.mem_cons_self
      have other_name : ∀ entry ∈ rest, feature ≠ entry.1 := fun entry member same =>
        String.lt_irrefl entry.1 (same ▸ behind entry member)
      have absent : rest.lookup feature = none :=
        List.lookup_eq_none_iff.2 fun entry member => bne_iff_ne.2 (other_name entry member)
      have agree' : ∀ entry ∈ rest, (store.featuresOf zone).get? entry.1 = current.get? entry.1 :=
        fun entry member => agree entry (List.mem_cons_of_mem _ member)
      by_cases settled : current.get? feature = none ∨ current.get? feature = some enabled
      · -- No correction: the zone has no such feature, or it is in the desired state.
        have same : Correction.ofFeatures zone ⟨(feature, enabled) :: rest, sorted⟩ current =
            Correction.ofFeatures zone ⟨rest, sorted'⟩ current := by
          simp only [Correction.ofFeatures]
          apply List.filterMap_cons_none
          cases settled with
          | inl missing =>
              simp [missing]
          | inr equal =>
              simp [equal]
        obtain ⟨after, written, switches⟩ := ih sorted' agree'
        refine ⟨after, same ▸ written, fun other => ?_, switches.elsewhere, switches.zones⟩
        rw [switches.here, Dict.lookup_cons_ite]
        split
        · next here =>
          rw [here, own, absent]
          cases settled with
          | inl missing =>
              rw [missing, Option.map_none, Option.map_none]
          | inr equal =>
              rw [equal]
              rfl
        · rfl
      · rw [not_or] at settled
        obtain ⟨actual, held⟩ := Option.ne_none_iff_exists'.1 settled.1
        have apart : actual ≠ enabled := fun equal => settled.2 (held.trans (congrArg some equal))
        have more : (Correction.ofFeatures zone ⟨(feature, enabled) :: rest, sorted⟩ current).map
              (·.action) =
            .toggle feature enabled ::
              (Correction.ofFeatures zone ⟨rest, sorted'⟩ current).map (·.action) := by
          simp only [Correction.ofFeatures]
          simp [held, apart]
        obtain ⟨middle, toggled, first⟩ := write_toggle enabled (own.trans held)
        have agree_still : ∀ entry ∈ rest,
            (middle.featuresOf zone).get? entry.1 = current.get? entry.1 := by
          intro entry member
          rw [first.here, if_neg (other_name entry member).symm, agree' entry member]
        obtain ⟨after, written, switches⟩ := ih sorted' agree_still
        refine ⟨after, ?_, fun other => ?_, fun other elsewhere => ?_, ?_⟩
        · rw [more]
          exact writeAll_cons.2 ⟨middle, toggled, written⟩
        · rw [switches.here, first.here, Dict.lookup_cons_ite]
          by_cases here : other = feature
          · rw [if_pos here, if_pos here, here, own, held, absent]
            rfl
          · rw [if_neg here, if_neg here]
        · rw [switches.elsewhere other elsewhere, first.elsewhere other elsewhere]
        · rw [switches.zones, first.zones]

end DnsReconcile.Store
