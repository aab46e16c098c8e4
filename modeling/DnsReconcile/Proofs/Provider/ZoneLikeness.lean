/-
# Zones that are alike

Two stores hold a zone alike if they hold the same features and, in the same order, the same
records, up to identifiers that were given after a certain number of others. A write that
names records by older identifiers comes out the same in both, and leaves them alike. A write
to another zone makes no difference, although both zones are given their identifiers by one
counter.
-/

import DnsReconcile.Proofs.Provider.StoreHistory
import Mathlib.Data.List.Forall2
import Mathlib.Data.Option.Defs

namespace DnsReconcile

/-- An identifier is among the first ones that a store has given. -/
def Store.Early (given : Nat) (id : Option String) : Prop :=
  ∃ n ≤ given, id = some (Store.identifier n)

/-- The action names records by early identifiers only. -/
def Action.NamesEarly (given : Nat) : Action → Prop
  | .create _ | .toggle .. => True
  | .delete record => Store.Early given record.id?
  | .modify existing _ => Store.Early given existing.id?

namespace Store

variable {given : Nat} {zone other : String} {store store' : Store} {first second : Record}
variable {records records' : List Record} {wanted : Record}

/-! ## Records -/

/-- Two records are one and the same, or one record under two identifiers that are not
early. -/
inductive Alike (given : Nat) : Record → Record → Prop where
  | same (record : Record) : Alike given record record
  | renumbered (record : Record) {n m : Nat} (late : given < n) (late' : given < m) :
      Alike given (record.withRef (identifier n) .null) (record.withRef (identifier m) .null)

theorem not_isMeant_of_late {n : Nat} (early : Early given wanted.id?) (late : given < n)
    (record : Record) : isMeant wanted (record.withRef (identifier n) .null) = false := by
  obtain ⟨m, bound, named⟩ := early
  obtain ⟨ref, held, id⟩ := Option.map_eq_some_iff.1 named
  have other : identifier n ≠ identifier m := fun same => by
    have number := identifier_injective same
    omega
  simpa [isMeant, held, Record.withRef, id] using other

/-- An early identifier means both of two records that are alike or neither. -/
theorem Alike.isMeant_eq (alike : Alike given first second) (early : Early given wanted.id?) :
    isMeant wanted first = isMeant wanted second := by
  cases alike with
  | same record => rfl
  | renumbered record late late' =>
      rw [not_isMeant_of_late early late, not_isMeant_of_late early late']

/-- A record that replaces two that are alike takes over their identifiers. -/
theorem Alike.replace (alike : Alike given first second) (desired : Record) :
    Alike given { desired with ref := first.ref } { desired with ref := second.ref } := by
  cases alike with
  | same record => exact .same _
  | renumbered record late late' => exact .renumbered desired late late'

/-! ## Lists of records -/

theorem position?_eq_of_alike (early : Early given wanted.id?)
    (alike : List.Forall₂ (Alike given) records records') :
    position? records wanted = position? records' wanted := by
  simp only [position?]
  induction alike with
  | nil => rfl
  | cons own _ ih => rw [List.findIdx?_cons, List.findIdx?_cons, own.isMeant_eq early, ih]

theorem alike_eraseIdx (alike : List.Forall₂ (Alike given) records records') (index : Nat) :
    List.Forall₂ (Alike given) (records.eraseIdx index) (records'.eraseIdx index) := by
  induction alike generalizing index with
  | nil => exact .nil
  | cons own others ih =>
      cases index with
      | zero => exact others
      | succ index => exact .cons own (ih index)

theorem alike_modify (alike : List.Forall₂ (Alike given) records records') (desired : Record)
    (index : Nat) :
    List.Forall₂ (Alike given)
      (records.modify index fun stored => { desired with ref := stored.ref })
      (records'.modify index fun stored => { desired with ref := stored.ref }) := by
  induction alike generalizing index with
  | nil =>
      rw [List.modify_nil]
      exact .nil
  | cons own others ih =>
      cases index with
      | zero => exact .cons (own.replace desired) others
      | succ index => exact .cons own (ih index)

/-! ## Stores -/

/-- Two stores hold a zone alike. -/
structure AlikeAt (given : Nat) (zone : String) (store store' : Store) : Prop where
  zones : Option.Rel (List.Forall₂ (Alike given)) (store.zones.get? zone) (store'.zones.get? zone)
  features : store.featuresOf zone = store'.featuresOf zone
  issued : given ≤ store.issued
  issued' : given ≤ store'.issued

theorem AlikeAt.refl (store : Store) (zone : String) :
    AlikeAt store.issued zone store store where
  zones := by
    cases store.zones.get? zone with
    | none => exact .none
    | some records => exact .some (List.forall₂_same.2 fun record _ => .same record)
  features := rfl
  issued := Nat.le_refl _
  issued' := Nat.le_refl _

/-- What a write gives in two stores: the same refusal, or zones that are alike. -/
inductive AlikeResults (given : Nat) (zone : String) :
    Except Error Store → Except Error Store → Prop where
  | refused (error : Error) : AlikeResults given zone (.error error) (.error error)
  | written {store store' : Store} (alike : AlikeAt given zone store store') :
      AlikeResults given zone (.ok store) (.ok store')

section Written

variable (alike : AlikeAt given zone store store')
include alike

theorem AlikeAt.forall₂_records :
    List.Forall₂ (Alike given) (store.records zone) (store'.records zone) := by
  have zones := alike.zones
  simp only [Store.records]
  cases found : store.zones.get? zone <;> cases found' : store'.zones.get? zone <;>
    rw [found, found'] at zones <;> cases zones
  case none.none => exact .nil
  case some.some each => exact each

/-- The zone may be given other records in both stores. -/
theorem AlikeAt.put {issued issued' : Nat} (each : List.Forall₂ (Alike given) records records')
    (more : store.issued ≤ issued) (more' : store'.issued ≤ issued') :
    AlikeAt given zone { store with zones := store.zones.insert zone records, issued }
      { store' with zones := store'.zones.insert zone records', issued := issued' } where
  zones := by
    rw [Dict.get?_insert, Dict.get?_insert, if_pos rfl, if_pos rfl]
    exact .some each
  features := alike.features
  issued := Nat.le_trans alike.issued more
  issued' := Nat.le_trans alike.issued' more'

theorem AlikeAt.create (record : Record) :
    AlikeAt given zone (store.create zone record) (store'.create zone record) := by
  have late := Nat.lt_succ_of_le alike.issued
  have late' := Nat.lt_succ_of_le alike.issued'
  exact alike.put
    (List.rel_append alike.forall₂_records (.cons (.renumbered record late late') .nil))
    (Nat.le_succ _) (Nat.le_succ _)

/-- A change at a record that is named by an early identifier. -/
theorem AlikeAt.changeAt (early : Early given wanted.id?)
    {change : List Record → Nat → List Record}
    (kept : ∀ {records records'}, List.Forall₂ (Alike given) records records' → ∀ index,
      List.Forall₂ (Alike given) (change records index) (change records' index)) :
    AlikeResults given zone (store.changeAt zone wanted change)
      (store'.changeAt zone wanted change) := by
  have zones := alike.zones
  unfold Store.changeAt
  cases found : store.zones.get? zone <;> cases found' : store'.zones.get? zone <;>
    rw [found, found'] at zones <;> cases zones
  case none.none => exact .refused _
  case some.some records records' each =>
    dsimp only
    rw [position?_eq_of_alike early each]
    cases position? records' wanted with
    | none => exact .refused _
    | some index => exact .written (alike.put (kept each index) (Nat.le_refl _) (Nat.le_refl _))

theorem AlikeAt.setFeature (feature : String) (enabled : Bool) :
    AlikeResults given zone (store.setFeature zone feature enabled)
      (store'.setFeature zone feature enabled) := by
  simp only [Store.setFeature]
  rw [alike.features]
  split
  · refine .written ⟨alike.zones, ?_, alike.issued, alike.issued'⟩
    simp only [featuresOf, Dict.get?_insert, if_true]
  · exact .refused _

/-- One write to two zones that are alike. -/
theorem AlikeAt.write {action : Action} (early : action.NamesEarly given) :
    AlikeResults given zone (store.write zone action) (store'.write zone action) := by
  cases action with
  | create record => exact .written (alike.create record)
  | modify existing desired => exact alike.changeAt early fun each => alike_modify each desired
  | delete record => exact alike.changeAt early alike_eraseIdx
  | toggle feature enabled => exact alike.setFeature feature enabled

/-- The answers to the write are the same. -/
theorem AlikeAt.perform {action : Action} (early : action.NamesEarly given) :
    (store.perform zone action).1 = (store'.perform zone action).1 ∧
      AlikeAt given zone (store.perform zone action).2 (store'.perform zone action).2 := by
  have results := alike.write early
  simp only [Store.perform]
  generalize store.write zone action = result at results
  generalize store'.write zone action = result' at results
  cases results with
  | refused error => exact ⟨rfl, alike⟩
  | written alike' => exact ⟨rfl, alike'⟩

end Written

/-! ## Other zones -/

/-- Nothing is seen of a write in another zone, except that identifiers may be gone. -/
structure Untold (zone : String) (before after : Store) : Prop where
  zones : after.zones.get? zone = before.zones.get? zone
  features : after.features.get? zone = before.features.get? zone
  issued : before.issued ≤ after.issued

theorem Untold.refl (zone : String) (store : Store) : Untold zone store store :=
  ⟨rfl, rfl, Nat.le_refl _⟩

theorem Untold.trans {before middle after : Store} (one : Untold zone before middle)
    (two : Untold zone middle after) : Untold zone before after where
  zones := two.zones.trans one.zones
  features := two.features.trans one.features
  issued := Nat.le_trans one.issued two.issued

theorem untold_write {action : Action} {after : Store} (apart : zone ≠ other)
    (written : store.write other action = .ok after) : Untold zone store after := by
  have changed {wanted : Record} {change : List Record → Nat → List Record}
      (found : store.changeAt other wanted change = .ok after) : Untold zone store after := by
    obtain ⟨index, -, rfl⟩ := changeAt_eq_ok_iff.1 found
    exact ⟨by rw [Dict.get?_insert, if_neg apart], rfl, Nat.le_refl _⟩
  cases action with
  | create record =>
      obtain rfl := Except.ok.inj written
      exact ⟨by rw [create, stamp, Dict.get?_insert, if_neg apart], rfl, Nat.le_succ _⟩
  | modify existing desired => exact changed written
  | delete record => exact changed written
  | toggle feature enabled =>
      simp only [Store.write, setFeature] at written
      split at written
      · obtain rfl := Except.ok.inj written
        exact ⟨rfl, by rw [Dict.get?_insert, if_neg apart], Nat.le_refl _⟩
      · cases written

theorem untold_perform (store : Store) (action : Action) (apart : zone ≠ other) :
    Untold zone store (store.perform other action).2 := by
  simp only [perform]
  split
  · next after written => exact untold_write apart written
  · exact .refl _ _

theorem Untold.records_eq {before after : Store} (untold : Untold zone before after) :
    after.records zone = before.records zone := by
  rw [Store.records, Store.records, untold.zones]

theorem Untold.featuresOf_eq {before after : Store} (untold : Untold zone before after) :
    after.featuresOf zone = before.featuresOf zone := by
  rw [Store.featuresOf, Store.featuresOf, untold.features]

/-- Writes to another zone leave a zone alike. -/
theorem AlikeAt.of_untold {after : Store} (alike : AlikeAt given zone store store')
    (untold : Untold zone store after) : AlikeAt given zone after store' where
  zones := untold.zones ▸ alike.zones
  features := untold.featuresOf_eq.trans alike.features
  issued := Nat.le_trans alike.issued untold.issued
  issued' := alike.issued'

end Store

end DnsReconcile
