/-
# The order of inputs

Neither the order in which records are written nor the order in which a provider lists them
shows in what is done. Records that sorting cannot tell apart keep the order they came in, so
canonical lists do depend on it. But such records are refused, or are name servers of the zone
itself that take no part; everything that is compared is told apart by its key.
-/

import DnsReconcile.Correction
import DnsReconcile.Proofs.Changeset.Entries
import DnsReconcile.Proofs.Zone.RecordSets

namespace DnsReconcile

variable {records records' authored authored' observed observed' : List Record}

/-! ## Canonical lists -/

/-- In another order, a list has a canonical form as well, with the same records. -/
theorem RecordSet.exists_normalize_of_perm {origin : Origin} {listed : List Record}
    (same : records.Perm records') (found : normalize origin records = .ok listed) :
    ∃ listed', normalize origin records' = .ok listed' ∧ listed.Perm listed' := by
  obtain ⟨canonical, forms, checked, rfl⟩ := normalize_eq_ok_iff.1 found
  obtain ⟨canonical', forms', again⟩ := exists_mapM_eq_ok_of_perm same forms
  have together := check_sorted_eq_ok_iff.1 checked
  rw [List.Perm.pairwise_iff Record.Compatible.symm again] at together
  have checked' := check_sorted_eq_ok_iff.2 together
  refine ⟨sorted canonical', normalize_eq_ok_iff.2 ⟨canonical', forms', checked', rfl⟩, ?_⟩
  exact (sorted_perm canonical).trans (again.trans (sorted_perm canonical').symm)

/-! ## Ties -/

/-- Addresses of the zone itself that nothing but their TTL tells apart. -/
def Record.twin (ttl : UInt32) : Record where
  label := apexLabel
  type := .a
  payload := .a ⟨192, 0, 2, 1⟩
  ttl := ttl

/-- Records that sorting cannot tell apart keep the order they came in. -/
theorem RecordSet.normalize_twins (origin : Origin) {first second : UInt32}
    (given : first ≠ 0) (given' : second ≠ 0) :
    normalize origin [.twin first, .twin second] = .ok [.twin first, .twin second] := by
  have apex : origin.label apexLabel.toList = .ok ['@'] := by
    have spelled : Text.lower (Text.trim apexLabel.toList) = ['@'] := by decide +kernel
    simp only [Origin.label, spelled, or_true, if_true]
  have own {ttl : UInt32} (given : ttl ≠ 0) : origin.record (.twin ttl) = .ok (.twin ttl) := by
    refine Origin.record_eq_ok_iff.2 ⟨rfl, ['@'], _, apex, rfl, ?_⟩
    show Record.twin ttl = { Record.twin ttl with ttl := if ttl = 0 then origin.ttl else ttl }
    rw [if_neg given]
    rfl
  have several : RecordType.a.GoWith .a := ⟨by decide, fun _ => rfl⟩
  have together : (Record.twin first).Compatible (.twin second) := fun _ _ _ => several
  have checked := check_sorted_eq_ok_iff.2 (List.pairwise_pair.2 together)
  have tied : RecordKey.le (Record.twin first).listingKey (Record.twin second).listingKey = true :=
    or_self_iff.1 (RecordKey.isPreorder_le.total _ _)
  refine normalize_eq_ok_iff.2 ⟨_, mapM_eq_ok_iff.2 ?_, checked, ?_⟩
  · exact .cons (own given) (.cons (own given') .nil)
  · simp only [sorted, sortBy, insertBy, tied, if_true]

namespace Comparison

variable {comparison : Comparison} {desired desired' existing existing' : List Record}
variable {changes : Changeset}

/-! ## Comparing -/

section Rearranged

variable (wanted : desired.Perm desired') (found : existing.Perm existing')
include wanted found

variable (comparison) in
theorem participating_perm :
    (comparison.participating desired existing).Perm
      (comparison.participating desired' existing') := by
  have managed :
      comparison.zone.managesApexNs desired = comparison.zone.managesApexNs desired' := by
    simp only [Zone.managesApexNs]
    rw [wanted.any_eq]
  rw [participating, participating, managed]
  exact found.filter _

theorem admits_of_perm (admitted : comparison.Admits desired existing) :
    comparison.Admits desired' existing' := by
  constructor
  case permitted =>
      have permitted := forM_eq_ok_iff.1 admitted.permitted
      exact forM_eq_ok_iff.2 fun record member => permitted record (wanted.mem_iff.2 member)
  case desired_fit =>
      intro record member
      exact admitted.desired_fit record (wanted.mem_iff.2 member)
  case existing_fit =>
      intro record member
      exact admitted.existing_fit record (found.mem_iff.2 member)
  case desired_distinct =>
      exact (wanted.map Record.key).nodup_iff.1 admitted.desired_distinct
  case existing_distinct =>
      have keys := (participating_perm comparison wanted found).map Record.key
      exact keys.nodup_iff.1 admitted.existing_distinct

/-- A comparison does not depend on the order of either side. -/
theorem changes_of_perm (compared : comparison.changes desired existing = .ok changes) :
    comparison.changes desired' existing' = .ok changes := by
  have admitted := admits_of_perm wanted found (changes_eq_ok_iff.1 compared).1
  have part := participating_perm comparison wanted found
  obtain ⟨changes', compared'⟩ : ∃ changes', comparison.changes desired' existing' = .ok changes' :=
    ⟨_, changes_eq_ok_iff.2 ⟨admitted, rfl⟩⟩
  have unchanged : changes.unchanged = changes'.unchanged := by
    apply (unchanged_ordered compared).eq_of_mem_iff RecordKey.le_antisymm
      (unchanged_ordered compared')
    intro pair
    rw [mem_unchanged_iff compared, mem_unchanged_iff compared', part.mem_iff, wanted.mem_iff]
  have create : changes.create = changes'.create := by
    apply (create_ordered compared).eq_of_mem_iff RecordKey.le_antisymm (create_ordered compared')
    intro change
    rw [mem_create_iff compared, mem_create_iff compared', wanted.mem_iff, (part.map _).mem_iff]
  have delete : changes.delete = changes'.delete := by
    apply (delete_ordered compared).eq_of_mem_iff RecordKey.le_antisymm (delete_ordered compared')
    intro change
    rw [mem_delete_iff compared, mem_delete_iff compared', part.mem_iff, (wanted.map _).mem_iff]
  have modify : changes.modify = changes'.modify := by
    apply (modify_ordered compared).eq_of_mem_iff RecordKey.le_antisymm (modify_ordered compared')
    intro pair
    rw [mem_modify_iff compared, mem_modify_iff compared', part.mem_iff, wanted.mem_iff]
  obtain rfl : changes = changes' := by
    cases changes
    cases changes'
    simp_all
  exact compared'

end Rearranged

/-! ## From inputs to corrections -/

/-- The changeset and the corrections for records as they were written and as they were
observed. -/
def outline (comparison : Comparison) (authored observed : List Record) :
    Except Error (Changeset × List Correction) := do
  let origin := Origin.ofZone comparison.zone
  let desired ← RecordSet.normalize origin authored
  let existing ← RecordSet.normalize origin observed
  let changes ← comparison.changes desired existing
  return (changes, Correction.sequence changes)

theorem outline_eq_ok_iff {result : Changeset × List Correction} :
    comparison.outline authored observed = .ok result ↔
      ∃ desired existing,
        RecordSet.normalize (Origin.ofZone comparison.zone) authored = .ok desired ∧
        RecordSet.normalize (Origin.ofZone comparison.zone) observed = .ok existing ∧
        comparison.changes desired existing = .ok result.1 ∧
        Correction.sequence result.1 = result.2 := by
  simp only [outline, bind_eq_ok_iff, pure_eq_ok_iff]
  apply Iff.intro
  · rintro ⟨desired, canonical, existing, canonical', changes, compared, rfl⟩
    exact ⟨desired, existing, canonical, canonical', compared, rfl⟩
  · rintro ⟨desired, existing, canonical, canonical', compared, sequenced⟩
    exact ⟨desired, canonical, existing, canonical', result.1, compared, Prod.ext rfl sequenced⟩

theorem outline_eq_ok_of_perm {result : Changeset × List Correction}
    (same : authored.Perm authored') (same' : observed.Perm observed')
    (found : comparison.outline authored observed = .ok result) :
    comparison.outline authored' observed' = .ok result := by
  obtain ⟨desired, existing, canonical, canonical', compared, sequenced⟩ :=
    outline_eq_ok_iff.1 found
  obtain ⟨desired', again, wanted⟩ := RecordSet.exists_normalize_of_perm same canonical
  obtain ⟨existing', again', present⟩ := RecordSet.exists_normalize_of_perm same' canonical'
  have compared' := changes_of_perm wanted present compared
  exact outline_eq_ok_iff.2 ⟨desired', existing', again, again', compared', sequenced⟩

/-- Rearranging the inputs never matters: they are refused in both arrangements, or both have the
same changeset and the same corrections. This is so although canonical lists may differ. -/
theorem outline_rearranged (comparison : Comparison) :
    (∀ {authored authored' observed observed'}, authored.Perm authored' →
      observed.Perm observed' →
        ∀ result, comparison.outline authored observed = .ok result ↔
          comparison.outline authored' observed' = .ok result) ∧
      ∃ records records' listed listed', records.Perm records' ∧
        RecordSet.normalize (Origin.ofZone comparison.zone) records = .ok listed ∧
        RecordSet.normalize (Origin.ofZone comparison.zone) records' = .ok listed' ∧
        listed ≠ listed' := by
  constructor
  · intro authored authored' observed observed' same same' result
    exact ⟨outline_eq_ok_of_perm same same', outline_eq_ok_of_perm same.symm same'.symm⟩
  · have short : (60 : UInt32) ≠ 0 := by decide
    have long : (300 : UInt32) ≠ 0 := by decide
    refine ⟨_, _, _, _, List.Perm.swap _ _ _, RecordSet.normalize_twins _ short long,
      RecordSet.normalize_twins _ long short, ?_⟩
    intro same
    have ttl : (60 : UInt32) = 300 := congrArg Record.ttl (List.cons.inj same).1
    exact absurd ttl (by decide)

/-- The provider lists two copies of a name server of the zone itself, and the canonical lists
differ by their order. What is done is the same. -/
theorem outline_rearranged_of_name_servers :
    let zone : Zone := { name := "example.com" }
    let comparison : Comparison := ⟨zone, .exact, fun _ => ∅⟩
    let server : Record := .ofPayload "@" (.ns "ns.example.net.")
    let authored : List Record :=
      [.ofPayload "www" (.a ⟨192, 0, 2, 1⟩), .ofPayload "mail" (.txt ["new"])]
    let observed : List Record :=
      [{ server with ttl := 60 }, .ofPayload "old" (.txt ["gone"]), { server with ttl := 300 },
        { Record.ofPayload "www" (.a ⟨192, 0, 2, 1⟩) with ttl := 60 }]
    RecordSet.normalize (Origin.ofZone zone) observed ≠
        RecordSet.normalize (Origin.ofZone zone) observed.reverse ∧
      ∃ result, comparison.outline authored observed = .ok result ∧ result.2.length = 3 ∧
        comparison.outline authored.reverse observed.reverse = .ok result := by
  intro zone comparison server authored observed
  constructor
  · intro same
    have ttls := congrArg (fun result => result.toOption.map (List.map Record.ttl)) same
    exact absurd ttls (by decide +kernel)
  · obtain ⟨result, outlined, three⟩ := exists_eq_ok_of_map
      (show (comparison.outline authored observed).toOption.map (·.2.length) = some 3 by
        decide +kernel)
    have same : authored.Perm authored.reverse := (List.reverse_perm authored).symm
    have same' : observed.Perm observed.reverse := (List.reverse_perm observed).symm
    have again := ((outline_rearranged comparison).1 same same' result).1 outlined
    exact ⟨result, outlined, three, again⟩

end Comparison

end DnsReconcile
