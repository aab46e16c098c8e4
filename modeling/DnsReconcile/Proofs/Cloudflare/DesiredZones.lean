/-
# What Cloudflare makes of desired zones

Which of its records a desired zone keeps when Cloudflare adapts it, and what becomes of them.
Only placing aliases changes the type or the payload of a record, and it leads to two types.
Everything that is compared afterwards, and with what, follows from that.
-/

import DnsReconcile.Cloudflare.Provider
import DnsReconcile.Proofs.Changeset.Accounting
import DnsReconcile.Proofs.Cloudflare.Forwardings
import DnsReconcile.Proofs.Engine.Runs
import DnsReconcile.Proofs.Zone.CanonicalRecords
import DnsReconcile.Proofs.Zone.Ownership

namespace DnsReconcile.Cloudflare

variable {options : Options} {zone proxyDefault : String} {defaultTtl : UInt32}
variable {record adapted : Record} {records listed : List Record}

/-! ## Single records -/

/-- Placing an alias changes nothing or leads to an alias or a CNAME. -/
theorem placeAlias_cases (zone : String) (record : Record) :
    placeAlias zone record = record ∨ (placeAlias zone record).type = .aliased ∨
      (placeAlias zone record).type = .cname := by
  cases paid : record.payload with
  | cname target =>
      simp only [placeAlias, paid]
      split
      · exact Or.inr (Or.inl rfl)
      · exact Or.inl rfl
  | aliased target =>
      simp only [placeAlias, paid]
      split
      · exact Or.inl rfl
      · exact Or.inr (Or.inr rfl)
  | _ =>
      simp only [placeAlias, paid]
      exact Or.inl trivial

/-- What a record becomes. Redirects stay; any other record gets its proxy setting and its TTL
before its alias is placed. -/
theorem adaptRecord_eq_ok_iff :
    adaptRecord options zone proxyDefault defaultTtl record = .ok adapted ↔
      checkKind options record = .ok () ∧
        (isRedirect record.type = true ∧ adapted = record ∨
          isRedirect record.type = false ∧ ∃ metadata,
            proxyMetadata proxyDefault record = .ok metadata ∧
              adapted = placeAlias zone
                { record with metadata, ttl := ttlOf defaultTtl { record with metadata } }) := by
  simp only [adaptRecord]
  rw [check_bind_eq_ok_iff]
  apply and_congr_right
  intro _
  cases isRedirect record.type with
  | true =>
      rw [if_pos rfl, pure_eq_ok_iff, eq_comm]
      simp
  | false =>
      rw [if_neg Bool.false_ne_true, bind_eq_ok_iff]
      simp only [pure_eq_ok_iff, Bool.false_eq_true, false_and, false_or, true_and,
        eq_comm (b := adapted)]

/-- The two records ask for the same data at the same label, whatever else they say. -/
def SameData (first second : Record) : Prop :=
  first.label = second.label ∧ first.type = second.type ∧ first.payload = second.payload

/-- A record that is no redirect keeps its data until its alias is placed. -/
theorem exists_placeAlias_of_adaptRecord
    (found : adaptRecord options zone proxyDefault defaultTtl record = .ok adapted)
    (other : isRedirect record.type = false) :
    ∃ marked, SameData marked record ∧ adapted = placeAlias zone marked := by
  rcases (adaptRecord_eq_ok_iff.1 found).2 with ⟨redirect, -⟩ | ⟨-, metadata, -, rfl⟩
  · rw [other] at redirect
    cases redirect
  · exact ⟨{ record with metadata, ttl := ttlOf defaultTtl { record with metadata } },
      ⟨rfl, rfl, rfl⟩, rfl⟩

/-- A record whose alias is not placed keeps its data. -/
theorem sameData_of_adaptRecord
    (found : adaptRecord options zone proxyDefault defaultTtl record = .ok adapted)
    (unplaced : ∀ metadata ttl, adapted = placeAlias zone { record with metadata, ttl } →
      placeAlias zone { record with metadata, ttl } = { record with metadata, ttl }) :
    SameData adapted record := by
  rcases (adaptRecord_eq_ok_iff.1 found).2 with ⟨-, rfl⟩ | ⟨-, metadata, -, rfl⟩
  · exact ⟨rfl, rfl, rfl⟩
  · rw [unplaced _ _ rfl]
    exact ⟨rfl, rfl, rfl⟩

/-- Name servers are made of name servers only. -/
theorem sameData_of_adapted_ns
    (found : adaptRecord options zone proxyDefault defaultTtl record = .ok adapted)
    (type : adapted.type = .ns) : SameData adapted record := by
  refine sameData_of_adaptRecord found fun metadata ttl same => ?_
  rw [same] at type
  rcases placeAlias_cases zone { record with metadata, ttl } with stays | aliased | cname
  · exact stays
  · exact absurd (aliased.symm.trans type) (by decide)
  · exact absurd (cname.symm.trans type) (by decide)

/-- Name servers stay name servers. -/
theorem sameData_of_ns
    (found : adaptRecord options zone proxyDefault defaultTtl record = .ok adapted)
    (fits : record.payload.fits .ns = true) : SameData adapted record := by
  refine sameData_of_adaptRecord found fun metadata ttl _ => ?_
  cases paid : record.payload with
  | ns target => simp only [placeAlias]
  | _ =>
      rw [paid] at fits
      cases fits

/-! ## All records -/

/-- The rules for redirects. -/
theorem isRedirectRule_of_rulesOfRedirects (found : rulesOfRedirects records = .ok listed)
    (member : adapted ∈ listed) : IsRedirectRule adapted := by
  obtain ⟨source, -, rule⟩ := (mem_mapM_iff found).1 member
  exact isRedirectRule_of_ruleOfRedirect rule

theorem adaptRecords_eq_ok_iff :
    adaptRecords options zone proxyDefault defaultTtl records = .ok listed ↔
      ∃ placed rules,
        records.mapM (adaptRecord options zone proxyDefault defaultTtl) = .ok placed ∧
          rulesOfRedirects (placed.filter fun record => isRedirect record.type) = .ok rules ∧
            (placed.filter fun record => !isRedirect record.type) ++ rules = listed := by
  simp only [adaptRecords, bind_eq_ok_iff, pure_eq_ok_iff, exists_and_left]

section Adapted

variable (found : adaptRecords options zone proxyDefault defaultTtl records = .ok listed)
include found

/-- Whatever comes out is a rule or made of a record. -/
theorem exists_of_mem_adaptRecords (member : adapted ∈ listed) (other : adapted.type ≠ .pageRule) :
    ∃ record ∈ records,
      adaptRecord options zone proxyDefault defaultTtl record = .ok adapted := by
  obtain ⟨placed, rules, each, ruled, rfl⟩ := adaptRecords_eq_ok_iff.1 found
  cases List.mem_append.1 member with
  | inl stays => exact (mem_mapM_iff each).1 (List.mem_filter.1 stays).1
  | inr rule => exact absurd (isRedirectRule_of_rulesOfRedirects ruled rule).type other

/-- What a record becomes comes out unless it is a redirect. -/
theorem exists_mem_adaptRecords (member : record ∈ records) :
    ∃ adapted, adaptRecord options zone proxyDefault defaultTtl record = .ok adapted ∧
      (isRedirect adapted.type = false → adapted ∈ listed) := by
  obtain ⟨placed, rules, each, ruled, rfl⟩ := adaptRecords_eq_ok_iff.1 found
  obtain ⟨adapted, own⟩ := exists_mapM_eq_ok_iff.1 ⟨placed, each⟩ record member
  refine ⟨adapted, own, fun stays => List.mem_append_left _ (List.mem_filter.2 ⟨?_, ?_⟩)⟩
  · exact (mem_mapM_iff each).2 ⟨record, member, own⟩
  · rw [stays, Bool.not_false]

end Adapted

/-! ## Zones -/

/-- The records that are adapted. -/
def keptRecords (zone : Zone) : List Record :=
  zone.records.filter fun record => !isApexNs record

/-- What a zone becomes: its settings are read, and each record that is kept is adapted. -/
theorem adaptZone_eq_ok_iff {zone desired : Zone} :
    (adaptZone options zone).2 = .ok desired ↔
      ∃ features proxyDefault records,
        featuresOf zone = .ok features ∧
          zoneSetting zone proxyDefaultKey readProxy "off" = .ok proxyDefault ∧
          adaptRecords options zone.name proxyDefault zone.effectiveTtl (keptRecords zone) =
            .ok records ∧
          desired = { zone with records, features, manageApexNs := false } := by
  unfold adaptZone
  cases features : featuresOf zone with
  | error error => simp [bind, Except.bind]
  | ok features =>
      cases setting : zoneSetting zone proxyDefaultKey readProxy "off" with
      | error error => simp [bind, Except.bind]
      | ok proxyDefault =>
          simp only [bind, Except.bind, pure, Except.pure, map_eq_ok_iff, Except.ok.injEq,
            exists_and_left, exists_eq_left', eq_comm (b := desired)]
          rfl

theorem exists_of_adaptZone {zone desired : Zone}
    (found : (adaptZone options zone).2 = .ok desired) :
    ∃ features proxyDefault records,
      zoneSetting zone proxyDefaultKey readProxy "off" = .ok proxyDefault ∧
        adaptRecords options zone.name proxyDefault zone.effectiveTtl (keptRecords zone) =
            .ok records ∧
          desired = { zone with records, features, manageApexNs := false } := by
  obtain ⟨features, proxyDefault, records, -, rest⟩ := adaptZone_eq_ok_iff.1 found
  exact ⟨features, proxyDefault, records, rest⟩

/-- What Cloudflare compares when it makes a plan: the canonical forms of the adapted records
with those of the listed ones. -/
structure Compares (client : Client) (matcher : LabelMatcher) (zone desired : Zone)
    (observed existing : List Record) (changes : Changeset) : Prop where
  adapted : ∃ proxyDefault records,
    adaptRecords client.options zone.name proxyDefault zone.effectiveTtl (keptRecords zone) =
        .ok records ∧
      RecordSet.normalize (Origin.ofZone zone) records = .ok desired.records
  desired_zone : ∃ features,
    desired = { zone with records := desired.records, features, manageApexNs := false }
  observed_forms : RecordSet.normalize (Origin.ofZone zone) observed = .ok existing
  compared : Comparison.changes ⟨desired, matcher, Client.comparable⟩ desired.records existing =
    .ok changes

theorem exists_compares_of_prepare {client : Client} {matcher : LabelMatcher}
    {zone desired : Zone} {observed : List Record} {changes : Changeset}
    (prepared : (client.adapter.prepare matcher zone).2 = .ok desired)
    (compared : client.adapter.compare matcher desired observed = .ok changes) :
    ∃ existing, Compares client matcher zone desired observed existing changes := by
  rw [Adapter.prepare_snd, bind_eq_ok_iff] at prepared
  obtain ⟨adapted, result, checked⟩ := prepared
  obtain ⟨features, proxyDefault, records, -, found, rfl⟩ := exists_of_adaptZone result
  obtain ⟨forms, normal, -, -, rfl⟩ := Adapter.check_eq_ok_iff.1 checked
  obtain ⟨existing, observed_forms, compared⟩ := bind_eq_ok_iff.1 compared
  exact ⟨existing, ⟨proxyDefault, records, found, normal⟩, ⟨features, rfl⟩, observed_forms,
    compared⟩

theorem exists_compares {σ : Type} {provider : Provider σ} {client : Client}
    {matcher : LabelMatcher} {zone desired : Zone} {services : σ} {observed : List Record}
    {plan : ZonePlan} (decides : provider.adapter = client.adapter)
    (plans : provider.Plans matcher zone services desired observed plan) :
    ∃ existing, Compares client matcher zone desired observed existing plan.changes := by
  have prepared := plans.prepared
  have compared := plans.compared
  rw [decides] at prepared compared
  exact exists_compares_of_prepare prepared compared

/-- What is listed is deleted if it takes part in the comparison, nobody asks for it and the zone
does not protect it. -/
theorem Compares.mem_deleted_iff {client : Client} {matcher : LabelMatcher}
    {zone desired : Zone} {observed existing : List Record} {changes : Changeset}
    (compares : Compares client matcher zone desired observed existing changes)
    {stored found : Record} (listed : stored ∈ observed)
    (own : (Origin.ofZone zone).record stored = .ok found) :
    found ∈ changes.delete.map (·.record) ↔
      (desired.managesApexNs desired.records = true ∨ ¬ found.IsApexNs) ∧
        found.key ∉ desired.records.map Record.key ∧
        zone.purge = true ∧ ¬ zone.IgnoresLabel matcher found.label ∧
        ¬ zone.IgnoresTarget matcher found := by
  have present : found ∈ existing :=
    (RecordSet.mem_normalize_iff compares.observed_forms).2 ⟨stored, listed, own⟩
  have part_iff : found ∈ Comparison.participating ⟨desired, matcher, Client.comparable⟩
      desired.records existing ↔
        desired.managesApexNs desired.records = true ∨ ¬ found.IsApexNs := by
    rw [Comparison.participating, List.mem_filter, Comparison.participates_iff]
    exact and_iff_right present
  obtain ⟨features, adapted⟩ := compares.desired_zone
  have exposed_iff : Comparison.protects ⟨desired, matcher, Client.comparable⟩ found = false ↔
      zone.purge = true ∧ ¬ zone.IgnoresLabel matcher found.label ∧
        ¬ zone.IgnoresTarget matcher found := by
    rw [← Bool.not_eq_true, Comparison.protects_iff, Comparison.Protected, not_or, not_or,
      Bool.not_eq_false, adapted]
    rfl
  rw [Comparison.mem_deleted_iff compares.compared, part_iff, exposed_iff]

end DnsReconcile.Cloudflare
