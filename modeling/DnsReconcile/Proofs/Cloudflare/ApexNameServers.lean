/-
# The name servers of a zone on Cloudflare

Cloudflare serves a zone by its own name servers, so those that a zone asks for are left out
when it is adapted. What is left out is told by the label `@` alone, before labels are in
canonical form. A name server of the zone itself under any other spelling stays, and then
all name servers of the zone itself are compared: those that are asked for are created, and
Cloudflare's own are deleted.
-/

import DnsReconcile.Proofs.Changeset.Accounting
import DnsReconcile.Proofs.Cloudflare.DesiredZones
import DnsReconcile.Proofs.Engine.PlannedCorrections
import DnsReconcile.Proofs.Zone.Ownership

namespace DnsReconcile

/-- The correction creates, modifies or deletes the record. -/
def Correction.Touches (correction : Correction) (record : Record) : Prop :=
  match correction.action with
  | .create other | .delete other => other = record
  | .modify existing desired => existing = record ∨ desired = record
  | .toggle .. => False

/-- Which records are name servers of the zone itself can be told from their keys. -/
theorem Record.IsApexNs.of_key_eq {first second : Record} (apex : first.IsApexNs)
    (same : first.key = second.key) : second.IsApexNs := by
  have label : first.label = second.label := congrArg RecordKey.label same
  have type : first.type = second.type := congrArg RecordKey.type same
  refine ⟨type ▸ apex.1, ?_⟩
  rw [Record.isApex, ← label]
  exact apex.2

namespace Cloudflare

variable {client : Client} {matcher : LabelMatcher} {zone desired : Zone}
variable {observed existing : List Record} {changes : Changeset}

/-- The zone asks for a name server of its own under a key, but not by the label `@`. -/
def Respelled (zone : Zone) (key : RecordKey) : Prop :=
  ∃ record ∈ zone.records, record.label ≠ apexLabel ∧
    ∃ form, (Origin.ofZone zone).record record = .ok form ∧ form.IsApexNs ∧ form.key = key

/-- The key of a canonical form depends on the data of a record only. -/
theorem exists_record_of_sameData {origin : Origin} {first second form : Record}
    (same : SameData first second) (found : origin.record first = .ok form) :
    ∃ other, origin.record second = .ok other ∧ other.key = form.key := by
  obtain ⟨label, type, payload⟩ := same
  obtain ⟨fits, canonical, paid, labelled, payable, rfl⟩ := Origin.record_eq_ok_iff.1 found
  rw [label] at labelled
  rw [payload] at payable
  rw [payload, type] at fits
  refine ⟨_, Origin.record_eq_ok_iff.2 ⟨fits, canonical, paid, labelled, payable, rfl⟩, ?_⟩
  simp only [Record.key, type]

section Compared

variable (compares : Compares client matcher zone desired observed existing changes)
include compares

/-- A name server of the zone itself comes through adaptation only under another spelling. -/
theorem respelled_of_desired {form : Record} (member : form ∈ desired.records)
    (apex : form.IsApexNs) : Respelled zone form.key := by
  obtain ⟨proxyDefault, records, adapted, forms⟩ := compares.adapted
  obtain ⟨placed, listed, found⟩ := (RecordSet.mem_normalize_iff forms).1 member
  have type : placed.type = .ns := (Origin.type_of_record found).symm.trans apex.1
  obtain ⟨record, kept, source⟩ := exists_of_mem_adaptRecords adapted listed (by rw [type]; decide)
  have same := sameData_of_adapted_ns source type
  obtain ⟨authored, spelled⟩ := List.mem_filter.1 kept
  obtain ⟨other, own, key⟩ := exists_record_of_sameData same found
  refine ⟨record, authored, fun label => ?_, other, own, apex.of_key_eq key.symm, key⟩
  have dropped : isApexNs record = true := by
    simp [isApexNs, Record.isApex, label, ← same.2.1, type]
  rw [dropped] at spelled
  exact Bool.false_ne_true spelled

/-- Under another spelling it does come through. -/
theorem exists_desired_of_respelled {key : RecordKey} (respelled : Respelled zone key) :
    ∃ form ∈ desired.records, form.IsApexNs ∧ form.key = key := by
  obtain ⟨record, authored, label, form, own, apex, rfl⟩ := respelled
  obtain ⟨proxyDefault, records, adapted, forms⟩ := compares.adapted
  have type : record.type = .ns := (Origin.type_of_record own).symm.trans apex.1
  have kept : record ∈ keptRecords zone := by
    refine List.mem_filter.2 ⟨authored, ?_⟩
    simp [isApexNs, Record.isApex, label]
  obtain ⟨placed, source, stays⟩ := exists_mem_adaptRecords adapted kept
  have fits := (Origin.record_eq_ok_iff.1 own).1
  rw [type] at fits
  have same := sameData_of_ns source fits
  have listed : placed ∈ records := stays (by rw [same.2.1, type]; rfl)
  obtain ⟨other, member, found⟩ := RecordSet.exists_mem_normalize forms listed
  obtain ⟨form', own', key⟩ := exists_record_of_sameData same found
  obtain rfl := Except.ok.inj (own'.symm.trans own)
  exact ⟨other, member, apex.of_key_eq key, key.symm⟩

theorem managesApexNs_iff :
    desired.managesApexNs desired.records = true ↔ ∃ key, Respelled zone key := by
  obtain ⟨features, adapted⟩ := compares.desired_zone
  have unmanaged : desired.manageApexNs = false := by rw [adapted]
  rw [Zone.managesApexNs_iff, unmanaged]
  apply Iff.intro
  · rintro (managed | ⟨form, member, apex⟩)
    · exact absurd managed Bool.false_ne_true
    · exact ⟨form.key, respelled_of_desired compares member apex⟩
  · rintro ⟨key, respelled⟩
    obtain ⟨form, member, apex, -⟩ := exists_desired_of_respelled compares respelled
    exact Or.inr ⟨form, member, apex⟩

/-- Without another spelling no entry of the changeset is about a name server of the zone
itself. -/
theorem not_isApexNs_of_touches (plain : ∀ key, ¬ Respelled zone key) {correction : Correction}
    (member : correction ∈ Correction.sequence changes) {record : Record}
    (touched : correction.Touches record) : ¬ record.IsApexNs := by
  have wanted (form : Record) (asked : form ∈ desired.records) : ¬ form.IsApexNs := fun apex =>
    plain _ (respelled_of_desired compares asked apex)
  have present (form : Record) (part : form ∈ Comparison.participating
      ⟨desired, matcher, Client.comparable⟩ desired.records existing) : ¬ form.IsApexNs := by
    have unmanaged : ¬ desired.managesApexNs desired.records = true := fun managed =>
      ((managesApexNs_iff compares).1 managed).elim plain
    exact (Comparison.participates_iff.1 (List.mem_filter.1 part).2).resolve_left unmanaged
  rcases Correction.mem_sequence_iff.1 member with
    ⟨change, deleted, rfl⟩ | ⟨change, created, rfl⟩ | ⟨pair, modified, rfl⟩
  · obtain rfl : change.record = record := touched
    exact present _ ((Comparison.mem_delete_iff compares.compared).1 deleted).1.1
  · obtain rfl : change.record = record := touched
    exact wanted _ ((Comparison.mem_create_iff compares.compared).1 created).1.1
  · have sides := ((Comparison.mem_modify_iff compares.compared).1 modified).1
    have either : pair.existing = record ∨ pair.desired = record := touched
    rcases either with rfl | rfl
    · exact present _ sides.1
    · exact wanted _ sides.2.1

/-- A name server under another spelling is created unless it is listed. -/
theorem exists_create_of_respelled {key : RecordKey} (respelled : Respelled zone key)
    (unlisted : ∀ stored ∈ observed, ∀ found, (Origin.ofZone zone).record stored = .ok found →
      found.key ≠ key) :
    ∃ correction ∈ Correction.sequence changes, ∃ record,
      correction.action = .create record ∧ record.IsApexNs ∧ record.key = key := by
  obtain ⟨form, wanted, apex, rfl⟩ := exists_desired_of_respelled compares respelled
  have absent : form.key ∉ (Comparison.participating ⟨desired, matcher, Client.comparable⟩
      desired.records existing).map Record.key := by
    intro known
    obtain ⟨found, part, same⟩ := List.mem_map.1 known
    obtain ⟨stored, listed, own⟩ :=
      (RecordSet.mem_normalize_iff compares.observed_forms).1 (List.mem_filter.1 part).1
    exact unlisted stored listed found own same
  obtain ⟨change, created, rfl⟩ :=
    List.mem_map.1 ((Comparison.mem_created_iff compares.compared).2 ⟨wanted, absent⟩)
  exact ⟨_, Correction.mem_sequence_iff.2 (Or.inr (Or.inl ⟨change, created, rfl⟩)), change.record,
    rfl, apex, rfl⟩

/-- A listed name server of the zone itself is then deleted unless it is asked for in the same
way or protected. -/
theorem exists_delete_of_respelled (respelled : ∃ key, Respelled zone key) {stored found : Record}
    (listed : stored ∈ observed) (own : (Origin.ofZone zone).record stored = .ok found)
    (apex : found.IsApexNs) (unwanted : ¬ Respelled zone found.key) (purges : zone.purge = true)
    (exposed : ¬ zone.IgnoresLabel matcher apexLabel) :
    ∃ correction ∈ Correction.sequence changes, correction.action = .delete found := by
  have undesired : found.key ∉ desired.records.map Record.key := by
    intro known
    obtain ⟨form, member, same⟩ := List.mem_map.1 known
    exact unwanted (same ▸ respelled_of_desired compares member (apex.of_key_eq same.symm))
  have at_apex : found.label = apexLabel := beq_iff_eq.1 apex.2
  have pointless : ¬ zone.IgnoresTarget matcher found := by
    rintro ⟨target, cname, -⟩
    have fits := Origin.fits_of_record own
    rw [cname, apex.1] at fits
    exact Bool.false_ne_true fits
  have managed := (managesApexNs_iff compares).2 respelled
  exact Correction.exists_delete_iff.2 ((compares.mem_deleted_iff listed own).2
    ⟨Or.inl managed, undesired, purges, at_apex ▸ exposed, pointless⟩)

end Compared

open Surroundings

/-- A plan for a zone on Cloudflare leaves the name servers of the zone itself alone if the zone
writes its own with the label `@` or asks for none. If it asks for some under another spelling,
those are created, and all others that are listed are deleted, Cloudflare's own among them,
unless the zone protects them. -/
theorem apex_name_servers_by_spelling {σ : Type} {providers : Dict (Provider σ)}
    {provider : Provider σ} {client : Client} {settings : EngineSettings}
    {matcher : LabelMatcher} {zone : Zone} {plan : ZonePlan} {state planned : Surroundings σ}
    (served : providers.get? zone.provider = some provider)
    (decides : provider.adapter = client.adapter)
    (ran : Surroundings.run providers
      ((Engine.ofProviders providers settings matcher).plan zone) state = (.ok plan, planned)) :
    ((∀ key, ¬ Respelled zone key) → ∀ correction ∈ plan.corrections, ∀ record,
        correction.Touches record → ¬ record.IsApexNs) ∧
      ((∃ key, Respelled zone key) →
        ∃ observed, (provider.answer (.fetch zone.name) state.services).1 = .ok observed ∧
          (∀ key, Respelled zone key →
            (∀ stored ∈ observed, ∀ found, (Origin.ofZone zone).record stored = .ok found →
              found.key ≠ key) →
            ∃ correction ∈ plan.corrections, ∃ record,
              correction.action = .create record ∧ record.IsApexNs ∧ record.key = key) ∧
          ∀ stored ∈ observed, ∀ found, (Origin.ofZone zone).record stored = .ok found →
            found.IsApexNs → ¬ Respelled zone found.key → zone.purge = true →
              ¬ zone.IgnoresLabel matcher apexLabel →
                ∃ correction ∈ plan.corrections, correction.action = .delete found) := by
  obtain ⟨provider', desired, observed, served', plans⟩ := exists_of_plan ran
  obtain rfl := Option.some.inj (served.symm.trans served')
  obtain ⟨existing, compares⟩ := exists_compares decides plans
  have sequenced {correction : Correction}
      (member : correction ∈ Correction.sequence plan.changes) :
      correction ∈ plan.corrections := by
    rw [plans.corrections]
    exact List.mem_append_left _ member
  refine ⟨fun plain correction member record touched => ?_, fun respelled =>
    ⟨observed, plans.fetched, fun key asked unlisted => ?_, ?_⟩⟩
  · rw [plans.corrections] at member
    cases List.mem_append.1 member with
    | inl change => exact not_isApexNs_of_touches compares plain change touched
    | inr toggle =>
        obtain ⟨feature, enabled, switches⟩ := Correction.exists_toggle_of_mem_ofFeatures toggle
        rw [Correction.Touches, switches] at touched
        exact touched.elim
  · obtain ⟨correction, member, created⟩ := exists_create_of_respelled compares asked unlisted
    exact ⟨correction, sequenced member, created⟩
  · intro stored listed found own apex unwanted purges exposed
    obtain ⟨correction, member, deleted⟩ :=
      exists_delete_of_respelled compares respelled listed own apex unwanted purges exposed
    exact ⟨correction, sequenced member, deleted⟩

/-! ## A zone that asks for a name server without a label -/

/-- A service that has one zone, with one name server of its own. -/
def soleZoneService (message : Http.Message) (state : Unit) : Http.Reply × Unit :=
  if message.path = "/client/v4/zones" then
    (.response 200
      "\x7b\"success\":true,\"result\":[\x7b\"id\":\"z\",\"name\":\"example.com\"\x7d]\x7d", state)
  else
    (.response 200
      ("\x7b\"success\":true,\"result\":[\x7b\"id\":\"n\",\"type\":\"NS\",\"name\":\"example.com\"," ++
        "\"content\":\"ada.ns.cloudflare.com\"\x7d]\x7d"), state)

/-- Cloudflare as it serves that zone. -/
def soleZoneProvider : Provider (Session Unit) :=
  Connection.provider ⟨{}, .ofAddress address "token"⟩ soleZoneService

/-- The zone with a name server that is written without a label. -/
def unlabelledZone : Zone :=
  { name := "example.com", provider := "cloudflare"
    records := [.ofPayload "" (.ns "carl.ns.cloudflare.com.")] }

/-- The key of a name server of the zone itself. -/
def apexNsKey (target : String) : RecordKey :=
  ⟨apexLabel, .ns, some target⟩

theorem isApexNs_of_key {record : Record} {target : String} (key : record.key = apexNsKey target) :
    record.IsApexNs := by
  have label : record.label = apexLabel := congrArg RecordKey.label key
  exact ⟨congrArg RecordKey.type key, beq_iff_eq.2 label⟩

/-- The surroundings of a run that has not asked anything yet. -/
def soleZoneStart : Surroundings (Session Unit) :=
  ⟨⟨(), Dict.empty⟩, .ofCapacity 8, []⟩

/-- What planning the zone gives. -/
def unlabelledRun : Except Error ZonePlan × Surroundings (Session Unit) :=
  let providers : Dict (Provider (Session Unit)) := .ofList [("cloudflare", soleZoneProvider)]
  Surroundings.run providers ((Engine.ofProviders providers {} .glob).plan unlabelledZone)
    soleZoneStart

theorem plan_of_unlabelledZone :
    ∃ plan, unlabelledRun = (.ok plan, unlabelledRun.2) ∧
      plan.corrections.map (fun correction => correction.record?.map Record.key) =
        [some (apexNsKey "ada.ns.cloudflare.com."), some (apexNsKey "carl.ns.cloudflare.com.")] := by
  obtain ⟨plan, result, keys⟩ := exists_eq_ok_of_map
    (show unlabelledRun.1.toOption.map
        (·.corrections.map fun correction => correction.record?.map Record.key) =
      some [some (apexNsKey "ada.ns.cloudflare.com."),
        some (apexNsKey "carl.ns.cloudflare.com.")] by decide +kernel)
  have whole : (unlabelledRun.1, unlabelledRun.2) = unlabelledRun := Prod.eta _
  exact ⟨plan, whole.symm.trans (congrArg (·, unlabelledRun.2) result), keys⟩

/-- It asks for a name server under another spelling, so that one is created and Cloudflare's is
deleted. -/
theorem apex_name_servers_by_spelling_of_unlabelledZone :
    ∃ plan, unlabelledRun = (.ok plan, unlabelledRun.2) ∧
      (∃ correction ∈ plan.corrections, ∃ record, correction.action = .create record ∧
        record.IsApexNs ∧ record.key = apexNsKey "carl.ns.cloudflare.com.") ∧
      ∃ correction ∈ plan.corrections, ∃ record, correction.action = .delete record ∧
        record.key = apexNsKey "ada.ns.cloudflare.com." := by
  obtain ⟨plan, ran, -⟩ := plan_of_unlabelledZone
  have served : Dict.get? (.ofList [("cloudflare", soleZoneProvider)]) unlabelledZone.provider =
      some soleZoneProvider := rfl
  have decides : soleZoneProvider.adapter = Client.adapter {} := rfl
  obtain ⟨-, managed⟩ := apex_name_servers_by_spelling served decides ran
  have respelled_iff (key : RecordKey) :
      Respelled unlabelledZone key ↔ key = apexNsKey "carl.ns.cloudflare.com." := by
    obtain ⟨form, own, canonical⟩ := exists_eq_ok_of_map
      (show ((Origin.ofZone unlabelledZone).record
          (.ofPayload "" (.ns "carl.ns.cloudflare.com."))).toOption.map Record.key =
        some (apexNsKey "carl.ns.cloudflare.com.") by decide +kernel)
    have apex := isApexNs_of_key canonical
    apply Iff.intro
    · rintro ⟨record, member, -, other, found, -, rfl⟩
      obtain rfl := List.mem_singleton.1 member
      rw [← canonical, Except.ok.inj (own.symm.trans found)]
    · rintro rfl
      exact ⟨_, List.mem_singleton_self _, by decide, form, own, apex, canonical⟩
  obtain ⟨observed, fetched, created, deleted⟩ := managed ⟨_, (respelled_iff _).2 rfl⟩
  obtain ⟨listed, fetched', keys⟩ := exists_eq_ok_of_map
    (show (soleZoneProvider.answer (.fetch unlabelledZone.name)
        soleZoneStart.services).1.toOption.map (·.map fun stored =>
          ((Origin.ofZone unlabelledZone).record stored).toOption.map Record.key) =
      some [some (apexNsKey "ada.ns.cloudflare.com.")] by decide +kernel)
  obtain rfl := Except.ok.inj (fetched'.symm.trans fetched)
  obtain ⟨stored, rfl, key⟩ := List.map_eq_singleton_iff.1 keys
  obtain ⟨found, own, key⟩ := exists_eq_ok_of_map key
  have other : found.key ≠ apexNsKey "carl.ns.cloudflare.com." := by
    rw [key]
    decide
  refine ⟨plan, ran, ?_, ?_⟩
  · refine created _ ((respelled_iff _).2 rfl) fun stored' member found' own' => ?_
    obtain rfl := List.mem_singleton.1 member
    rwa [← Except.ok.inj (own.symm.trans own')]
  · obtain ⟨correction, member, action⟩ := deleted stored (List.mem_singleton_self _) found own
      (isApexNs_of_key key) (mt (respelled_iff _).1 other) rfl
      (by rintro ⟨pattern, listed, -⟩; cases listed)
    exact ⟨correction, member, found, action, key⟩

/-- Plans for zones on Cloudflare do not always leave the name servers of the zone itself
alone. -/
theorem apex_name_servers_not_left_alone :
    ¬ ∀ (providers : Dict (Provider (Session Unit))) (connection : Connection)
        (network : Http.Message → Unit → Http.Reply × Unit) (zone : Zone) (plan : ZonePlan)
        (state planned : Surroundings (Session Unit)),
      providers.get? zone.provider = some (connection.provider network) →
      Surroundings.run providers ((Engine.ofProviders providers {} .glob).plan zone) state =
        (.ok plan, planned) →
      ∀ correction ∈ plan.corrections, ∀ record, correction.Touches record →
        ¬ record.IsApexNs := by
  intro claimed
  obtain ⟨plan, ran, keys⟩ := plan_of_unlabelledZone
  obtain ⟨correction, rest, corrections, first, -⟩ := List.map_eq_cons_iff.1 keys
  obtain ⟨record, asked, key⟩ := Option.map_eq_some_iff.1 first
  refine claimed _ _ soleZoneService unlabelledZone plan _ _ rfl ran correction ?_ record ?_
    (isApexNs_of_key key)
  · rw [corrections]
    exact List.mem_cons_self
  · cases action : correction.action with
    | create other => simpa [Correction.record?, Correction.Touches, action] using asked
    | delete other => simpa [Correction.record?, Correction.Touches, action] using asked
    | modify existing other =>
        have desired : other = record := by simpa [Correction.record?, action] using asked
        simp [Correction.Touches, action, desired]
    | toggle feature enabled => simp [Correction.record?, action] at asked

end Cloudflare

end DnsReconcile
