/-
# Ignored targets on Cloudflare

CNAMEs with ignored targets belong to somebody else and are left alone. Which records are CNAMEs
is asked of canonical records, and by then a CNAME of the zone itself has become an alias. So what
Cloudflare lists as a CNAME is left alone for its target everywhere but at the zone itself.
-/

import DnsReconcile.Proofs.Cloudflare.DesiredZones
import DnsReconcile.Proofs.Cloudflare.EntryRecords
import DnsReconcile.Proofs.Cloudflare.Listings
import DnsReconcile.Proofs.Engine.PlannedCorrections
import DnsReconcile.Proofs.Zone.Ownership

namespace DnsReconcile

open Text

/-- Names that one of the patterns for targets covers. -/
def Zone.IgnoresName (zone : Zone) (matcher : LabelMatcher) (name : String) : Prop :=
  ∃ pattern ∈ zone.ignoreTargets,
    matcher.covers (withoutFinalDots pattern) (withoutFinalDots name) = true

/-- A full name is in canonical form once it is trimmed and in lower case. -/
theorem Origin.eq_of_target {origin : Origin} {allowNull : Bool} {text form : List Char}
    (full : (Text.lower (trim text)).getLast? = some '.')
    (found : origin.target allowNull text = .ok form) : form = Text.lower (trim text) := by
  have read := targetForm_of_target found
  generalize Text.lower (trim text) = spelled at read full
  cases read with
  | null => rfl
  | sign => exact absurd full (by decide)
  | full => rfl
  | dotted inside undotted => exact absurd full undotted
  | single present other single => exact absurd (List.mem_of_getLast? full) single

namespace Cloudflare

/-! ## Targets of entries -/

/-- The name that the content of an entry spells, in canonical form. -/
def spelledTarget (content : String) : String :=
  String.ofList (Text.lower (trim (dotted content).toList))

theorem exists_dotted (content : String) : ∃ front, (dotted content).toList = front ++ ['.'] := by
  unfold dotted
  split
  · next last => exact List.getLast?_eq_some_iff.1 last
  · exact ⟨content.toList, String.toList_append⟩

theorem getLast?_spelledTarget (content : String) :
    (Text.lower (trim (dotted content).toList)).getLast? = some '.' := by
  obtain ⟨front, whole⟩ := exists_dotted content
  rw [whole, trim_concat (by decide), lower_append_dot, List.getLast?_concat]

/-- Content in lower case and without blanks around it is a target but for the dot at its end. -/
theorem withoutFinalDots_spelledTarget {content : String}
    (lowered : Text.lower content.toList = content.toList)
    (trimmed : trim content.toList = content.toList) :
    withoutFinalDots (spelledTarget content) = withoutFinalDots content := by
  have kept : Text.lower (trim (dotted content).toList) = (dotted content).toList := by
    unfold dotted
    split
    · rw [trimmed, lowered]
    · have whole : (content ++ ".").toList = content.toList ++ ['.'] := String.toList_append
      rw [whole, trim_concat (by decide), dropWhile_of_trim_eq trimmed, lower_append_dot, lowered]
  rw [spelledTarget, kept, String.ofList_toList, withoutFinalDots, withoutFinalDots, dotted]
  split
  · rfl
  · rw [String.toList_append]
    exact congrArg String.ofList (trimEndDots_append_dot content.toList)

variable {entry : Entry} {origin : Origin}

/-- A payload that is only a name points at what its content spells once it is in canonical
form. -/
theorem eq_of_contentPayload_dotted {type : RecordType} {make : String → Payload}
    {payload form : Payload}
    (plain : ∀ content words, Payload.readFields type content words =
      .ok (make (String.ofList content)))
    (step : ∀ name, origin.payload (make name) =
      origin.targetName false name >>= fun form => pure (make form))
    (paid : entry.contentPayload type (dotted entry.content) = .ok payload)
    (canonical : origin.payload payload = .ok form) :
    form = make (spelledTarget entry.content) := by
  rw [Entry.contentPayload, Payload.read, plain] at paid
  obtain rfl := Except.ok.inj paid
  rw [step, bind_eq_ok_iff] at canonical
  obtain ⟨name, named, made⟩ := canonical
  obtain ⟨text, target, rfl⟩ := map_eq_ok_iff.1 named
  rw [String.toList_ofList] at target
  have full := getLast?_spelledTarget entry.content
  rw [← trim_trim] at full
  rw [← pure_eq_ok_iff.1 made, Origin.eq_of_target full target, trim_trim, spelledTarget]

/-- What Cloudflare lists as a CNAME is an alias of the spelled target at the zone itself, and a
CNAME everywhere else. -/
theorem payload_of_cname {zone : String} {stored found : Record}
    (cname : RecordType.read entry.type = .ok .cname) (made : entry.toRecord zone = .ok stored)
    (own : origin.record stored = .ok found) :
    found.payload =
      if labelOf entry.name zone = apexLabel then .aliased (spelledTarget entry.content)
      else .cname (spelledTarget entry.content) := by
  obtain ⟨-, label, form, -, canonical, rfl⟩ := Origin.record_eq_ok_iff.1 own
  simp only [Entry.toRecord, bind_eq_ok_iff, pure_eq_ok_iff] at made
  obtain ⟨type, typed, payload, paid, rfl⟩ := made
  rw [Entry.recordType, cname] at typed
  by_cases apex : labelOf entry.name zone = apexLabel
  · rw [apex] at typed
    obtain rfl : RecordType.aliased = type := Except.ok.inj typed
    have paid : entry.contentPayload .aliased (dotted entry.content) = .ok payload := paid
    rw [if_pos apex]
    exact eq_of_contentPayload_dotted (fun _ _ => rfl) (fun _ => rfl) paid canonical
  · have other : ¬ (RecordType.cname = .cname ∧ labelOf entry.name zone = apexLabel) :=
      fun both => apex both.2
    dsimp only at typed
    rw [if_neg (by decide), if_neg other] at typed
    obtain rfl := Except.ok.inj typed
    have paid : entry.contentPayload .cname (dotted entry.content) = .ok payload := paid
    rw [if_neg apex]
    exact eq_of_contentPayload_dotted (fun _ _ => rfl) (fun _ => rfl) paid canonical

/-- Only below the zone itself is what Cloudflare lists as a CNAME left alone for its target. -/
theorem ignoresTarget_iff {zone : Zone} {matcher : LabelMatcher} {name : String}
    {stored found : Record} (cname : RecordType.read entry.type = .ok .cname)
    (made : entry.toRecord name = .ok stored) (own : origin.record stored = .ok found) :
    zone.IgnoresTarget matcher found ↔
      labelOf entry.name name ≠ apexLabel ∧
        zone.IgnoresName matcher (spelledTarget entry.content) := by
  have payload := payload_of_cname cname made own
  apply Iff.intro
  · rintro ⟨target, points, ignored⟩
    rw [points] at payload
    split at payload
    · cases payload
    · next below =>
      obtain rfl := Payload.cname.inj payload
      exact ⟨below, ignored⟩
  · rintro ⟨below, ignored⟩
    rw [if_neg below] at payload
    exact ⟨_, payload, ignored⟩

/-! ## Plans -/

theorem Connection.adapter_provider {ω : Type} (connection : Connection)
    (network : Http.Message → ω → Http.Reply × ω) :
    (connection.provider network).adapter = connection.client.adapter := rfl

/-- What Cloudflare lists as a CNAME and nobody asks for is deleted if the zone purges, unless its
label is ignored, or its target is and it does not belong to the zone itself. -/
theorem exists_delete_iff_of_cname {σ : Type} {provider : Provider σ} {client : Client}
    {matcher : LabelMatcher} {zone desired : Zone} {services : σ} {observed : List Record}
    {plan : ZonePlan} (decides : provider.adapter = client.adapter)
    (plans : provider.Plans matcher zone services desired observed plan)
    {stored found : Record} (listed : stored ∈ observed)
    (cname : RecordType.read entry.type = .ok .cname) (made : entry.toRecord zone.name = .ok stored)
    (own : (Origin.ofZone zone).record stored = .ok found)
    (unwanted : found.key ∉ desired.records.map Record.key) :
    (∃ correction ∈ plan.corrections, correction.action = .delete found) ↔
      zone.purge = true ∧ ¬ zone.IgnoresLabel matcher found.label ∧
        (labelOf entry.name zone.name = apexLabel ∨
          ¬ zone.IgnoresName matcher (spelledTarget entry.content)) := by
  obtain ⟨existing, compares⟩ := exists_compares decides plans
  have not_apex_ns : ¬ found.IsApexNs := by
    rintro ⟨type, -⟩
    have fits := Origin.fits_of_record own
    rw [payload_of_cname cname made own, type] at fits
    split at fits <;> cases fits
  rw [plans.exists_delete_iff, compares.mem_deleted_iff listed own,
    ignoresTarget_iff cname made own, not_and_or, not_not]
  simp only [not_apex_ns, unwanted, not_false_eq_true, or_true, true_and]

/-- A plan starts from what Cloudflare lists, and every CNAME of it stands for a record that has a
canonical form. -/
theorem exists_found_of_cname {ω : Type} {connection : Connection}
    {network : Http.Message → ω → Http.Reply × ω} {matcher : LabelMatcher} {zone desired : Zone}
    {session : Session ω} {observed : List Record} {plan : ZonePlan}
    (plans : (connection.provider network).Plans matcher zone session desired observed plan) :
    ∃ entries,
      (connection.carry network (connection.client.listEntries zone.name) session).1 =
        .ok entries ∧
      ∀ entry ∈ entries, RecordType.read entry.type = .ok .cname →
        ∃ stored ∈ observed, ∃ found, entry.toRecord zone.name = .ok stored ∧
          (Origin.ofZone zone).record stored = .ok found := by
  obtain ⟨existing, compares⟩ := exists_compares (connection.adapter_provider network) plans
  obtain ⟨entries, listing, stands⟩ := exists_listed_of_fetch plans.fetched
  refine ⟨entries, listing, fun entry member cname => ?_⟩
  have other : entry.type ≠ "SOA" := by
    intro soa
    rw [soa] at cname
    cases (read_name .soa).symm.trans cname
  obtain ⟨stored, listed, made⟩ := stands entry member other
  obtain ⟨found, -, own⟩ := RecordSet.exists_mem_normalize compares.observed_forms listed
  exact ⟨stored, listed, found, made, own⟩

open Surroundings

/-- A plan for a zone on Cloudflare leaves a listed CNAME alone for its ignored target everywhere but
at the zone itself. If nobody asks for the CNAME, the plan deletes it exactly if the zone purges, the
label is not ignored, and the target is not ignored or the CNAME belongs to the zone itself. -/
theorem ignored_targets_below_zone {ω : Type} {providers : Dict (Provider (Session ω))}
    {connection : Connection} {network : Http.Message → ω → Http.Reply × ω}
    {settings : EngineSettings} {matcher : LabelMatcher} {zone : Zone} {plan : ZonePlan}
    {state planned : Surroundings (Session ω)}
    (served : providers.get? zone.provider = some (connection.provider network))
    (ran : Surroundings.run providers
      ((Engine.ofProviders providers settings matcher).plan zone) state = (.ok plan, planned)) :
    ∃ desired entries,
      (connection.client.adapter.prepare matcher zone).2 = .ok desired ∧
      (connection.carry network (connection.client.listEntries zone.name) state.services).1 =
        .ok entries ∧
      ∀ entry ∈ entries, RecordType.read entry.type = .ok .cname →
        ∃ stored found, entry.toRecord zone.name = .ok stored ∧
          (Origin.ofZone zone).record stored = .ok found ∧
          (found.key ∉ desired.records.map Record.key →
            ((∃ correction ∈ plan.corrections, correction.action = .delete found) ↔
              zone.purge = true ∧ ¬ zone.IgnoresLabel matcher found.label ∧
                (labelOf entry.name zone.name = apexLabel ∨
                  ¬ zone.IgnoresName matcher (spelledTarget entry.content)))) ∧
          (Text.lower entry.content.toList = entry.content.toList →
            trim entry.content.toList = entry.content.toList →
              (zone.IgnoresName matcher (spelledTarget entry.content) ↔
                zone.IgnoresName matcher entry.content)) := by
  obtain ⟨provider, desired, observed, served', plans⟩ := exists_of_plan ran
  obtain rfl := Option.some.inj (served.symm.trans served')
  obtain ⟨entries, listing, stands⟩ := exists_found_of_cname plans
  refine ⟨desired, entries, plans.prepared, listing, fun entry member cname => ?_⟩
  obtain ⟨stored, listed, found, made, own⟩ := stands entry member cname
  refine ⟨stored, found, made, own, ?_, fun lowered trimmed => ?_⟩
  · exact exists_delete_iff_of_cname (connection.adapter_provider network) plans listed cname made
      own
  · rw [Zone.IgnoresName, withoutFinalDots_spelledTarget lowered trimmed, Zone.IgnoresName]

/-! ## A zone with an ignored target -/

/-- A CNAME of a name in the zone. -/
def hostedCname (name : String) : Entry where
  type := "CNAME"
  name
  content := "x.host.net"

/-- The CNAME of the zone itself and one below it. -/
def twoCnames : List Entry :=
  [hostedCname "a.org", hostedCname "www.a.org"]

/-- A service that has one zone, with these two CNAMEs. -/
def twoCnamesService (message : Http.Message) (state : Unit) : Http.Reply × Unit :=
  if message.path = "/zones" then
    (.response 200
      "\x7b\"success\":true,\"result\":[\x7b\"id\":\"z\",\"name\":\"a.org\"\x7d]\x7d", state)
  else
    (.response 200
      ("\x7b\"success\":true,\"result\":[" ++
        "\x7b\"type\":\"CNAME\",\"name\":\"a.org\",\"content\":\"x.host.net\"\x7d," ++
        "\x7b\"type\":\"CNAME\",\"name\":\"www.a.org\",\"content\":\"x.host.net\"\x7d]\x7d"), state)

/-- A zone that asks for nothing and ignores that target. -/
def ignoringZone : Zone :=
  { name := "a.org", provider := "cloudflare", ignoreTargets := ["**.host.net"] }

/-- A connection that has not asked for anything yet. -/
def freshConnection : Connection :=
  ⟨{}, .ofAddress "http://h" "t"⟩

/-- Cloudflare as it serves the two CNAMEs. -/
def twoCnamesProviders : Dict (Provider (Session Unit)) :=
  .ofList [("cloudflare", freshConnection.provider twoCnamesService)]

/-- What planning the zone gives. -/
def ignoringRun : Except Error ZonePlan × Surroundings (Session Unit) :=
  Surroundings.run twoCnamesProviders
    ((Engine.ofProviders twoCnamesProviders {} .glob).plan ignoringZone)
    ⟨⟨(), Dict.empty⟩, .ofCapacity 8, []⟩

theorem plan_of_ignoringZone : ∃ plan, ignoringRun = (.ok plan, ignoringRun.2) := by
  obtain ⟨plan, result, -⟩ := exists_eq_ok_of_map
    (show ignoringRun.1.toOption.map (fun plan => plan.corrections.length) = some 1
      by decide +kernel)
  have whole : (ignoringRun.1, ignoringRun.2) = ignoringRun := Prod.eta _
  exact ⟨plan, whole.symm.trans (congrArg (·, ignoringRun.2) result)⟩

/-- Nobody asks for a record of the zone. -/
theorem nothing_desired {desired : Zone}
    (prepared : (freshConnection.client.adapter.prepare .glob ignoringZone).2 = .ok desired) :
    desired.records = [] := by
  obtain ⟨zone, found, records⟩ := exists_eq_ok_of_map
    (show (freshConnection.client.adapter.prepare .glob ignoringZone).2.toOption.map
      (·.records.map Record.key) = some [] by decide)
  obtain rfl := Except.ok.inj (found.symm.trans prepared)
  exact List.map_eq_nil_iff.1 records

/-- The two CNAMEs are what the service lists. -/
theorem listing_of_twoCnames :
    (freshConnection.carry twoCnamesService
      (freshConnection.client.listEntries ignoringZone.name) ⟨(), Dict.empty⟩).1 =
      .ok twoCnames := by
  obtain ⟨entries, listing, rfl⟩ := exists_eq_ok_of_map
    (show (freshConnection.carry twoCnamesService
      (freshConnection.client.listEntries ignoringZone.name) ⟨(), Dict.empty⟩).1.toOption.map id =
        some twoCnames by decide +kernel)
  exact listing

theorem not_ignoresLabel_ignoringZone (label : String) :
    ¬ ignoringZone.IgnoresLabel .glob label :=
  fun ⟨_, listed, _⟩ => List.not_mem_nil listed

theorem ignoresName_ignoringZone {name : String}
    (ending : LabelMatcher.glob.covers "**.host.net" (withoutFinalDots name) = true) :
    ignoringZone.IgnoresName .glob name :=
  ⟨"**.host.net", List.mem_singleton_self _, ending⟩

/-- The CNAME below the zone is left alone, and that of the zone itself is deleted. -/
theorem ignored_targets_below_zone_of_twoCnames :
    ∃ plan, ignoringRun = (.ok plan, ignoringRun.2) ∧
      ∀ entry ∈ twoCnames, ∃ stored found,
        entry.toRecord ignoringZone.name = .ok stored ∧
          (Origin.ofZone ignoringZone).record stored = .ok found ∧
          ((∃ correction ∈ plan.corrections, correction.action = .delete found) ↔
            entry.name = "a.org") := by
  obtain ⟨plan, ran⟩ := plan_of_ignoringZone
  have served : twoCnamesProviders.get? ignoringZone.provider =
      some (freshConnection.provider twoCnamesService) := rfl
  obtain ⟨desired, entries, prepared, listing, each⟩ := ignored_targets_below_zone served ran
  obtain rfl := Except.ok.inj (listing_of_twoCnames.symm.trans listing)
  refine ⟨plan, ran, fun entry member => ?_⟩
  have known : RecordType.read entry.type = .ok .cname ∧
      (labelOf entry.name ignoringZone.name = apexLabel ↔ entry.name = "a.org") ∧
      LabelMatcher.glob.covers "**.host.net"
        (withoutFinalDots (spelledTarget entry.content)) = true := by
    revert entry
    decide
  obtain ⟨cname, apex_iff, covered⟩ := known
  obtain ⟨stored, found, made, own, deleted_iff, -⟩ := each entry member cname
  refine ⟨stored, found, made, own, ?_⟩
  rw [deleted_iff (by rw [nothing_desired prepared]; exact List.not_mem_nil), ← apex_iff]
  have purges : ignoringZone.purge = true := rfl
  simp [purges, not_ignoresLabel_ignoringZone, ignoresName_ignoringZone covered]

/-- CNAMEs with ignored targets are not left alone at every label. -/
theorem ignored_targets_not_at_every_label :
    ¬ ∀ (providers : Dict (Provider (Session Unit))) (connection : Connection)
        (network : Http.Message → Unit → Http.Reply × Unit) (zone desired : Zone)
        (plan : ZonePlan) (state planned : Surroundings (Session Unit)) (entries : List Entry),
      providers.get? zone.provider = some (connection.provider network) →
        Surroundings.run providers ((Engine.ofProviders providers {} .glob).plan zone) state =
          (.ok plan, planned) →
        (connection.client.adapter.prepare .glob zone).2 = .ok desired →
        (connection.carry network (connection.client.listEntries zone.name) state.services).1 =
          .ok entries →
        ∀ entry ∈ entries, RecordType.read entry.type = .ok .cname →
          zone.IgnoresName .glob entry.content →
            ∀ stored found, entry.toRecord zone.name = .ok stored →
              (Origin.ofZone zone).record stored = .ok found →
                found.key ∉ desired.records.map Record.key →
                  ∀ correction ∈ plan.corrections, correction.action ≠ .delete found := by
  intro claimed
  obtain ⟨plan, ran⟩ := plan_of_ignoringZone
  obtain ⟨provider, desired, observed, served, plans⟩ := exists_of_plan ran
  obtain rfl : freshConnection.provider twoCnamesService = provider := Option.some.inj served
  obtain ⟨entries, listing, stands⟩ := exists_found_of_cname plans
  obtain rfl := Except.ok.inj (listing_of_twoCnames.symm.trans listing)
  have first : hostedCname "a.org" ∈ twoCnames := List.mem_cons_self
  have cname : RecordType.read (hostedCname "a.org").type = .ok .cname := read_name .cname
  obtain ⟨stored, listed, found, made, own⟩ := stands _ first cname
  have unwanted : found.key ∉ desired.records.map Record.key := by
    rw [nothing_desired plans.prepared]
    exact List.not_mem_nil
  have apex : labelOf (hostedCname "a.org").name ignoringZone.name = apexLabel := by
    decide
  obtain ⟨correction, member, action⟩ :=
    (exists_delete_iff_of_cname (freshConnection.adapter_provider _) plans listed cname made own
      unwanted).2 ⟨rfl, not_ignoresLabel_ignoringZone _, Or.inl apex⟩
  exact claimed _ freshConnection twoCnamesService ignoringZone desired plan _ _ twoCnames served
    ran plans.prepared listing _ first cname (ignoresName_ignoringZone (by decide)) stored
    found made own unwanted correction member action

end Cloudflare

end DnsReconcile
