/-
# Writes that can be encoded

A plan for a zone on Cloudflare asks for no record that Cloudflare cannot be sent. What the encoder
asks for is brought about at four stages: rules and routes are read when the zone is adapted, where
redirects become rules that can be read as well; the canonical form of a record has a payload of
its type, and that of a rule or route is left as it was; and the audit refuses types that are not
kept. So carrying out a correction never stops at its content, after others have been sent.
-/

import DnsReconcile.Proofs.Cloudflare.AdaptedRecords
import DnsReconcile.Proofs.Cloudflare.WrittenRecords
import DnsReconcile.Proofs.Engine.PlannedCorrections

namespace DnsReconcile.Cloudflare

variable {client : Client} {matcher : LabelMatcher} {zone desired : Zone} {record form : Record}
variable {observed existing : List Record} {changes : Changeset}

/-! ## Records -/

/-- What it takes for a record to be sent to Cloudflare. -/
structure IsWritable (record : Record) : Prop where
  fits : record.payload.fits record.type = true
  kept : record.type ≠ .soa
  resolved : isRedirect record.type = false
  pageRule : record.type = .pageRule →
    ∃ forwarding, Forwarding.read record.payload.print = .ok forwarding
  workerRoute : record.type = .workerRoute →
    ∃ route, WorkerRoute.read record.payload.print = .ok route

theorem recordBody_of_dns {name : String} {proxied : Bool}
    (dns : record.type.isPseudo = false) :
    recordBody name record proxied = (Entry.ofRecord name record proxied).map (·.toJson) := by
  unfold recordBody
  split
  · next type =>
    rw [type] at dns
    cases dns
  · next type =>
    rw [type] at dns
    cases dns
  · rfl

/-- A pseudo-type is that of a redirect, a rule or a route. -/
theorem isPseudo_cases {type : RecordType} (pseudo : type.isPseudo = true) :
    isRedirect type = true ∨ type = .pageRule ∨ type = .workerRoute := by
  cases type <;> first | exact Or.inl rfl | exact Or.inr (Or.inl rfl) | exact Or.inr (Or.inr rfl) |
    cases pseudo

theorem IsWritable.exists_recordBody (writable : IsWritable record) (name : String)
    (proxied : Bool) : ∃ body, recordBody name record proxied = .ok body := by
  by_cases dns : record.type.isPseudo = false
  · have same := Entry.type_of_fits writable.fits dns
    obtain ⟨written, made⟩ := Entry.exists_withPayload? (Entry.ofHeader name record proxied)
      (same ▸ writable.kept) (same ▸ dns)
    rw [recordBody_of_dns dns, Entry.ofRecord_eq_ok_iff.2 made]
    exact ⟨_, rfl⟩
  · rcases isPseudo_cases (Bool.not_eq_false _ ▸ dns) with redirect | rule | route
    · rw [writable.resolved] at redirect
      cases redirect
    · obtain ⟨forwarding, read⟩ := writable.pageRule rule
      simp only [recordBody, rule, read]
      exact ⟨_, rfl⟩
    · obtain ⟨script, read⟩ := writable.workerRoute route
      simp only [recordBody, route, read]
      exact ⟨_, rfl⟩

/-- The payload of a rule or a route has no other form. -/
theorem payload_of_record_of_isPseudo {origin : Origin}
    (found : origin.record record = .ok form) (pseudo : record.type.isPseudo = true) :
    form.payload = record.payload := by
  obtain ⟨fits, label, payload, -, paid, rfl⟩ := Origin.record_eq_ok_iff.1 found
  cases kind : record.payload with
  | encoded text =>
      rw [kind] at paid
      exact (Origin.payload_encoded_eq_ok_iff.1 paid).2.symm
  | _ =>
      rw [kind] at fits
      rw [beq_iff_eq.1 fits] at pseudo
      cases pseudo

/-- The records of a zone that has been adapted, brought into canonical form and accepted. -/
theorem isWritable_of_desired
    (compares : Compares client matcher zone desired observed existing changes)
    (audited : client.adapter.audit desired.records = .ok ()) (member : form ∈ desired.records) :
    IsWritable form := by
  obtain ⟨proxyDefault, records, adapted, forms⟩ := compares.adapted
  obtain ⟨placed, listed, found⟩ := (RecordSet.mem_normalize_iff forms).1 member
  have type := Origin.type_of_record found
  have supported : client.supports form.type = true :=
    supports_of_audit (audit_singleton_iff.2 ((forM_eq_ok_iff.1 audited) form member))
  obtain ⟨resolved, managed⟩ :
      isRedirect placed.type = false ∧ IsManaged client.options placed := by
    -- The payloads of authored rules were read; those of synthesized ones were made to be read.
    rcases source_of_mem_adaptRecords adapted listed with
      ⟨other, record, -, own⟩ | ⟨managed, rule⟩
    · exact ⟨other, isManaged_of_adaptRecord own⟩
    · have sound := rule.isAdapted managed
      exact ⟨sound.resolved, sound.managed⟩
  refine ⟨Origin.fits_of_record found, ?_, type ▸ resolved, ?_, ?_⟩
  · intro soa
    rw [soa] at supported
    cases supported
  · intro rule
    rw [type] at rule
    rw [payload_of_record_of_isPseudo found (rule ▸ rfl)]
    exact (managed.pageRule rule).2
  · intro route
    rw [type] at route
    rw [payload_of_record_of_isPseudo found (route ▸ rfl)]
    exact (managed.workerRoute route).2

/-! ## Plans -/

/-- Carrying out an action comes to one request, with a body that can be made: it may stop at the
lookup of the zone, at a missing identifier of the record that is replaced, or at the reply, but
not at the content of what is written. -/
def Client.Encodes (client : Client) (zone : String) : Action → Prop
  | .create record => ∃ body, recordBody zone record (wantsProxy record) = .ok body ∧
      client.write zone (.create record) = do
        let zoneId ← client.zoneId zone
        client.send {
          method := .post, path := collectionPath zoneId record.type, body := some body }
  | .modify existing desired => ∃ body,
      recordBody zone desired (mayProxy existing && wantsProxy desired) = .ok body ∧
      client.write zone (.modify existing desired) = do
        let zoneId ← client.zoneId zone
        let id ← ClientM.ofExcept (recordId existing)
        client.send {
          method := .put, path := recordPath zoneId desired.type id, body := some body }
  | .delete _ | .toggle .. => True

theorem ClientM.ofExcept_ok_bind {α β : Type} (value : α) (next : α → ClientM β) :
    (ClientM.ofExcept (.ok value) >>= next) = next value :=
  pure_bind value next

theorem Client.encodes_create (client : Client) (name : String) (writable : IsWritable record) :
    client.Encodes name (.create record) := by
  obtain ⟨body, encoded⟩ := writable.exists_recordBody name (wantsProxy record)
  refine ⟨body, encoded, ?_⟩
  simp only [Client.write, Client.create, encoded, ClientM.ofExcept_ok_bind]

theorem Client.encodes_modify (client : Client) (name : String) (existing : Record)
    (writable : IsWritable record) : client.Encodes name (.modify existing record) := by
  obtain ⟨body, encoded⟩ :=
    writable.exists_recordBody name (mayProxy existing && wantsProxy record)
  refine ⟨body, encoded, ?_⟩
  simp only [Client.write, Client.update, encoded, ClientM.ofExcept_ok_bind]

open Surroundings

/-- Whatever a zone asks for and whatever Cloudflare lists: each record that a plan creates or
writes in place of another has a body, and carrying that out sends it. -/
theorem planned_writes_encoded {σ : Type} {providers : Dict (Provider σ)} {provider : Provider σ}
    {client : Client} {settings : EngineSettings} {matcher : LabelMatcher} {zone : Zone}
    {plan : ZonePlan} {state planned : Surroundings σ}
    (served : providers.get? zone.provider = some provider)
    (decides : provider.adapter = client.adapter)
    (ran : Surroundings.run providers
      ((Engine.ofProviders providers settings matcher).plan zone) state = (.ok plan, planned)) :
    ∀ correction ∈ plan.corrections, client.Encodes zone.name correction.action := by
  obtain ⟨provider', desired, observed, served', plans⟩ := exists_of_plan ran
  obtain rfl := Option.some.inj (served.symm.trans served')
  obtain ⟨existing, compares⟩ := exists_compares decides plans
  have audited : client.adapter.audit desired.records = .ok () := by
    have prepared := plans.prepared
    rw [decides, Adapter.prepare_snd, bind_eq_ok_iff] at prepared
    obtain ⟨adapted, -, checked⟩ := prepared
    obtain ⟨forms, -, -, accepted, rfl⟩ := Adapter.check_eq_ok_iff.1 checked
    exact accepted
  have writable {record : Record} (wanted : record ∈ desired.records) : IsWritable record :=
    isWritable_of_desired compares audited wanted
  intro correction member
  rw [plans.corrections] at member
  cases List.mem_append.1 member with
  | inl change =>
      rcases Correction.mem_sequence_iff.1 change with
        ⟨change, -, rfl⟩ | ⟨change, asked, rfl⟩ | ⟨pair, asked, rfl⟩
      · trivial
      · exact client.encodes_create zone.name
          (writable ((Comparison.mem_create_iff compares.compared).1 asked).1.1)
      · exact client.encodes_modify zone.name pair.existing
          (writable ((Comparison.mem_modify_iff compares.compared).1 asked).1.2.1)
  | inr toggle =>
      obtain ⟨feature, enabled, switches⟩ := Correction.exists_toggle_of_mem_ofFeatures toggle
      rw [switches]
      trivial

/-! ## A zone with a redirect -/

/-- A service that has one zone, with one address and no rules. -/
def addressService (message : Http.Message) (state : Unit) : Http.Reply × Unit :=
  let items :=
    if message.path = "/client/v4/zones" then "\x7b\"id\":\"z\",\"name\":\"example.com\"\x7d"
    else if message.path = "/client/v4/zones/z/dns_records" then
      "\x7b\"id\":\"a\",\"type\":\"A\",\"name\":\"www.example.com\"," ++
        "\"content\":\"192.0.2.1\",\"ttl\":1\x7d"
    else ""
  (.response 200 ("\x7b\"success\":true,\"result\":[" ++ items ++ "]\x7d"), state)

/-- Cloudflare as it serves that zone, where redirects are managed. -/
def addressProvider : Provider (Session Unit) :=
  Connection.provider
    ⟨{ options := { manageRedirects := true } }, .ofAddress address "token"⟩ addressService

/-- The zone with a redirect, and with another TTL for the address. -/
def redirectedZone : Zone :=
  { name := "example.com", provider := "cloudflare"
    records := [
      .pseudo "@" .redirect "example.com/*, https://www.example.com/$1",
      { Record.ofPayload "www" (.a ⟨192, 0, 2, 1⟩) with ttl := 600 }] }

/-- What planning the zone gives. -/
def redirectedRun : Except Error ZonePlan × Surroundings (Session Unit) :=
  let providers : Dict (Provider (Session Unit)) := .ofList [("cloudflare", addressProvider)]
  Surroundings.run providers ((Engine.ofProviders providers {} .glob).plan redirectedZone)
    ⟨⟨(), Dict.empty⟩, .ofCapacity 8, []⟩

/-- The redirect is created as a rule, and the address is written in place of the listed one. -/
theorem planned_writes_encoded_of_redirect :
    ∃ plan, redirectedRun = (.ok plan, redirectedRun.2) ∧
      plan.corrections.map (fun correction => correction.record?.map Record.payload) =
        [some (.encoded "example.com/*,https://www.example.com/$1,1,301"),
          some (.a ⟨192, 0, 2, 1⟩)] ∧
      ∀ correction ∈ plan.corrections,
        Client.Encodes { options := { manageRedirects := true } } "example.com"
          correction.action := by
  obtain ⟨plan, result, payloads⟩ := exists_eq_ok_of_map
    (show redirectedRun.1.toOption.map
        (·.corrections.map fun correction => correction.record?.map Record.payload) =
      some [some (.encoded "example.com/*,https://www.example.com/$1,1,301"),
        some (.a ⟨192, 0, 2, 1⟩)] by decide +kernel)
  have whole : (redirectedRun.1, redirectedRun.2) = redirectedRun := Prod.eta _
  have ran : redirectedRun = (.ok plan, redirectedRun.2) :=
    whole.symm.trans (congrArg (·, redirectedRun.2) result)
  have served : Dict.get? (.ofList [("cloudflare", addressProvider)]) redirectedZone.provider =
      some addressProvider := rfl
  have decides : addressProvider.adapter =
      Client.adapter { options := { manageRedirects := true } } := rfl
  exact ⟨plan, ran, payloads, planned_writes_encoded served decides ran⟩

end DnsReconcile.Cloudflare
