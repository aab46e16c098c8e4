/-
# Written records are in sync

A record that Cloudflare is sent and that it serves again just as it was sent is, in canonical
form, the record that is desired: nothing is left to change. For TXT records this is what the
audit is about, which refuses just those whose strings would not come back.
-/

import DnsReconcile.Cloudflare.Provider
import DnsReconcile.Proofs.Changeset.Resumption
import DnsReconcile.Proofs.Cloudflare.EntryRecords
import DnsReconcile.Proofs.Cloudflare.EntryText

namespace DnsReconcile.Cloudflare

/-- What a record is observed as, in canonical form, when its entry is served as it was sent. -/
def readBack? (zone : String) (ttl : UInt32) (record : Record) : Option Record := do
  let written ← (Entry.ofRecord zone record (wantsProxy record)).toOption
  let found ← (Entry.ofText written.toJson.print).toOption
  let observed ← (found.toRecord zone).toOption
  ((Origin.ofName zone ttl).record observed).toOption

theorem readBack?_eq_some_iff {zone : String} {ttl : UInt32} {record form : Record} :
    readBack? zone ttl record = some form ↔
      ∃ written, Entry.ofRecord zone record (wantsProxy record) = .ok written ∧
        ∃ found, Entry.ofText written.toJson.print = .ok found ∧
          ∃ observed, found.toRecord zone = .ok observed ∧
            (Origin.ofName zone ttl).record observed = .ok form := by
  have toOption {ε α : Type} {result : Except ε α} {value : α} :
      result.toOption = some value ↔ result = .ok value := by
    cases result <;> simp [Except.toOption]
  simp only [readBack?, Option.bind_eq_bind, Option.bind_eq_some_iff, toOption]

/-- An observed record agrees with a desired one in all that counts. Whatever else there is,
comparing records leaves the two as they are, and by themselves the two are accepted wherever
the zone does not ignore the desired one. -/
structure InSync (client : Client) (observed desired : Record) : Prop where
  label : observed.label = desired.label
  type : observed.type = desired.type
  payload : observed.payload = desired.payload
  ttl : observed.ttl = desired.ttl
  comparable : client.adapter.comparable observed = client.adapter.comparable desired
  unchanged : ∀ (comparison : Comparison) (wanted existing : List Record) (changes : Changeset),
    comparison.comparable = client.adapter.comparable → desired ∈ wanted → observed ∈ existing →
      comparison.changes wanted existing = .ok changes →
        ⟨observed, desired, comparison.loneMessage "UNCHANGED" desired⟩ ∈ changes.unchanged
  alone : ∀ comparison : Comparison, comparison.comparable = client.adapter.comparable →
    comparison.zone.checkIgnored comparison.matcher [desired] = .ok () →
      comparison.changes [desired] [observed] =
        .ok { unchanged := [⟨observed, desired, comparison.loneMessage "UNCHANGED" desired⟩] }

variable {zone : String} {ttl : UInt32} {client : Client} {record form : Record}
variable {written : Entry} {payload settled : Payload}

theorem comparable_congr (type : form.type = record.type)
    (proxy : wantsProxy form = wantsProxy record) :
    client.adapter.comparable form = client.adapter.comparable record := by
  show Client.comparable form = Client.comparable record
  rw [Client.comparable, Client.comparable, type, proxy]

theorem inSync_of_agree (fits : record.payload.fits record.type = true)
    (label : form.label = record.label) (type : form.type = record.type)
    (payload : form.payload = record.payload) (ttl : form.ttl = record.ttl)
    (proxy : wantsProxy form = wantsProxy record) : InSync client form record := by
  have key : form.key = record.key := by
    rw [Record.key, Record.key, label, type, payload]
  have comparable : client.adapter.comparable form = client.adapter.comparable record :=
    comparable_congr type proxy
  have takes_part {comparison : Comparison} {wanted existing : List Record}
      (wants : record ∈ wanted) (finds : form ∈ existing) :
      form ∈ comparison.participating wanted existing := by
    refine List.mem_filter.2 ⟨finds, ?_⟩
    rw [Comparison.participates_congr key]
    exact Comparison.participates_of_desired wants
  have agree {comparison : Comparison}
      (own : comparison.comparable = client.adapter.comparable) :
      comparison.differs form record = false := by
    rw [Comparison.differs, own, ttl, payload, comparable]
    simp
  exact {
    label, type, payload, ttl, comparable
    unchanged := fun comparison wanted existing changes own wants finds compared =>
      (Comparison.mem_unchanged_iff compared).2
        ⟨⟨takes_part wants finds, wants, key⟩, agree own, rfl⟩
    alone := fun comparison own permitted =>
      Comparison.changes_pair key permitted (by rw [payload, type, fits]) fits
        (takes_part List.mem_cons_self List.mem_cons_self) (agree own) }

/-- A record comes back with the canonical form of the payload that its entry has. -/
theorem exists_readBack? (relative : zone.toList.getLast? ≠ some '.') (positive : ttl ≠ 0)
    (canonical : (Origin.ofName zone ttl).record record = .ok record)
    (dns : record.type.isPseudo = false)
    (aliased : record.type = .aliased → record.isApex = true)
    (cname : record.type = .cname → record.isApex = false)
    (given : Entry.ofRecord zone record (wantsProxy record) = .ok written)
    (paid : written.payload record.type = .ok payload) (fits : payload.fits record.type = true)
    (form_of : (Origin.ofName zone ttl).payload payload = .ok settled) :
    ∃ form, readBack? zone ttl record = some form ∧ form.label = record.label ∧
      form.type = record.type ∧ form.payload = settled ∧ form.ttl = record.ttl ∧
      wantsProxy form = wantsProxy record := by
  obtain ⟨labelled, -, ttl_given⟩ :=
    Origin.of_record_self (Origin.sound_ofName zone positive) canonical
  obtain ⟨observed, found, label, type, own, time, proxy⟩ :=
    Entry.exists_toRecord_of_ofRecord relative (Origin.fits_of_record canonical) dns labelled
      aliased cname given paid
  have served : Entry.ofText written.toJson.print = .ok written := by
    have plain : written.proxiable = false :=
      (Entry.frame_of_withPayload? (Entry.ofRecord_eq_ok_iff.1 given)).2.2.2
    rw [Entry.ofText_print, ← plain]
  have form : (Origin.ofName zone ttl).record observed =
      .ok { observed with payload := settled } := by
    refine Origin.record_eq_ok_iff.2 ⟨by rw [own, type, fits], _, settled, label ▸ labelled,
      own ▸ form_of, ?_⟩
    rw [time, if_neg ttl_given, String.ofList_toList, ← time]
  exact ⟨{ observed with payload := settled },
    readBack?_eq_some_iff.2 ⟨written, given, written, served, observed, found, form⟩,
    label, type, rfl, time, proxy⟩

theorem audit_singleton_iff :
    client.adapter.audit [record] = .ok () ↔ client.auditRecord record = .ok () := by
  show List.forM _ _ = _ ↔ _
  rw [forM_eq_ok_iff]
  exact List.forall_mem_singleton

theorem supports_of_audit (accepted : client.adapter.audit [record] = .ok ()) :
    client.supports record.type = true := by
  rw [audit_singleton_iff, Client.auditRecord] at accepted
  by_contra other
  rw [Bool.not_eq_true] at other
  rw [other, Bool.not_false, if_pos rfl] at accepted
  cases accepted

/-- TXT records are refused for their strings only. -/
theorem audit_txt_iff {strings : List String} (type : record.type = .txt)
    (texts : record.payload = .txt strings) :
    client.adapter.audit [record] = .ok () ↔
      strings = (Text.chunks (String.join strings).toList).map String.ofList := by
  have supported : ¬ (!client.supports record.type) = true := by
    rw [type]
    exact Bool.false_ne_true
  rw [audit_singleton_iff, Client.auditRecord, if_neg supported, texts]
  dsimp only
  rw [← beq_iff_eq (b := (Text.chunks (String.join strings).toList).map String.ofList),
    ← Client.isChunked]
  split
  · next chunked => exact iff_of_true rfl chunked
  · next other => exact iff_of_false nofun other

theorem exists_strings (type : record.type = .txt)
    (fits : record.payload.fits record.type = true) :
    ∃ strings, record.payload = .txt strings := by
  have own := Entry.type_of_fits fits (by rw [type]; rfl)
  rw [type] at own
  cases kind : record.payload with
  | txt strings => exact ⟨strings, rfl⟩
  | _ =>
      rw [kind] at own
      cases own

/-- What the strings of a TXT record make together is cut into pieces. -/
theorem payload_join (origin : Origin) (strings : List String) :
    origin.payload (.txt [String.join strings]) =
      .ok (.txt ((Text.chunks (String.join strings).toList).map String.ofList)) := by
  rw [← Origin.strings_singleton]
  rfl

/-- A TXT record comes back with the pieces that its strings make together, and it is refused
if these are others than its strings. -/
theorem exists_readBack?_txt (relative : zone.toList.getLast? ≠ some '.') (positive : ttl ≠ 0)
    (canonical : (Origin.ofName zone ttl).record record = .ok record) (type : record.type = .txt) :
    ∃ form, readBack? zone ttl record = some form ∧ form.label = record.label ∧
      form.type = record.type ∧ form.ttl = record.ttl ∧ wantsProxy form = wantsProxy record ∧
      (client.adapter.audit [record] = .ok () ↔ form.payload = record.payload) := by
  obtain ⟨strings, texts⟩ := exists_strings type (Origin.fits_of_record canonical)
  have made : (Entry.ofHeader zone record (wantsProxy record)).withPayload? record.payload =
      some { Entry.ofHeader zone record (wantsProxy record) with
        content := String.join strings } := by
    rw [texts]
    rfl
  obtain ⟨form, back, label, kind, payload, time, proxy⟩ := exists_readBack? relative positive
    canonical (by rw [type]; rfl) (by simp [type]) (by simp [type])
    (Entry.ofRecord_eq_ok_iff.2 made)
    (by rw [type]; exact Entry.payload_of_withPayload?_txt (texts ▸ made)) (by rw [type]; rfl)
    (payload_join _ strings)
  refine ⟨form, back, label, kind, time, proxy, ?_⟩
  rw [audit_txt_iff type texts, payload, texts, Payload.txt.injEq, eq_comm]

/-- Any other record that passes the audit comes back as it was. -/
theorem exists_readBack?_inSync (relative : zone.toList.getLast? ≠ some '.') (positive : ttl ≠ 0)
    (canonical : (Origin.ofName zone ttl).record record = .ok record)
    (dns : record.type.isPseudo = false) (accepted : client.adapter.audit [record] = .ok ())
    (aliased : record.type = .aliased → record.isApex = true)
    (cname : record.type = .cname → record.isApex = false)
    (one : ∀ name, record.payload.target? = some name → name = "." ∨ EndsInOneDot name)
    (single : record.type ≠ .txt) :
    ∃ form, readBack? zone ttl record = some form ∧ InSync client form record := by
  have sound := Origin.sound_ofName zone positive
  have fits := Origin.fits_of_record canonical
  have same := Entry.type_of_fits fits dns
  obtain ⟨-, settled, -⟩ := Origin.of_record_self sound canonical
  have soa : record.payload.type ≠ .soa := by
    intro soa
    have served := supports_of_audit accepted
    rw [same, soa] at served
    cases served
  obtain ⟨written, made⟩ := Entry.exists_withPayload?
    (Entry.ofHeader zone record (wantsProxy record)) soa (same ▸ dns)
  have paid := Entry.payload_of_withPayload? sound made settled
    (fun name points => (one name points).elim (· ▸ endsInOneDot_dot) id) (same ▸ single)
  obtain ⟨form, back, label, type, payload, time, proxy⟩ := exists_readBack? relative positive
    canonical dns aliased cname (Entry.ofRecord_eq_ok_iff.2 made) (same ▸ paid) fits settled
  exact ⟨form, back, inSync_of_agree fits label type payload time proxy⟩

/-- A canonical record that passes the audit comes back as it was written, so that nothing is
left to change. The audit refuses just those TXT records that would come back with other
strings. -/
theorem written_records_in_sync (relative : zone.toList.getLast? ≠ some '.') (positive : ttl ≠ 0)
    (canonical : (Origin.ofName zone ttl).record record = .ok record) :
    (record.type.isPseudo = false → client.adapter.audit [record] = .ok () →
      (record.type = .aliased → record.isApex = true) →
      (record.type = .cname → record.isApex = false) →
      (∀ name, record.payload.target? = some name → name = "." ∨ EndsInOneDot name) →
        ∃ form, readBack? zone ttl record = some form ∧ InSync client form record) ∧
      (record.type = .txt →
        ∃ form, readBack? zone ttl record = some form ∧
          ((∃ error, client.adapter.audit [record] = .error error) ↔
            form.payload ≠ record.payload)) := by
  refine ⟨fun dns accepted aliased cname one => ?_, fun type => ?_⟩
  · by_cases type : record.type = .txt
    · obtain ⟨form, back, label, kind, time, proxy, restored⟩ :=
        exists_readBack?_txt relative positive canonical type
      exact ⟨form, back, inSync_of_agree (Origin.fits_of_record canonical) label kind
        (restored.1 accepted) time proxy⟩
    · exact exists_readBack?_inSync relative positive canonical dns accepted aliased cname one type
  · obtain ⟨form, back, -, -, -, -, restored⟩ :=
      exists_readBack?_txt relative positive canonical type
    refine ⟨form, back, ?_⟩
    rw [Ne, ← restored]
    cases client.adapter.audit [record] <;> simp

/-- An alias of the zone itself that is proxied comes back as it was. A text in two strings
comes back in one, and is refused. -/
theorem written_records_in_sync_of_alias :
    let proxied : Record := {
      label := "@", type := .aliased, payload := .aliased "host.example.net.", ttl := 60
      metadata := Dict.empty.insert proxyKey "on" }
    let halves : Record := { label := "www", type := .txt, payload := .txt ["a", "b"], ttl := 60 }
    (∃ form, readBack? "example.com" 300 proxied = some form ∧ InSync {} form proxied) ∧
      ∃ form, readBack? "example.com" 300 halves = some form ∧ form.payload ≠ halves.payload := by
  intro proxied halves
  have relative : "example.com".toList.getLast? ≠ some '.' := by decide
  have canonical : (Origin.ofName "example.com" 300).record proxied = .ok proxied :=
    Origin.record_eq_ok_iff.2 ⟨rfl, ['@'], .aliased "host.example.net.", by decide +kernel,
      by decide +kernel, rfl⟩
  have canonical' : (Origin.ofName "example.com" 300).record halves = .ok halves :=
    Origin.record_eq_ok_iff.2 ⟨rfl, ['w', 'w', 'w'], .txt ["a", "b"], by decide +kernel,
      by decide +kernel, rfl⟩
  have one : EndsInOneDot "host.example.net." := ⟨"host.example.net".toList, by decide, by decide⟩
  obtain ⟨form, back, refused⟩ : ∃ form, readBack? "example.com" 300 halves = some form ∧
      ((∃ error, ({} : Client).adapter.audit [halves] = .error error) ↔
        form.payload ≠ halves.payload) :=
    (written_records_in_sync relative (by decide) canonical').2 rfl
  refine ⟨(written_records_in_sync relative (by decide) canonical).1 rfl rfl (fun _ => rfl)
    nofun fun name points => ?_, form, back, refused.1 ⟨_, rfl⟩⟩
  exact Or.inr (Option.some.inj points ▸ one)

end DnsReconcile.Cloudflare
