/-
# Updated records

An update sends the desired record, but it asks for a proxy only if Cloudflare has said that the
record can have one. Comparing records does not ask that. So after an update the two are in sync
if nobody wants a proxy that Cloudflare does not provide, and otherwise they never are: the update
is planned again, and it is the same as before. Besides that, the label and the type have to be
such that they are read back, as they are but for a few odd spellings.
-/

import DnsReconcile.Proofs.Cloudflare.ApexLabels
import DnsReconcile.Proofs.Cloudflare.EncodedWrites
import DnsReconcile.Proofs.Zone.CanonicalLists

namespace DnsReconcile.Cloudflare

open Text

variable {client : Client} {zone : Zone} {record form observed : Record} {entry written : Entry}
variable {origin : Origin} {proxied : Bool}

/-! ## What is read back -/

/-- Of a zone that has a name, every label is cut out of the full name again. -/
theorem labelOf_fqdn_of_named {name : String} (relative : name.toList.getLast? ≠ some '.')
    (named : name ≠ "") (record : Record) : labelOf (record.fqdn name) name = record.label := by
  unfold Record.fqdn
  split
  · next apex =>
    rw [labelOf_apex (equalIgnoringAsciiCase_iff.2 rfl) relative]
    exact (beq_iff_eq.1 apex).symm
  · have spelled : (record.label ++ "." ++ name).toList =
        record.label.toList ++ '.' :: name.toList := by
      rw [String.toList_append, String.toList_append, List.append_assoc]
      rfl
    have present : name.toList ≠ [] := fun empty => named (String.toList_eq_nil_iff.1 empty)
    have kept : trimEndDots (record.label ++ "." ++ name).toList =
        record.label.toList ++ '.' :: name.toList := by
      rw [spelled, trimEndDots_eq_self]
      rwa [List.append_cons, List.getLast?_append_of_ne_nil _ present]
    have below : ¬ equalIgnoringAsciiCase (record.label.toList ++ '.' :: name.toList)
        name.toList = true := fun same => by
      have short := length_eq_of_asciiLower_eq (equalIgnoringAsciiCase_iff.1 same)
      rw [List.length_append, List.length_cons] at short
      omega
    unfold labelOf
    dsimp only
    rw [kept, if_neg below, stripSuffix?_append, Option.getD_some, String.ofList_toList]

namespace Entry

/-- The type of a record is read back where CNAMEs and aliases are at their places. -/
theorem recordType_eq_iff (label : String)
    (typed : entry.type =
      if record.type = .aliased then RecordType.cname.name else record.type.name)
    (dns : record.type.isPseudo = false) :
    entry.recordType label = .ok record.type ↔
      (record.type = .aliased → label = apexLabel) ∧
        (record.type = .cname → label ≠ apexLabel) := by
  refine ⟨fun known => ?_, fun ⟨aliased, cname⟩ => recordType_eq label typed dns aliased cname⟩
  unfold recordType at known
  rw [typed] at known
  by_cases alias_type : record.type = .aliased
  · rw [if_pos alias_type, read_name] at known
    refine ⟨fun _ => ?_, fun cname => by simp [cname] at alias_type⟩
    by_contra other
    simp [RecordType.isPseudo, other, alias_type] at known
  · rw [if_neg alias_type, read_name] at known
    refine ⟨fun aliased => absurd aliased alias_type, fun cname apex => ?_⟩
    simp [cname, apex, RecordType.isPseudo] at known

theorem isPseudo_of_toRecord {name : String} (found : entry.toRecord name = .ok record) :
    record.type.isPseudo = false := by
  simp only [toRecord, bind_eq_ok_iff, pure_eq_ok_iff] at found
  obtain ⟨type, typed, payload, -, rfl⟩ := found
  simp only [recordType] at typed
  split at typed
  · cases typed
  · split at typed
    · cases typed
    · split at typed
      · cases typed
        rfl
      · next pseudo _ =>
        cases typed
        exact Bool.eq_false_iff.2 pseudo

/-- What Cloudflare keeps of an entry that it is sent in place of another one: it has the same
identifier, and nothing changes about whether it can be proxied. -/
def replacing (sent entry : Entry) : Entry :=
  { sent with id := entry.id, proxiable := entry.proxiable }

/-- The record of an entry that has been replaced is the one that was written, but for its label,
its type and its payload, which are read again. -/
theorem of_toRecord_replacing {name : String} (given : ofRecord name record proxied = .ok written)
    (found : (written.replacing entry).toRecord name = .ok observed) :
    observed.label = labelOf (record.fqdn name) name ∧
      written.recordType (labelOf (record.fqdn name) name) = .ok observed.type ∧
      observed.ttl = record.ttl ∧ observed.ref = some (written.replacing entry).reference ∧
      wantsProxy observed =
        (isProxiable observed.type && (isProxiable record.type && proxied)) := by
  obtain ⟨own_name, ttl, shown, -⟩ := frame_of_withPayload? (ofRecord_eq_ok_iff.1 given)
  have label : labelOf (written.replacing entry).name name = labelOf (record.fqdn name) name :=
    congrArg (labelOf · name) own_name
  have flag : (written.replacing entry).proxied.getD false =
      (isProxiable record.type && proxied) := by
    show written.proxied.getD false = _
    rw [shown, ofHeader]
    cases isProxiable record.type <;> rfl
  simp only [toRecord, bind_eq_ok_iff, pure_eq_ok_iff, label, flag] at found
  obtain ⟨type, typed, payload, paid, rfl⟩ := found
  refine ⟨rfl, typed, ttl, rfl, ?_⟩
  unfold wantsProxy
  by_cases proxiable : isProxiable type = true
  · cases isProxiable record.type && proxied <;> simp [proxiable]
  · simp [proxiable]

end Entry

/-- Cloudflare says again whether a record can be proxied when the record is changed. -/
theorem mayProxy_of_reference (own : record.ref = some entry.reference) :
    mayProxy record = entry.proxiable := by
  have said : entry.reference.extra.member? "proxiable" = some (.bool entry.proxiable) := by
    simp only [Entry.reference, Json.ofMembers, List.foldl_cons, List.foldl_nil, Json.member?]
    rw [Json.insertMember_eq "proxiable", Dict.lookup_insertEntry, if_pos rfl]
  rw [mayProxy, own]
  dsimp only
  rw [said]
  rfl

theorem recordId_congr {other : Record} (label : record.label = other.label)
    (type : record.type = other.type) (own : record.ref = some entry.reference)
    (own' : other.ref = some (written.replacing entry).reference) :
    recordId record = recordId other := by
  rw [recordId, recordId, own, own', recordId.missing, recordId.missing, label, type]
  rfl

/-! ## What is observed -/

/-- What a record is observed as, in canonical form, after an update of its entry. -/
def observedAfter? (zone : Zone) (entry : Entry) (body : Json) : Option Record := do
  let sent ← (Entry.ofText body.print).toOption
  let observed ← ((sent.replacing entry).toRecord zone.name).toOption
  ((Origin.ofZone zone).record observed).toOption

theorem observedAfter?_eq_some_iff {proxied : Bool}
    (given : Entry.ofRecord zone.name record proxied = .ok written) :
    observedAfter? zone entry written.toJson = some form ↔
      ∃ observed, (written.replacing entry).toRecord zone.name = .ok observed ∧
        (Origin.ofZone zone).record observed = .ok form := by
  have sent : Entry.ofText written.toJson.print = .ok written := by
    have plain : written.proxiable = false :=
      (Entry.frame_of_withPayload? (Entry.ofRecord_eq_ok_iff.1 given)).2.2.2
    rw [Entry.ofText_print, ← plain]
  have toOption {ε α : Type} {result : Except ε α} {value : α} :
      result.toOption = some value ↔ result = .ok value := by
    cases result <;> simp [Except.toOption]
  simp only [observedAfter?, sent, Option.bind_eq_bind, Option.bind_eq_some_iff, toOption,
    Except.ok.injEq, exists_eq_left']

/-- The label that is cut out of the full name of a record. -/
def cutLabel (zone : Zone) (record : Record) : String :=
  labelOf (record.fqdn zone.name) zone.name

/-- The label and the type of a record are such that they are read back from its full name. -/
structure ReadsBack (zone : Zone) (record : Record) : Prop where
  cname : record.type = .cname → cutLabel zone record ≠ apexLabel
  aliased : record.type = .aliased → cutLabel zone record = apexLabel
  label : (Origin.ofZone zone).label (cutLabel zone record).toList = .ok record.label.toList

/-- If the name of the zone does not end in a dot, this is about the record itself: its type has to
belong where it is, and its label has to be in canonical form. -/
theorem readsBack_iff (relative : zone.name.toList.getLast? ≠ some '.') (named : zone.name ≠ "") :
    ReadsBack zone record ↔ IsPlaced record ∧
      (Origin.ofZone zone).label record.label.toList = .ok record.label.toList := by
  have cut : cutLabel zone record = record.label := labelOf_fqdn_of_named relative named record
  apply Iff.intro
  · rintro ⟨cname, aliased, label⟩
    rw [cut] at cname aliased label
    exact ⟨⟨fun type => beq_eq_false_iff_ne.2 (cname type),
      fun type => beq_iff_eq.2 (aliased type)⟩, label⟩
  · rintro ⟨placed, label⟩
    refine ⟨fun type => ?_, fun type => ?_, ?_⟩ <;> rw [cut]
    · exact beq_eq_false_iff_ne.1 (placed.cname type)
    · exact beq_iff_eq.1 (placed.aliased type)
    · exact label

/-- A record of a zone that could be sent to Cloudflare, in canonical form but for its label. -/
structure IsSettled (client : Client) (zone : Zone) (record : Record) : Prop where
  dns : record.type.isPseudo = false
  fits : record.payload.fits record.type = true
  payload : (Origin.ofZone zone).payload record.payload = .ok record.payload
  ttl : record.ttl ≠ 0
  accepted : client.adapter.audit [record] = .ok ()

section Settled

variable (settled : IsSettled client zone record)
include settled

theorem IsSettled.payload_type : record.payload.type = record.type :=
  (Entry.type_of_fits settled.fits settled.dns).symm

/-- The payload that is read back has the one that was written as its canonical form. -/
theorem IsSettled.exists_payload (given : Entry.ofRecord zone.name record proxied = .ok written)
    (one : ∀ name, record.payload.target? = some name → EndsInOneDot name) :
    ∃ payload, written.payload record.type = .ok payload ∧
      payload.fits record.type = true ∧
      (Origin.ofZone zone).payload payload = .ok record.payload := by
  have made := Entry.ofRecord_eq_ok_iff.1 given
  by_cases type : record.type = .txt
  · obtain ⟨strings, texts⟩ := exists_strings type settled.fits
    rw [texts] at made
    refine ⟨.txt [String.join strings], ?_, ?_, ?_⟩
    · rw [type]
      exact Entry.payload_of_withPayload?_txt made
    · rw [type]
      rfl
    · rw [texts, payload_join, ← (audit_txt_iff type texts).1 settled.accepted]
  · have same := settled.payload_type
    refine ⟨record.payload, ?_, settled.fits, settled.payload⟩
    rw [← same]
    exact Entry.payload_of_withPayload? (Origin.sound_ofZone zone) made settled.payload one
      (by rwa [same])

theorem IsSettled.recordType_iff (given : Entry.ofRecord zone.name record proxied = .ok written)
    (label : String) :
    written.recordType label = .ok record.type ↔
      (record.type = .aliased → label = apexLabel) ∧
        (record.type = .cname → label ≠ apexLabel) := by
  have typed := Entry.type_of_withPayload? (Entry.ofRecord_eq_ok_iff.1 given)
    (by rw [settled.payload_type]; rfl)
  rw [settled.payload_type] at typed
  exact Entry.recordType_eq_iff label typed settled.dns

/-- The form is the record that was written, as far as a proxy was asked for. -/
structure IsFormOf (form record : Record) (kept : Entry) (proxied : Bool) : Prop where
  label : form.label = record.label
  type : form.type = record.type
  payload : form.payload = record.payload
  ttl : form.ttl = record.ttl
  ref : form.ref = some kept.reference
  proxy : wantsProxy form = (isProxiable record.type && proxied)

/-- A record whose label and type can be read back is observed as it was written. -/
theorem IsSettled.exists_form
    (one : ∀ name, record.payload.target? = some name → EndsInOneDot name)
    (given : Entry.ofRecord zone.name record proxied = .ok written)
    (reads : ReadsBack zone record) :
    ∃ form, observedAfter? zone entry written.toJson = some form ∧
      IsFormOf form record (written.replacing entry) proxied := by
  obtain ⟨payload, paid, fits, form_of⟩ := settled.exists_payload given one
  have own_name : (written.replacing entry).name = record.fqdn zone.name :=
    (Entry.frame_of_withPayload? (Entry.ofRecord_eq_ok_iff.1 given)).1
  have typed : (written.replacing entry).recordType
      (labelOf (written.replacing entry).name zone.name) = .ok record.type := by
    rw [own_name]
    exact (settled.recordType_iff given _).2 ⟨reads.aliased, reads.cname⟩
  obtain ⟨observed, found, -, type, own, -, -⟩ :=
    Entry.exists_toRecord typed paid
  obtain ⟨label, -, ttl, ref, proxy⟩ := Entry.of_toRecord_replacing given found
  refine ⟨{ observed with label := record.label, payload := record.payload },
    (observedAfter?_eq_some_iff given).2 ⟨observed, found, Origin.record_eq_ok_iff.2
      ⟨by rw [own, type, fits], record.label.toList, record.payload, label ▸ reads.label,
        own ▸ form_of, ?_⟩⟩,
    ⟨rfl, type, rfl, ttl, ref, ?_⟩⟩
  · rw [if_neg (ttl ▸ settled.ttl), String.ofList_toList]
  · have same : wantsProxy { observed with label := record.label, payload := record.payload } =
        wantsProxy observed := rfl
    rw [same, proxy, type, ← Bool.and_assoc, Bool.and_self]

end Settled

/-- Where two records of a type are compared alike, both want a proxy or neither does. -/
theorem wantsProxy_eq_of_comparable (type : form.type = record.type)
    (same : client.adapter.comparable form = client.adapter.comparable record) :
    wantsProxy form = wantsProxy record := by
  by_cases proxiable : isProxiable record.type = true
  · change Client.comparable form = Client.comparable record at same
    rw [Client.comparable, Client.comparable, type, if_pos proxiable, if_pos proxiable] at same
    have told := congrArg (·.get? "proxy") same
    rw [Dict.get?_insert, Dict.get?_insert, if_pos rfl, if_pos rfl] at told
    cases first : wantsProxy form <;> cases second : wantsProxy record <;>
      simp [first, second] at told ⊢
  · simp [wantsProxy, type, proxiable]

theorem isProxiable_and_wantsProxy (record : Record) :
    (isProxiable record.type && wantsProxy record) = wantsProxy record := by
  rw [wantsProxy, ← Bool.and_assoc, Bool.and_self]

/-! ## Updates -/

/-- Carrying out a modification comes to one request, with this body. -/
def Client.Updates (client : Client) (zone : String) (existing desired : Record) (body : Json) :
    Prop :=
  recordBody zone desired (mayProxy existing && wantsProxy desired) = .ok body ∧
    client.write zone (.modify existing desired) = do
      let zoneId ← client.zoneId zone
      let id ← ClientM.ofExcept (recordId existing)
      client.send {
        method := .put, path := recordPath zoneId desired.type id, body := some body }

/-- Whatever else is compared, the modification is planned again, and it is the same as before. -/
structure Recurs (client : Client) (zone : String) (existing desired form : Record) : Prop where
  planned : ∀ (comparison : Comparison) (wanted found : List Record) (changes : Changeset),
    comparison.comparable = client.adapter.comparable → desired ∈ wanted → form ∈ found →
      comparison.changes wanted found = .ok changes →
        ∃ change ∈ changes.modify, change.existing = form ∧ change.desired = desired
  same : client.write zone (.modify form desired) = client.write zone (.modify existing desired)

section Updates

variable {existing : Record} {body : Json}
variable (settled : IsSettled client zone record) (own : existing.ref = some entry.reference)
include settled own

/-- An update converges if the label and the type are such that they are read back and nobody wants
a proxy that Cloudflare does not provide. -/
theorem IsSettled.converges_iff
    (one : ∀ name, record.payload.target? = some name → EndsInOneDot name)
    (given : Entry.ofRecord zone.name record (mayProxy existing && wantsProxy record) =
      .ok written) :
    (∃ form, observedAfter? zone entry written.toJson = some form ∧
        InSync client form record) ↔
      ReadsBack zone record ∧ (wantsProxy record = true → entry.proxiable = true) := by
  rw [mayProxy_of_reference own] at given
  apply Iff.intro
  · rintro ⟨form, back, sync⟩
    obtain ⟨observed, found, canonical⟩ := (observedAfter?_eq_some_iff given).1 back
    obtain ⟨label, typed, -, -, proxy⟩ := Entry.of_toRecord_replacing given found
    have type : observed.type = record.type :=
      (Origin.type_of_record canonical).symm.trans sync.type
    have labelled := Origin.label_of_record canonical
    rw [label, sync.label] at labelled
    obtain ⟨aliased, cname⟩ := (settled.recordType_iff given _).1 (type ▸ typed)
    refine ⟨⟨cname, aliased, labelled⟩, fun wants => ?_⟩
    have flag : wantsProxy form = wantsProxy observed := by
      obtain ⟨-, -, -, -, -, rfl⟩ := Origin.record_eq_ok_iff.1 canonical
      rfl
    rw [← flag, wantsProxy_eq_of_comparable sync.type sync.comparable, wants] at proxy
    rw [Bool.and_true] at proxy
    exact (Bool.and_eq_true_iff.1 (Bool.and_eq_true_iff.1 proxy.symm).2).2
  · rintro ⟨reads, provided⟩
    obtain ⟨form, back, is_form⟩ := settled.exists_form one given reads
    refine ⟨form, back, inSync_of_agree settled.fits is_form.label is_form.type is_form.payload
      is_form.ttl ?_⟩
    rw [is_form.proxy, Bool.and_left_comm, isProxiable_and_wantsProxy]
    cases wants : wantsProxy record with
    | false => rw [Bool.and_false]
    | true => rw [provided wants, Bool.and_self]

/-- An update that asks for no proxy where one is wanted is planned again. -/
theorem IsSettled.recurs
    (one : ∀ name, record.payload.target? = some name → EndsInOneDot name)
    (given : Entry.ofRecord zone.name record (mayProxy existing && wantsProxy record) =
      .ok written) (wants : wantsProxy record = true) (refused : entry.proxiable = false)
    (reads : ReadsBack zone record) (label : existing.label = record.label)
    (type : existing.type = record.type) :
    ∃ form, observedAfter? zone entry written.toJson = some form ∧
      Recurs client zone.name existing record form := by
  obtain ⟨form, back, is_form⟩ := settled.exists_form one given reads
  have may : mayProxy existing = mayProxy form := by
    rw [mayProxy_of_reference own, mayProxy_of_reference is_form.ref]
    rfl
  have id : recordId existing = recordId form :=
    recordId_congr (label.trans is_form.label.symm) (type.trans is_form.type.symm) own is_form.ref
  have unlike : client.adapter.comparable form ≠ client.adapter.comparable record := fun same => by
    have both := wantsProxy_eq_of_comparable is_form.type same
    rw [is_form.proxy, mayProxy_of_reference own, refused, wants] at both
    simp at both
  refine ⟨form, back, fun comparison wanted found changes own wants finds compared => ?_, ?_⟩
  · have key : form.key = record.key := by
      rw [Record.key, Record.key, is_form.label, is_form.type, is_form.payload]
    have takes_part : form ∈ comparison.participating wanted found := by
      refine List.mem_filter.2 ⟨finds, ?_⟩
      rw [Comparison.participates_congr key]
      exact Comparison.participates_of_desired wants
    have differ : comparison.differs form record = true := by
      rw [Comparison.differs, own, bne_iff_ne.2 unlike, Bool.or_true]
    exact ⟨⟨form, record, comparison.modifyMessage form record⟩,
      (Comparison.mem_modify_iff compared).2 ⟨⟨takes_part, wants, key⟩, differ, rfl⟩, rfl, rfl⟩
  · simp only [Client.write, Client.update, may, id]

end Updates

theorem Client.exists_updates (client : Client) (name : String) (existing : Record)
    (writable : IsWritable record) (dns : record.type.isPseudo = false) :
    ∃ written, Entry.ofRecord name record (mayProxy existing && wantsProxy record) = .ok written ∧
      client.Updates name existing record written.toJson := by
  obtain ⟨body, encoded, sent⟩ := client.encodes_modify name existing writable
  have made := encoded
  rw [recordBody_of_dns dns, map_eq_ok_iff] at made
  obtain ⟨written, given, rfl⟩ := made
  exact ⟨written, given, encoded, sent⟩

theorem Entry.ref_of_toRecord {name : String} (found : entry.toRecord name = .ok record) :
    record.ref = some entry.reference := by
  simp only [Entry.toRecord, bind_eq_ok_iff, pure_eq_ok_iff] at found
  obtain ⟨type, -, payload, -, rfl⟩ := found
  rfl

section Modifications

variable {matcher : LabelMatcher} {desired : Zone} {listed : List Record}
variable {changes : Changeset} {pair : PairedChange}

theorem audited_of_prepare {adapter : Adapter}
    (prepared : (adapter.prepare matcher zone).2 = .ok desired) :
    adapter.audit desired.records = .ok () := by
  rw [Adapter.prepare_snd, bind_eq_ok_iff] at prepared
  obtain ⟨adapted, -, checked⟩ := prepared
  obtain ⟨forms, -, -, accepted, rfl⟩ := Adapter.check_eq_ok_iff.1 checked
  exact accepted

/-- What a modification asks for is settled, if it is no rule or route. -/
theorem isSettled_of_modify (prepared : (client.adapter.prepare matcher zone).2 = .ok desired)
    (compared : client.adapter.compare matcher desired listed = .ok changes)
    (member : pair ∈ changes.modify) (named : (Origin.ofZone zone).zone ≠ [])
    (dns : pair.desired.type.isPseudo = false) :
    IsSettled client zone pair.desired ∧ IsWritable pair.desired := by
  obtain ⟨existing, compares⟩ := exists_compares_of_prepare prepared compared
  have audited := audited_of_prepare prepared
  have wanted : pair.desired ∈ desired.records :=
    ((Comparison.mem_modify_iff compares.compared).1 member).1.2.1
  obtain ⟨proxyDefault, records, -, forms⟩ := compares.adapted
  obtain ⟨placed, -, found⟩ := (RecordSet.mem_normalize_iff forms).1 wanted
  have fits := Origin.fits_of_record found
  have accepted := audit_singleton_iff.2 ((forM_eq_ok_iff.1 audited) _ wanted)
  obtain ⟨-, label, payload, -, paid, form⟩ := Origin.record_eq_ok_iff.1 found
  have sound : (Origin.ofZone zone).Sound := Origin.sound_ofZone zone
  refine ⟨⟨dns, fits, ?_, ?_, accepted⟩, isWritable_of_desired compares audited wanted⟩
  · rw [form]
    exact Origin.payload_self sound named paid
  · rw [form]
    dsimp only
    split
    · exact sound.ttl
    · assumption

/-- What a modification replaces is the canonical form of something listed, and it is of the type
and at the label that is asked for. -/
theorem exists_listed_of_modify (prepared : (client.adapter.prepare matcher zone).2 = .ok desired)
    (compared : client.adapter.compare matcher desired listed = .ok changes)
    (member : pair ∈ changes.modify) :
    (∃ stored ∈ listed, (Origin.ofZone zone).record stored = .ok pair.existing) ∧
      pair.existing.label = pair.desired.label ∧ pair.existing.type = pair.desired.type := by
  obtain ⟨existing, compares⟩ := exists_compares_of_prepare prepared compared
  obtain ⟨⟨takes_part, -, key⟩, -⟩ := (Comparison.mem_modify_iff compares.compared).1 member
  exact ⟨(RecordSet.mem_normalize_iff compares.observed_forms).1 (List.mem_filter.1 takes_part).1,
    congrArg RecordKey.label key, congrArg RecordKey.type key⟩

end Modifications

section Replacements

variable {matcher : LabelMatcher} {desired : Zone} {listed : List Record}
variable {changes : Changeset} {pair : PairedChange} {stored : Record}
variable (named : (Origin.ofZone zone).zone ≠ [])
variable (prepared : (client.adapter.prepare matcher zone).2 = .ok desired)
variable (compared : client.adapter.compare matcher desired listed = .ok changes)
variable (member : pair ∈ changes.modify) (found : entry.toRecord zone.name = .ok stored)
variable (own : (Origin.ofZone zone).record stored = .ok pair.existing)
include named prepared compared member found own

/-- A modification of a record that was read from an entry sends another entry in its place. -/
theorem exists_written_of_modify :
    IsSettled client zone pair.desired ∧ pair.existing.ref = some entry.reference ∧
      ∃ written,
        Entry.ofRecord zone.name pair.desired (mayProxy pair.existing && wantsProxy pair.desired) =
          .ok written ∧
        client.Updates zone.name pair.existing pair.desired written.toJson := by
  obtain ⟨-, -, type⟩ := exists_listed_of_modify prepared compared member
  have dns : pair.desired.type.isPseudo = false := by
    rw [← type, Origin.type_of_record own]
    exact Entry.isPseudo_of_toRecord found
  obtain ⟨settled, writable⟩ := isSettled_of_modify prepared compared member named dns
  exact ⟨settled, (Origin.ref_of_record own).trans (Entry.ref_of_toRecord found),
    client.exists_updates zone.name pair.existing writable dns⟩

/-- A modification of a record that Cloudflare lists has a body, and once Cloudflare has replaced
the record by it the two are in sync, if the label and the type can be read back and nobody wants a
proxy for a record that cannot have one. If it is only for the proxy that they are not, the
modification is planned again and is the same as before. -/
theorem updates_converge_unless_proxy_refused
    (one : ∀ name, pair.desired.payload.target? = some name → EndsInOneDot name) :
    ∃ body, client.Updates zone.name pair.existing pair.desired body ∧
      ((∃ form, observedAfter? zone entry body = some form ∧ InSync client form pair.desired) ↔
        ReadsBack zone pair.desired ∧
          (wantsProxy pair.desired = true → entry.proxiable = true)) ∧
      (ReadsBack zone pair.desired → wantsProxy pair.desired = true → entry.proxiable = false →
        ∃ form, observedAfter? zone entry body = some form ∧
          Recurs client zone.name pair.existing pair.desired form) := by
  obtain ⟨settled, ref, written, given, updates⟩ :=
    exists_written_of_modify named prepared compared member found own
  refine ⟨written.toJson, updates,
    settled.converges_iff ref one given, fun reads wants refused => ?_⟩
  obtain ⟨-, label, type⟩ := exists_listed_of_modify prepared compared member
  exact settled.recurs ref one given wants refused reads label type

end Replacements

/-! ## An address behind a proxy -/

/-- A zone that asks for an address behind a proxy. -/
def proxiedZone : Zone :=
  { name := "a.org", provider := "cloudflare"
    records := [
      { Record.ofPayload "www" (.a ⟨192, 0, 2, 1⟩) with
        metadata := Dict.empty.insert proxyKey "on" }] }

/-- The address as Cloudflare lists it, without a proxy. -/
def addressEntry (proxiable : Bool) : Entry :=
  { id := "e", type := "A", name := "www.a.org", content := "192.0.2.1", ttl := 1, proxiable }

/-- The address is compared with what the zone asks for, and it is modified. -/
theorem exists_modify_addressEntry (proxiable : Bool) :
    ∃ desired stored changes,
      ((Client.adapter {}).prepare .glob proxiedZone).2 = .ok desired ∧
      (addressEntry proxiable).toRecord proxiedZone.name = .ok stored ∧
      (Client.adapter {}).compare .glob desired [stored] = .ok changes ∧
      ∃ pair ∈ changes.modify, (Origin.ofZone proxiedZone).record stored = .ok pair.existing ∧
        pair.desired.payload.target? = none ∧ wantsProxy pair.desired = true ∧
        ReadsBack proxiedZone pair.desired := by
  let comparing : Except Error Changeset := do
    let desired ← ((Client.adapter {}).prepare .glob proxiedZone).2
    let stored ← (addressEntry proxiable).toRecord proxiedZone.name
    (Client.adapter {}).compare .glob desired [stored]
  have seen : (comparing.toOption.map fun changes => changes.modify.map fun pair =>
      (pair.desired.label, pair.desired.type, pair.desired.payload.target?,
        wantsProxy pair.desired)) = some [("www", .a, none, true)] := by
    cases proxiable <;> decide +kernel
  obtain ⟨changes, ran, looks⟩ := exists_eq_ok_of_map seen
  obtain ⟨desired, prepared, rest⟩ := bind_eq_ok_iff.1 ran
  obtain ⟨stored, found, compared⟩ := bind_eq_ok_iff.1 rest
  obtain ⟨pair, others, whole, looks, -⟩ := List.map_eq_cons_iff.1 looks
  have member : pair ∈ changes.modify := whole ▸ List.mem_cons_self
  obtain ⟨⟨stored', listed, own⟩, -⟩ := exists_listed_of_modify prepared compared member
  obtain rfl := List.mem_singleton.1 listed
  simp only [Prod.mk.injEq] at looks
  obtain ⟨label, type, target, wants⟩ := looks
  refine ⟨desired, _, changes, prepared, found, compared, pair, member, own, target, wants,
    (readsBack_iff (by decide) (by decide)).2 ⟨⟨?_, ?_⟩, ?_⟩⟩
  · simp [type]
  · simp [type]
  · rw [label]
    decide +kernel

theorem updates_converge_unless_proxy_refused_of_address :
    (∃ existing desired body form, Client.Updates {} "a.org" existing desired body ∧
      observedAfter? proxiedZone (addressEntry true) body = some form ∧ InSync {} form desired) ∧
    ∃ existing desired body form, Client.Updates {} "a.org" existing desired body ∧
      observedAfter? proxiedZone (addressEntry false) body = some form ∧
      ¬ InSync {} form desired ∧ Recurs {} "a.org" existing desired form := by
  have named : (Origin.ofZone proxiedZone).zone ≠ [] := by decide +kernel
  apply And.intro
  · obtain ⟨desired, stored, changes, prepared, found, compared, pair, member, own, target, wants,
      reads⟩ := exists_modify_addressEntry true
    obtain ⟨body, updates, converges_iff, -⟩ := updates_converge_unless_proxy_refused named
      prepared compared member found own (by simp [target])
    obtain ⟨form, back, sync⟩ := converges_iff.2 ⟨reads, fun _ => rfl⟩
    exact ⟨_, _, body, form, updates, back, sync⟩
  · obtain ⟨desired, stored, changes, prepared, found, compared, pair, member, own, target, wants,
      reads⟩ := exists_modify_addressEntry false
    obtain ⟨body, updates, converges_iff, recurs⟩ := updates_converge_unless_proxy_refused named
      prepared compared member found own (by simp [target])
    obtain ⟨form, back, again⟩ := recurs reads wants rfl
    exact ⟨_, _, body, form, updates, back,
      fun sync => Bool.false_ne_true ((converges_iff.1 ⟨form, back, sync⟩).2 wants), again⟩

/-- Updates do not always converge. -/
theorem updates_not_always_converge :
    ¬ ∀ (client : Client) (matcher : LabelMatcher) (zone desired : Zone) (listed : List Record)
        (changes : Changeset) (pair : PairedChange) (entry : Entry) (stored : Record) (body : Json),
      zone.name.toList.getLast? ≠ some '.' → (Origin.ofZone zone).zone ≠ [] →
        (client.adapter.prepare matcher zone).2 = .ok desired →
        client.adapter.compare matcher desired listed = .ok changes → pair ∈ changes.modify →
        entry.toRecord zone.name = .ok stored →
        (Origin.ofZone zone).record stored = .ok pair.existing →
        (∀ name, pair.desired.payload.target? = some name → EndsInOneDot name) →
        client.Updates zone.name pair.existing pair.desired body →
          ∃ form, observedAfter? zone entry body = some form ∧ InSync client form pair.desired := by
  intro claimed
  have relative : proxiedZone.name.toList.getLast? ≠ some '.' := by decide
  have named : (Origin.ofZone proxiedZone).zone ≠ [] := by decide +kernel
  obtain ⟨desired, stored, changes, prepared, found, compared, pair, member, own, target, wants,
    reads⟩ := exists_modify_addressEntry false
  have one : ∀ name, pair.desired.payload.target? = some name → EndsInOneDot name := by
    simp [target]
  obtain ⟨settled, ref, written, given, updates⟩ :=
    exists_written_of_modify named prepared compared member found own
  have converges := claimed {} .glob proxiedZone desired [stored] changes pair _ stored _ relative
    named prepared compared member found own one updates
  have provided := (settled.converges_iff ref one given).1 converges
  exact Bool.false_ne_true (provided.2 wants)

end DnsReconcile.Cloudflare
