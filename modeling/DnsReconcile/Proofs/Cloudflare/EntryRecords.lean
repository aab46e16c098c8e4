/-
# Records of the entries of records

The entry that is made of a record in canonical form stands for that record again. The label
is cut out of the full name, the dot at the end of names is taken off and put back, and an
alias is written as a CNAME and recognised by its place. Only the strings of a TXT record are
lost: they come back as one.
-/

import DnsReconcile.Proofs.Address.WrittenForms
import DnsReconcile.Proofs.Cloudflare.ObservedLabels
import DnsReconcile.Proofs.Zone.CanonicalForms

namespace DnsReconcile.Cloudflare

open Text

variable {zone name : String}

/-! ## Names -/

/-- A name that ends with one dot and no more. -/
def EndsInOneDot (name : String) : Prop :=
  ∃ front, name.toList = front ++ ['.'] ∧ front.getLast? ≠ some '.'

theorem endsInOneDot_dot : EndsInOneDot "." :=
  ⟨[], rfl, nofun⟩

theorem trimEndDots_of_endsInOneDot {front : List Char} (whole : name.toList = front ++ ['.'])
    (once : front.getLast? ≠ some '.') : trimEndDots name.toList = front := by
  rw [whole, trimEndDots_append_dot, trimEndDots_eq_self once]

/-- The dot that is taken off is put back. -/
theorem dotted_undotted (one : EndsInOneDot name) : dotted (undotted name) = name := by
  obtain ⟨front, whole, once⟩ := one
  rw [undotted, trimEndDots_of_endsInOneDot whole once, dotted, String.toList_ofList,
    if_neg once, ← String.toList_inj, String.toList_append, String.toList_ofList, whole]
  rfl

theorem SrvTarget.fqdn_ofName (one : EndsInOneDot name) :
    (SrvTarget.ofName name).fqdn = .ok name := by
  obtain ⟨front, whole, once⟩ := one
  rw [SrvTarget.ofName, trimEndDots_of_endsInOneDot whole once]
  cases front with
  | nil =>
      have null : name = "." := String.toList_inj.1 whole
      rw [null]
      rfl
  | cons c rest =>
      simp only [SrvTarget.fqdn]
      rw [String.toList_ofList, trimEndDots_eq_self once]
      dsimp only
      rw [← whole, String.ofList_toList]

/-- The label of a record is cut out of its full name. -/
theorem labelOf_fqdn {record : Record}
    (relative : zone.toList.getLast? ≠ some '.') (present : record.label ≠ "")
    (inner : record.label.toList.getLast? ≠ some '.') :
    labelOf (record.fqdn zone) zone = record.label := by
  unfold Record.fqdn
  split
  · next apex =>
    rw [labelOf_apex (equalIgnoringAsciiCase_iff.2 rfl) relative]
    exact (beq_iff_eq.1 apex).symm
  · have parts : Parts (record.label ++ "." ++ zone) record.label zone record.label.toList
        zone.toList :=
      ⟨by rw [String.toList_append, String.toList_append, List.append_assoc]; rfl, rfl, rfl⟩
    rw [parts.labelOf_eq relative present inner rfl, if_pos rfl, String.ofList_toList]

/-! ## Types -/

theorem read_name (type : RecordType) : RecordType.read type.name = .ok type := by
  cases type <;> decide

namespace Entry

variable {entry written : Entry} {origin : Origin} {record : Record} {payload : Payload}

/-- The types of entries: as the record's, but for aliases. -/
theorem type_of_withPayload? (given : entry.withPayload? payload = some written)
    (typed : entry.type = payload.type.name) :
    written.type =
      if payload.type = .aliased then RecordType.cname.name else payload.type.name := by
  cases payload <;> simp only [withPayload?, Option.some.injEq, reduceCtorEq] at given <;>
    first
    | (subst given; exact typed)
    | (subst given; rfl)

theorem recordType_eq (label : String)
    (typed : entry.type =
      if record.type = .aliased then RecordType.cname.name else record.type.name)
    (dns : record.type.isPseudo = false)
    (aliased : record.type = .aliased → label = apexLabel)
    (cname : record.type = .cname → label ≠ apexLabel) :
    entry.recordType label = .ok record.type := by
  unfold recordType
  rw [typed]
  by_cases alias_type : record.type = .aliased
  · rw [if_pos alias_type, read_name]
    simp [RecordType.isPseudo, aliased alias_type, alias_type]
  · rw [if_neg alias_type, read_name]
    have other : ¬ (record.type = .cname ∧ label = apexLabel) := fun ⟨same, apex⟩ => cname same apex
    simp [dns, other]

/-! ## Payloads -/

theorem contentPayload_of_read {type : RecordType} {content : String}
    (found : Payload.read type content = .ok payload) :
    entry.contentPayload type content = .ok payload := by
  rw [contentPayload, found]

theorem read_print_a (address : IPv4) : Payload.read .a address.print = .ok (.a address) := by
  simp only [Payload.read, Payload.readFields]
  rw [address.trim_print, address.read?_print]

theorem read_print_aaaa (address : IPv6) :
    Payload.read .aaaa address.print = .ok (.aaaa address) := by
  simp only [Payload.read, Payload.readFields]
  rw [address.trim_print, address.read?_print]

/-- A payload that is only a name and is in canonical form is read as it was. -/
theorem contentPayload_dotted (type : RecordType) {make : String → Payload}
    (plain : ∀ content words, Payload.readFields type content words =
      .ok (make (String.ofList content)))
    (step : ∀ name, origin.payload (make name) =
      origin.targetName false name >>= fun form => pure (make form))
    (injective : ∀ first second, make first = make second → first = second)
    (sound : origin.Sound) (canonical : origin.payload (make name) = .ok (make name))
    (one : EndsInOneDot name) :
    entry.contentPayload type (dotted (undotted name)) = .ok (make name) := by
  rw [step, bind_eq_ok_iff] at canonical
  obtain ⟨form, found, made⟩ := canonical
  obtain rfl := injective _ _ (pure_eq_ok_iff.1 made)
  apply contentPayload_of_read
  rw [dotted_undotted one, Payload.read, (Origin.isTarget_of_targetName_self sound found).trim_eq,
    plain, String.ofList_toList]

/-- A payload in canonical form is that of the entry that is made of it, strings apart. -/
theorem payload_of_withPayload? (sound : origin.Sound)
    (given : entry.withPayload? payload = some written)
    (canonical : origin.payload payload = .ok payload)
    (one : ∀ name, payload.target? = some name → EndsInOneDot name)
    (single : payload.type ≠ .txt) : written.payload payload.type = .ok payload := by
  cases payload <;> simp only [withPayload?, Option.some.injEq, reduceCtorEq] at given <;>
    subst given <;> simp only [Payload.type, Entry.payload]
  case a address => exact contentPayload_of_read (read_print_a address)
  case aaaa address => exact contentPayload_of_read (read_print_aaaa address)
  case cname target =>
    exact contentPayload_dotted .cname (fun _ _ => rfl) (fun _ => rfl)
      (fun _ _ => Payload.cname.inj) sound canonical (one target rfl)
  case aliased target =>
    exact contentPayload_dotted .aliased (fun _ _ => rfl) (fun _ => rfl)
      (fun _ _ => Payload.aliased.inj) sound canonical (one target rfl)
  case ns target =>
    exact contentPayload_dotted .ns (fun _ _ => rfl) (fun _ => rfl)
      (fun _ _ => Payload.ns.inj) sound canonical (one target rfl)
  case ptr target =>
    exact contentPayload_dotted .ptr (fun _ _ => rfl) (fun _ => rfl)
      (fun _ _ => Payload.ptr.inj) sound canonical (one target rfl)
  case mx preference exchange =>
    have back : dotted (if exchange = "." then "." else undotted exchange) = exchange := by
      split
      · next null =>
        rw [null]
        decide
      · exact dotted_undotted (one exchange rfl)
    rw [Option.getD_some, back]
  case txt strings => exact absurd rfl single
  case srv priority weight port target => rw [SrvTarget.fqdn_ofName (one target rfl)]

/-- The strings of a TXT record become one. -/
theorem payload_of_withPayload?_txt {strings : List String}
    (given : entry.withPayload? (.txt strings) = some written) :
    written.payload .txt = .ok (.txt [String.join strings]) := by
  obtain rfl := Option.some.inj given
  rfl

/-! ## Records -/

/-- What the payload of a record leaves alone in its entry. -/
theorem frame_of_withPayload? (given : entry.withPayload? payload = some written) :
    written.name = entry.name ∧ written.ttl = entry.ttl ∧ written.proxied = entry.proxied ∧
      written.proxiable = entry.proxiable := by
  cases payload <;> simp only [withPayload?, Option.some.injEq, reduceCtorEq] at given <;>
    subst given <;> exact ⟨rfl, rfl, rfl, rfl⟩

theorem exists_withPayload? (entry : Entry) (soa : payload.type ≠ .soa)
    (dns : payload.type.isPseudo = false) :
    ∃ written, entry.withPayload? payload = some written := by
  cases payload with
  | soa => exact absurd rfl soa
  | encoded text => cases dns
  | _ => exact ⟨_, rfl⟩

/-- The entry of a record before its payload is put into it. -/
def ofHeader (zone : String) (record : Record) (proxied : Bool) : Entry where
  type := record.type.name
  name := record.fqdn zone
  ttl := record.ttl
  proxied := if isProxiable record.type then some proxied else none

theorem ofRecord_eq_ok_iff {proxied : Bool} :
    ofRecord zone record proxied = .ok written ↔
      (ofHeader zone record proxied).withPayload? record.payload = some written := by
  simp only [ofRecord, ofHeader]
  split
  · next entry made => rw [made, Except.ok.injEq, Option.some.injEq]
  · next none_made => simp [none_made]

theorem type_of_fits {type : RecordType} (fits : payload.fits type = true)
    (dns : type.isPseudo = false) : type = payload.type := by
  cases payload <;> simp_all [Payload.fits]

/-- An entry whose type and payload are known stands for a record of them. -/
theorem exists_toRecord {type : RecordType}
    (typed : entry.recordType (labelOf entry.name zone) = .ok type)
    (paid : entry.payload type = .ok payload) :
    ∃ observed, entry.toRecord zone = .ok observed ∧
      observed.label = labelOf entry.name zone ∧ observed.type = type ∧
      observed.payload = payload ∧ observed.ttl = entry.ttl ∧
      wantsProxy observed = (isProxiable type && entry.proxied.getD false) := by
  simp only [toRecord, bind_eq_ok_iff, pure_eq_ok_iff]
  refine ⟨_, ⟨type, typed, payload, paid, rfl⟩, rfl, rfl, rfl, rfl, ?_⟩
  unfold wantsProxy
  by_cases proxiable : isProxiable type = true
  · cases entry.proxied.getD false <;> simp [proxiable]
  · simp [proxiable]

/-- A record that the entry of another record stands for agrees with it in everything but
possibly the payload. -/
theorem exists_toRecord_of_ofRecord (relative : zone.toList.getLast? ≠ some '.')
    (fits : record.payload.fits record.type = true) (dns : record.type.isPseudo = false)
    (labelled : origin.label record.label.toList = .ok record.label.toList)
    (aliased : record.type = .aliased → record.isApex = true)
    (cname : record.type = .cname → record.isApex = false)
    (given : ofRecord zone record (wantsProxy record) = .ok written)
    (paid : written.payload record.type = .ok payload) :
    ∃ observed, written.toRecord zone = .ok observed ∧ observed.label = record.label ∧
      observed.type = record.type ∧ observed.payload = payload ∧ observed.ttl = record.ttl ∧
      wantsProxy observed = wantsProxy record := by
  have made := ofRecord_eq_ok_iff.1 given
  obtain ⟨name, ttl, proxied, -⟩ := frame_of_withPayload? made
  have same := type_of_fits fits dns
  have typed := type_of_withPayload? made (by rw [← same]; rfl)
  rw [← same] at typed
  have label : labelOf written.name zone = record.label := by
    rw [name]
    refine labelOf_fqdn relative (fun empty => (Origin.of_label labelled).1 ?_)
      (Origin.of_label_self labelled).2
    rw [empty]
    rfl
  have type := recordType_eq (labelOf written.name zone) typed dns
    (fun known => label.trans (beq_iff_eq.1 (aliased known)))
    fun known => label ▸ beq_eq_false_iff_ne.1 (cname known)
  obtain ⟨observed, found, label', type', payload', ttl', proxy⟩ := exists_toRecord type paid
  refine ⟨observed, found, label'.trans label, type', payload', ttl'.trans ttl, ?_⟩
  rw [proxy, proxied, ofHeader]
  by_cases proxiable : isProxiable record.type = true
  · simp [proxiable]
  · simp [proxiable, wantsProxy]

end Entry

end DnsReconcile.Cloudflare
