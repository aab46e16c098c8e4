/-
# Page rules and worker routes that are asked for

A page rule or a worker route keeps its label and the text of its payload, and records are told
apart by these. What is observed of it, when it is served as it was sent, has neither. The text was
cut at its commas, what is between them was read, and is spelled out anew; and there is no label
but that of the zone itself. So a rule is in sync with what is observed of it only if it was
written in that way. Otherwise the two are taken for different records on every run.
-/

import DnsReconcile.Proofs.Cloudflare.EncodedWrites
import DnsReconcile.Proofs.Cloudflare.RuleText

namespace DnsReconcile.Cloudflare

open Text

/-! ## Texts that are spelled out -/

/-- The payload is written as it would be spelled out: there are no blanks around what is between
commas, and the numbers of a page rule, which come behind its source and its target, are in plain
digits. -/
structure IsSpelledOut (type : RecordType) (payload : String) : Prop where
  trimmed : ∀ piece ∈ payload.toList.splitOn ',', trim piece = piece
  plain : type = .pageRule → ∀ number ∈ (parts payload).drop 2, ∃ n, number = Nat.toDigits 10 n

variable {text : String} {pieces : List (List Char)}

theorem splitOn_eq_parts_iff :
    text.toList.splitOn ',' = parts text ↔
      ∀ piece ∈ text.toList.splitOn ',', trim piece = piece := by
  have alike := List.map_inj_left (l := text.toList.splitOn ',') (f := trim) (g := id)
  rw [List.map_id] at alike
  rw [parts, eq_comm]
  exact alike

/-- A text is made of pieces if it is cut into them. -/
theorem toList_eq_intercalate_iff (bare : ∀ piece ∈ pieces, ',' ∉ piece) (present : pieces ≠ []) :
    text.toList = [','].intercalate pieces ↔ text.toList.splitOn ',' = pieces := by
  apply Iff.intro
  · intro made
    rw [made, List.splitOn_intercalate ',' bare present]
  · rintro rfl
    exact (List.intercalate_splitOn ',').symm

theorem Forwarding.parts_eq_of_read {forwarding : Forwarding}
    (read : Forwarding.read text = .ok forwarding) :
    ∃ priority status, parts text =
        [forwarding.source.toList, forwarding.target.toList, priority, status] ∧
      readUInt32? priority = some forwarding.priority ∧
      readUInt16? status = some forwarding.status := by
  unfold Forwarding.read Forwarding.read? at read
  split at read
  · next found described =>
    obtain rfl := Except.ok.inj read
    split at described
    · next source target priority status cut =>
      simp only [Option.bind_eq_bind, Option.bind_eq_some_iff, Option.pure_def,
        Option.some.injEq] at described
      obtain ⟨number, first, code, second, rfl⟩ := described
      refine ⟨priority, status, ?_, first, second⟩
      rw [cut, String.toList_ofList, String.toList_ofList]
    · cases described
  · cases read

/-- A payload of a page rule is spelled out anew as it was if that is how it was written. -/
theorem Forwarding.payload_eq_iff_of_read {forwarding : Forwarding}
    (read : Forwarding.read text = .ok forwarding) :
    forwarding.payload = text ↔ IsSpelledOut .pageRule text := by
  obtain ⟨priority, status, cut, first, second⟩ := Forwarding.parts_eq_of_read read
  have part {piece : List Char} (member : piece ∈ [forwarding.source.toList,
      forwarding.target.toList, Nat.toDigits 10 forwarding.priority.toNat,
      Nat.toDigits 10 forwarding.status.toNat]) : IsPart piece := by
    simp only [List.mem_cons, List.not_mem_nil, or_false] at member
    rcases member with rfl | rfl | rfl | rfl
    · exact isPart_of_mem_parts (cut ▸ List.mem_cons_self)
    · exact isPart_of_mem_parts (cut ▸ List.mem_cons_of_mem _ List.mem_cons_self)
    · exact isPart_toDigits _
    · exact isPart_toDigits _
  rw [← String.toList_inj, forwarding.toList_payload, eq_comm,
    toList_eq_intercalate_iff (fun piece member => (part member).bare) (List.cons_ne_nil _ _)]
  apply Iff.intro
  · intro pieces
    have trimmed : ∀ piece ∈ text.toList.splitOn ',', trim piece = piece := fun piece member =>
      (part (pieces ▸ member)).trimmed
    refine ⟨trimmed, fun _ number member => ?_⟩
    rw [← splitOn_eq_parts_iff.2 trimmed, pieces] at member
    simp only [List.drop_succ_cons, List.drop_zero, List.mem_cons, List.not_mem_nil, or_false]
      at member
    exact member.elim (fun own => ⟨_, own⟩) fun own => ⟨_, own⟩
  · intro spelled
    have plain := spelled.plain rfl
    rw [cut] at plain
    obtain ⟨n, rfl⟩ := plain priority List.mem_cons_self
    obtain ⟨m, rfl⟩ := plain status (List.mem_cons_of_mem _ List.mem_cons_self)
    rw [splitOn_eq_parts_iff.2 spelled.trimmed, cut, eq_toNat_of_readUInt32? first,
      eq_toNat_of_readUInt16? second]

/-- The payload that spells the parts of a worker route out. -/
def WorkerRoute.payload (route : WorkerRoute) : String :=
  route.pattern ++ "," ++ route.script

theorem WorkerRoute.parts_eq_of_read {route : WorkerRoute}
    (read : WorkerRoute.read text = .ok route) :
    parts text = [route.pattern.toList, route.script.toList] := by
  unfold WorkerRoute.read at read
  split at read
  · next c pattern script cut =>
    obtain rfl := Except.ok.inj read
    rw [cut, String.toList_ofList, String.toList_ofList]
  · cases read

theorem WorkerRoute.payload_eq_iff_of_read {route : WorkerRoute}
    (read : WorkerRoute.read text = .ok route) :
    route.payload = text ↔ IsSpelledOut .workerRoute text := by
  have cut := WorkerRoute.parts_eq_of_read read
  have whole : route.payload.toList = [','].intercalate (parts text) := by
    simp [WorkerRoute.payload, cut, List.intercalate]
  rw [← String.toList_inj, whole, eq_comm,
    toList_eq_intercalate_iff (fun piece member => (isPart_of_mem_parts member).bare)
      (cut ▸ List.cons_ne_nil _ _), splitOn_eq_parts_iff]
  exact ⟨fun trimmed => ⟨trimmed, nofun⟩, IsSpelledOut.trimmed⟩

/-! ## What is observed -/

/-- The type is that of page rules or of worker routes. -/
def IsRuleOrRoute (type : RecordType) : Prop :=
  type = .pageRule ∨ type = .workerRoute

theorem IsRuleOrRoute.isPseudo {type : RecordType} (kind : IsRuleOrRoute type) :
    type.isPseudo = true := by
  rcases kind with rfl | rfl <;> rfl

theorem IsRuleOrRoute.isRedirect {type : RecordType} (kind : IsRuleOrRoute type) :
    isRedirect type = false := by
  rcases kind with rfl | rfl <;> rfl

variable {options : Options} {zone desired : Zone} {record form : Record} {forms : List Record}

/-- The payload of a pseudo-type is a text. -/
theorem payload_eq_encoded (fits : form.payload.fits form.type = true)
    (pseudo : form.type.isPseudo = true) : form.payload = .encoded form.payload.print := by
  cases kind : form.payload with
  | encoded text => rfl
  | _ =>
      rw [kind] at fits
      rw [beq_iff_eq.1 fits] at pseudo
      cases pseudo

theorem wantsProxy_of_isPseudo (pseudo : form.type.isPseudo = true) : wantsProxy form = false := by
  rw [wantsProxy, isProxiable_of_isPseudo pseudo, Bool.false_and]

/-- What is observed of a rule or a route that can be read. -/
theorem exists_served (name : String) (kind : IsRuleOrRoute form.type)
    (managed : IsManaged options form) :
    ∃ text ref, served? name form =
        some { Record.pseudo apexLabel form.type text with ttl := autoTtl, ref } ∧
      ',' ∈ text.toList ∧
      (text = form.payload.print ↔ IsSpelledOut form.type form.payload.print) := by
  rcases kind with rule | route
  · obtain ⟨-, forwarding, read⟩ := managed.pageRule rule
    refine ⟨forwarding.payload, forwarding.observed.ref, ?_, ?_, ?_⟩
    · rw [served?_of_pageRule rule read, rule]
      rfl
    · rw [forwarding.toList_payload]
      simp [List.intercalate]
    · rw [rule]
      exact Forwarding.payload_eq_iff_of_read read
  · obtain ⟨-, script, read⟩ := managed.workerRoute route
    refine ⟨script.payload, { script with id := "" }.toRecord.ref, ?_, ?_, ?_⟩
    · rw [served?_of_workerRoute route read, route]
      rfl
    · simp [WorkerRoute.payload]
    · rw [route]
      exact WorkerRoute.payload_eq_iff_of_read read

/-- A rule or a route has the key of what is observed of it if it is one of the zone itself and
was written as it is spelled out. -/
theorem exists_found (zone : Zone) (kind : IsRuleOrRoute form.type)
    (managed : IsManaged options form) (fits : form.payload.fits form.type = true)
    (ttl : form.ttl = autoTtl) :
    ∃ observed found, served? zone.name form = some observed ∧
      (Origin.ofZone zone).record observed = .ok found ∧
      (found.key = form.key ↔
        form.label = apexLabel ∧ IsSpelledOut form.type form.payload.print) ∧
      (found.key = form.key → ∀ client : Client, InSync client found form) := by
  obtain ⟨text, ref, served, several, spelled⟩ := exists_served zone.name kind managed
  have several_values : form.type.isMultiValue = true := by
    rcases kind with rule | route
    · rw [rule]
      rfl
    · rw [route]
      rfl
  have key_iff : (⟨apexLabel, form.type, some text⟩ : RecordKey) = form.key ↔
      form.label = apexLabel ∧ text = form.payload.print := by
    rw [Record.key, several_values, if_pos rfl, RecordKey.mk.injEq, Option.some.injEq,
      eq_comm (a := apexLabel)]
    simp
  have own_key : Record.key { Record.pseudo apexLabel form.type text with ttl := autoTtl, ref } =
      ⟨apexLabel, form.type, some text⟩ := by
    simp only [Record.key, Record.pseudo, several_values]
    rfl
  refine ⟨_, _, served, record_observed _ _ kind.isPseudo several ref, ?_, ?_⟩
  · rw [own_key, key_iff, spelled]
  · intro same client
    rw [own_key, key_iff] at same
    obtain ⟨label, rfl⟩ := same
    refine inSync_of_agree fits label.symm rfl (payload_eq_encoded fits kind.isPseudo).symm ttl.symm
      ?_
    rw [wantsProxy_of_isPseudo kind.isPseudo, wantsProxy_of_isPseudo]
    exact kind.isPseudo

/-- What becomes of a rule or a route that is asked for. -/
theorem exists_form_of_authored (adapted : (adaptZone options zone).2 = .ok desired)
    (normal : RecordSet.normalize (Origin.ofZone desired) desired.records = .ok forms)
    (authored : record ∈ zone.records) (kind : IsRuleOrRoute record.type)
    (fits : record.payload.fits record.type = true) :
    ∃ form ∈ forms, form.type = record.type ∧ form.payload = record.payload ∧
      form.ttl = autoTtl ∧ IsManaged options form ∧
      (Origin.ofZone zone).label record.label.toList = .ok form.label.toList := by
  obtain ⟨features, proxyDefault, records, setting, found, rfl⟩ := exists_of_adaptZone adapted
  have kept : record ∈ keptRecords zone := by
    refine List.mem_filter.2 ⟨authored, ?_⟩
    have other : (record.type == .ns) = false := by
      rcases kind with rule | route
      · rw [rule]
        rfl
      · rw [route]
        rfl
    rw [isApexNs, other, Bool.and_false]
    rfl
  obtain ⟨placed, made, stays⟩ := exists_mem_adaptRecords found kept
  have resolved : isRedirect placed.type = false :=
    (isRedirect_of_adaptRecord made).trans kind.isRedirect
  have unplaced : ∀ metadata ttl, placed = placeAlias zone.name { record with metadata, ttl } →
      placeAlias zone.name { record with metadata, ttl } = { record with metadata, ttl } := by
    intro metadata ttl _
    have text := payload_eq_encoded fits kind.isPseudo
    generalize record.payload.print = written at text
    simp only [placeAlias, text]
  obtain ⟨label, type, payload⟩ := sameData_of_adaptRecord made unplaced
  have settled := isAdapted_of_adaptRecord fits (isProxySetting_of_zoneSetting setting) made resolved
  have pseudo : placed.type.isPseudo = true := type ▸ kind.isPseudo
  obtain ⟨form, member, own⟩ := RecordSet.exists_mem_normalize normal (stays resolved)
  have same_type := Origin.type_of_record own
  have same_payload := payload_of_record_of_isPseudo own pseudo
  have labelled := Origin.label_of_record own
  rw [label] at labelled
  refine ⟨form, member, same_type.trans type, same_payload.trans payload, ?_, ?_, labelled⟩
  · have automatic := settled.automatic (Or.inl pseudo)
    obtain ⟨-, canonical, data, -, -, rfl⟩ := Origin.record_eq_ok_iff.1 own
    simp only [automatic]
    rfl
  · have managed := settled.managed
    exact ⟨same_type ▸ managed.redirect, same_type ▸ same_payload ▸ managed.pageRule,
      same_type ▸ same_payload ▸ managed.workerRoute⟩

/-- A page rule or a worker route that is asked for has the key of what is observed of it, when it
is served as it was sent, if and only if its label is that of the zone itself and its payload is
written as it is spelled out. Then the two are in sync. -/
theorem authored_rule_by_spelling {options : Options} {zone desired : Zone} {record : Record}
    {forms : List Record} (adapted : (adaptZone options zone).2 = .ok desired)
    (normal : RecordSet.normalize (Origin.ofZone desired) desired.records = .ok forms)
    (authored : record ∈ zone.records)
    (kind : record.type = .pageRule ∨ record.type = .workerRoute)
    (fits : record.payload.fits record.type = true) :
    ∃ form ∈ forms, form.type = record.type ∧ form.payload = record.payload ∧
      (Origin.ofZone zone).label record.label.toList = .ok form.label.toList ∧
      ∃ observed found, served? zone.name form = some observed ∧
        (Origin.ofZone zone).record observed = .ok found ∧
        (found.key = form.key ↔
          form.label = apexLabel ∧ IsSpelledOut record.type record.payload.print) ∧
        (found.key = form.key → ∀ client : Client, InSync client found form) := by
  obtain ⟨form, member, type, payload, ttl, managed, labelled⟩ :=
    exists_form_of_authored adapted normal authored kind fits
  obtain ⟨observed, found, served, own, same_key, in_sync⟩ :=
    exists_found zone (type ▸ kind) managed (type ▸ payload ▸ fits) ttl
  rw [type, payload] at same_key
  exact ⟨form, member, type, payload, labelled, observed, found, served, own, same_key, in_sync⟩

/-- A route under the full name of the zone, written as it is spelled out. -/
theorem authored_rule_by_spelling_of_route :
    let options : Options := { manageRedirects := true, manageWorkers := true }
    let route : Record := .pseudo "Example.com." .workerRoute "example.com/*,site"
    let zone : Zone := { name := "example.com", records := [route] }
    ∃ desired forms, (adaptZone options zone).2 = .ok desired ∧
      RecordSet.normalize (Origin.ofZone desired) desired.records = .ok forms ∧
      route ∈ zone.records ∧ (route.type = .pageRule ∨ route.type = .workerRoute) ∧
      route.payload.fits route.type = true ∧
      ∃ form ∈ forms, form.label = apexLabel ∧ form.payload = route.payload ∧
        ∃ observed found, served? zone.name form = some observed ∧
          (Origin.ofZone zone).record observed = .ok found ∧
          ∀ client : Client, InSync client found form := by
  intro options route zone
  obtain ⟨desired, adapted, listed⟩ := exists_eq_ok_of_map
    (show (adaptZone options zone).2.toOption.map (fun desired =>
        (RecordSet.normalize (Origin.ofZone desired) desired.records).toOption.map
          (·.map Record.label)) = some (some [apexLabel]) by decide)
  obtain ⟨forms, normal, labels⟩ := exists_eq_ok_of_map listed
  obtain ⟨form, member, -, payload, -, observed, found, served, own, same, in_sync⟩ :=
    authored_rule_by_spelling adapted normal (List.mem_singleton_self route) (Or.inr rfl) rfl
  have label : form.label = apexLabel :=
    List.mem_singleton.1 (labels ▸ List.mem_map_of_mem member)
  have spelled : IsSpelledOut route.type route.payload.print := ⟨by decide, nofun⟩
  exact ⟨desired, forms, adapted, normal, List.mem_singleton_self route, Or.inr rfl, rfl, form,
    member, label, payload, observed, found, served, own, in_sync (same.2 ⟨label, spelled⟩)⟩

/-- Not every rule that is asked for is in sync with what is observed of it: a blank behind a comma
is enough. -/
theorem authored_rules_not_in_sync :
    ¬ ∀ (options : Options) (zone desired : Zone) (forms : List Record)
        (form observed found : Record),
      (adaptZone options zone).2 = .ok desired →
        RecordSet.normalize (Origin.ofZone desired) desired.records = .ok forms →
          form ∈ forms → (form.type = .pageRule ∨ form.type = .workerRoute) →
            served? zone.name form = some observed →
              (Origin.ofZone zone).record observed = .ok found → found.key = form.key := by
  intro claimed
  let options : Options := { manageRedirects := true, manageWorkers := true }
  let rule : Record :=
    .pseudo "@" .pageRule "example.com/*, https://www.example.com/$1, 1, 301"
  let zone : Zone := { name := "example.com", records := [rule] }
  obtain ⟨desired, adapted, listed⟩ := exists_eq_ok_of_map
    (show (adaptZone options zone).2.toOption.map (fun desired =>
        (RecordSet.normalize (Origin.ofZone desired) desired.records).toOption.map
          (·.map Record.label)) = some (some [apexLabel]) by decide)
  obtain ⟨forms, normal, -⟩ := exists_eq_ok_of_map listed
  obtain ⟨form, member, type, payload, ttl, managed, -⟩ := exists_form_of_authored adapted normal
    (List.mem_singleton_self rule) (Or.inl rfl) rfl
  have kind : IsRuleOrRoute form.type := Or.inl type
  have fits : form.payload.fits form.type = true := by
    rw [payload, type]
    rfl
  obtain ⟨observed, found, served, own, same, -⟩ := exists_found zone kind managed fits ttl
  obtain ⟨-, spelled⟩ := same.1 (claimed options zone desired forms form observed found adapted
    normal member kind served own)
  rw [payload] at spelled
  have blank : ¬ ∀ piece ∈ rule.payload.print.toList.splitOn ',', trim piece = piece := by
    decide
  exact blank spelled.trimmed

end DnsReconcile.Cloudflare
