/-
# Records that Cloudflare has adapted

What can be relied on once a desired zone has been adapted, whatever mixture of records it had.
Every record has a TTL that Cloudflare keeps and a proxy setting that is spelled out if and only if
it has one at all; rules and routes are there only if they are managed and can be read. No step
that adapts a record undoes what another has achieved: the TTL depends on the proxy setting that
the record ends up with, and placing an alias leads from one type that can be proxied to another.
-/

import DnsReconcile.Proofs.Cloudflare.DesiredZones

namespace DnsReconcile.Cloudflare

variable {options : Options} {zone proxyDefault setting : String} {defaultTtl : UInt32}
variable {record adapted : Record} {records listed : List Record} {metadata : Dict String}

/-! ## Kinds -/

/-- Redirects, rules and routes are records only if they are managed, and a rule or a route has a
payload that can be read. -/
structure IsManaged (options : Options) (record : Record) : Prop where
  redirect : isRedirect record.type = true → options.manageRedirects = true
  pageRule : record.type = .pageRule → options.manageRedirects = true ∧
    ∃ forwarding, Forwarding.read record.payload.print = .ok forwarding
  workerRoute : record.type = .workerRoute → options.manageWorkers = true ∧
    ∃ route, WorkerRoute.read record.payload.print = .ok route

theorem requireManaged_eq_ok_iff {managed : Bool} {option : String} :
    requireManaged managed option record = .ok () ↔ managed = true := by
  cases managed <;> simp [requireManaged, Record.refuse]

theorem checkKind_eq_ok_iff : checkKind options record = .ok () ↔ IsManaged options record := by
  unfold checkKind
  split
  · next type =>
    rw [requireManaged_eq_ok_iff]
    exact ⟨fun managed => ⟨fun _ => managed, by simp [type], by simp [type]⟩,
      fun kind => kind.redirect (by rw [type]; rfl)⟩
  · next type =>
    rw [requireManaged_eq_ok_iff]
    exact ⟨fun managed => ⟨fun _ => managed, by simp [type], by simp [type]⟩,
      fun kind => kind.redirect (by rw [type]; rfl)⟩
  · next type =>
    rw [check_bind_eq_ok_iff, requireManaged_eq_ok_iff, bind_eq_ok_iff]
    simp only [pure_eq_ok_iff, and_true]
    exact ⟨fun both => ⟨by simp [type, isRedirect], fun _ => both, by simp [type]⟩,
      fun kind => kind.pageRule type⟩
  · next type =>
    rw [check_bind_eq_ok_iff, requireManaged_eq_ok_iff, bind_eq_ok_iff]
    simp only [pure_eq_ok_iff, and_true]
    exact ⟨fun both => ⟨by simp [type, isRedirect], by simp [type], fun _ => both⟩,
      fun kind => kind.workerRoute type⟩
  · next redirect tempRedirect pageRule workerRoute =>
    refine iff_of_true rfl ⟨fun other => ?_, fun other => absurd other pageRule,
      fun other => absurd other workerRoute⟩
    unfold isRedirect at other
    split at other
    · next type => exact absurd type redirect
    · next type => exact absurd type tempRedirect
    · cases other

/-! ## Proxy settings and TTLs -/

/-- A proxy setting as it is spelled. -/
def IsProxySetting (setting : String) : Prop :=
  setting = "on" ∨ setting = "off" ∨ setting = "full"

theorem isProxySetting_of_readProxy {text : String} (read : readProxy text = .ok setting) :
    IsProxySetting setting := by
  unfold readProxy at read
  dsimp only at read
  split at read
  · next valid => exact Except.ok.inj read ▸ valid
  · cases read

/-- The proxy setting of records without one is a proxy setting. -/
theorem isProxySetting_of_zoneSetting {zone : Zone}
    (found : zoneSetting zone proxyDefaultKey readProxy "off" = .ok proxyDefault) :
    IsProxySetting proxyDefault := by
  unfold zoneSetting at found
  split at found
  · exact Or.inr (Or.inl (Except.ok.inj found).symm)
  · next text _ =>
    cases read : readProxy text with
    | error reason =>
        rw [read] at found
        cases found
    | ok setting =>
        rw [read] at found
        exact Except.ok.inj found ▸ isProxySetting_of_readProxy read

/-- Records that can be proxied have a proxy setting. -/
theorem exists_setting_of_proxyMetadata (valid : IsProxySetting proxyDefault)
    (proxiable : isProxiable record.type = true)
    (found : proxyMetadata proxyDefault record = .ok metadata) :
    ∃ setting, IsProxySetting setting ∧ metadata.get? proxyKey = some setting := by
  simp only [proxyMetadata, proxiable] at found
  cases given : record.metadata.get? proxyKey with
  | none =>
      rw [given] at found
      refine ⟨proxyDefault, valid, ?_⟩
      rw [← Except.ok.inj found, Dict.get?_insert, if_pos rfl]
  | some text =>
      rw [given] at found
      dsimp only at found
      split at found
      · next setting read =>
        refine ⟨setting, isProxySetting_of_readProxy read, ?_⟩
        rw [← Except.ok.inj found, Dict.get?_insert, if_pos rfl]
      · cases found

/-- No other records do. -/
theorem get?_proxyMetadata_of_not_isProxiable (unproxiable : isProxiable record.type = false)
    (found : proxyMetadata proxyDefault record = .ok metadata) :
    metadata.get? proxyKey = none := by
  simp only [proxyMetadata, unproxiable] at found
  cases given : record.metadata.get? proxyKey with
  | none =>
      rw [given] at found
      exact Except.ok.inj found ▸ given
  | some setting =>
      rw [given] at found
      dsimp only at found
      split at found
      · rw [← Except.ok.inj found, Dict.get?_erase, if_pos rfl]
      · cases found

theorem clampTtl_accepted (ttl : UInt32) : clampTtl ttl = autoTtl ∨ minimalTtl ≤ clampTtl ttl := by
  unfold clampTtl
  split
  · exact Or.inl rfl
  · split
    · exact Or.inr (UInt32.le_refl _)
    · next large => exact Or.inr (UInt32.not_lt.1 large)

theorem ttlOf_accepted (defaultTtl : UInt32) (record : Record) :
    ttlOf defaultTtl record = autoTtl ∨ minimalTtl ≤ ttlOf defaultTtl record := by
  unfold ttlOf
  split
  · exact Or.inl rfl
  · exact clampTtl_accepted _

/-! ## Aliases -/

/-- A record at the same label that points at the same name, whatever its type. -/
structure SameText (record other : Record) : Prop where
  label : other.label = record.label
  target : other.payload.target? = record.payload.target?
  text : other.payload.print = record.payload.print

/-- Placing an alias changes the type and how the payload is marked, nothing else. -/
theorem placeAlias_eq (zone : String) (record : Record) :
    ∃ type payload, placeAlias zone record = { record with type, payload } ∧
      payload.target? = record.payload.target? ∧ payload.print = record.payload.print := by
  cases paid : record.payload with
  | cname target =>
      simp only [placeAlias, paid]
      split
      · exact ⟨_, _, rfl, rfl, rfl⟩
      · exact ⟨record.type, .cname target, by rw [← paid], rfl, rfl⟩
  | aliased target =>
      simp only [placeAlias, paid]
      split
      · exact ⟨record.type, .aliased target, by rw [← paid], rfl, rfl⟩
      · exact ⟨_, _, rfl, rfl, rfl⟩
  | _ =>
      simp only [placeAlias, paid]
      exact ⟨record.type, record.payload, rfl, by rw [paid], by rw [paid]⟩

/-- A type that is not that of an alias or a CNAME was not brought about by placing an alias. -/
theorem placeAlias_eq_self (apart : isProxiable (placeAlias zone record).type = false) :
    placeAlias zone record = record := by
  rcases placeAlias_cases zone record with stays | aliased | cname
  · exact stays
  · rw [aliased] at apart
    cases apart
  · rw [cname] at apart
    cases apart

/-- Placing an alias does not change whether a record can be proxied, if its payload fits. -/
theorem isProxiable_placeAlias (fits : record.payload.fits record.type = true) :
    isProxiable (placeAlias zone record).type = isProxiable record.type := by
  cases paid : record.payload with
  | cname target =>
      rw [paid] at fits
      have type : record.type = .cname := beq_iff_eq.1 fits
      simp only [placeAlias, paid]
      split
      · rw [type]
        rfl
      · rfl
  | aliased target =>
      rw [paid] at fits
      have type : record.type = .aliased := beq_iff_eq.1 fits
      simp only [placeAlias, paid]
      split
      · rfl
      · rw [type]
        rfl
  | _ => simp only [placeAlias, paid]

/-! ## Single records -/

theorem isProxiable_of_isPseudo {type : RecordType} (pseudo : type.isPseudo = true) :
    isProxiable type = false := by
  cases type <;> first | rfl | cases pseudo

theorem isPseudo_of_isRedirect {type : RecordType} (redirect : isRedirect type = true) :
    type.isPseudo = true := by
  cases type <;> first | rfl | cases redirect

theorem sameText_of_adaptRecord
    (found : adaptRecord options zone proxyDefault defaultTtl record = .ok adapted) :
    SameText record adapted := by
  rcases (adaptRecord_eq_ok_iff.1 found).2 with ⟨-, rfl⟩ | ⟨-, metadata, -, rfl⟩
  · exact ⟨rfl, rfl, rfl⟩
  · obtain ⟨type, payload, placed, target, text⟩ := placeAlias_eq zone
      { record with metadata, ttl := ttlOf defaultTtl { record with metadata } }
    rw [placed]
    exact ⟨rfl, target, text⟩

/-- Redirects stay, and nothing else becomes one. -/
theorem isRedirect_of_adaptRecord
    (found : adaptRecord options zone proxyDefault defaultTtl record = .ok adapted) :
    isRedirect adapted.type = isRedirect record.type := by
  rcases (adaptRecord_eq_ok_iff.1 found).2 with ⟨-, rfl⟩ | ⟨other, metadata, -, rfl⟩
  · rfl
  · rw [other, ← Bool.not_eq_true]
    intro redirect
    have stays := placeAlias_eq_self
      (isProxiable_of_isPseudo (isPseudo_of_isRedirect redirect))
    rw [stays, other] at redirect
    cases redirect

/-- Whatever a record becomes is managed if need be, and can be read. -/
theorem isManaged_of_adaptRecord
    (found : adaptRecord options zone proxyDefault defaultTtl record = .ok adapted) :
    IsManaged options adapted := by
  obtain ⟨checked, result⟩ := adaptRecord_eq_ok_iff.1 found
  have kind := checkKind_eq_ok_iff.1 checked
  rcases result with ⟨-, rfl⟩ | ⟨-, metadata, -, rfl⟩
  · exact kind
  · by_cases apart : isProxiable (placeAlias zone
        { record with metadata, ttl := ttlOf defaultTtl { record with metadata } }).type = false
    · rw [placeAlias_eq_self apart]
      exact ⟨kind.redirect, kind.pageRule, kind.workerRoute⟩
    · refine ⟨fun other => ?_, fun other => ?_, fun other => ?_⟩
      · exact absurd (isProxiable_of_isPseudo (isPseudo_of_isRedirect other)) apart
      · exact absurd (isProxiable_of_isPseudo (other ▸ rfl)) apart
      · exact absurd (isProxiable_of_isPseudo (other ▸ rfl)) apart

/-- What holds of every record that Cloudflare has adapted. -/
structure IsAdapted (options : Options) (record : Record) : Prop where
  accepted : record.ttl = autoTtl ∨ minimalTtl ≤ record.ttl
  automatic : (record.type.isPseudo = true ∨
      ∃ setting, record.metadata.get? proxyKey = some setting ∧ setting ≠ "off") →
    record.ttl = autoTtl
  proxied : isProxiable record.type = true →
    ∃ setting, IsProxySetting setting ∧ record.metadata.get? proxyKey = some setting
  unproxied : isProxiable record.type = false → record.metadata.get? proxyKey = none
  resolved : isRedirect record.type = false
  managed : IsManaged options record

theorem isAdapted_of_adaptRecord (fits : record.payload.fits record.type = true)
    (valid : IsProxySetting proxyDefault)
    (found : adaptRecord options zone proxyDefault defaultTtl record = .ok adapted)
    (other : isRedirect adapted.type = false) : IsAdapted options adapted := by
  have managed := isManaged_of_adaptRecord found
  obtain ⟨checked, ⟨redirect, rfl⟩ | ⟨-, metadata, given, rfl⟩⟩ := adaptRecord_eq_ok_iff.1 found
  · rw [other] at redirect
    cases redirect
  · let marked : Record := { record with metadata, ttl := ttlOf defaultTtl { record with metadata } }
    have same_kind : isProxiable (placeAlias zone marked).type = isProxiable record.type :=
      isProxiable_placeAlias fits
    obtain ⟨type, payload, placed, -, -⟩ := placeAlias_eq zone marked
    have same_ttl : (placeAlias zone marked).ttl = marked.ttl := by rw [placed]
    have same_metadata : (placeAlias zone marked).metadata = metadata := by rw [placed]
    refine ⟨?_, ?_, ?_, ?_, other, managed⟩
    · rw [same_ttl]
      exact ttlOf_accepted _ _
    · rw [same_ttl, same_metadata]
      intro asked
      apply if_pos
      rw [Bool.or_eq_true]
      rcases asked with pseudo | ⟨setting, found, on⟩
      · have stays := placeAlias_eq_self (isProxiable_of_isPseudo pseudo)
        rw [stays] at pseudo
        exact Or.inr pseudo
      · have proxiable : isProxiable record.type = true := by
          by_contra unproxiable
          rw [get?_proxyMetadata_of_not_isProxiable (Bool.not_eq_true _ ▸ unproxiable) given]
            at found
          cases found
        left
        simp [wantsProxy, proxiable, found, on]
    · rw [same_kind, same_metadata]
      exact fun proxiable => exists_setting_of_proxyMetadata valid proxiable given
    · rw [same_kind, same_metadata]
      exact fun unproxiable => get?_proxyMetadata_of_not_isProxiable unproxiable given

/-- The rule for a redirect, where redirects are managed. -/
theorem IsRedirectRule.isAdapted {rule : Record} (made : IsRedirectRule rule)
    (managed : options.manageRedirects = true) : IsAdapted options rule where
  accepted := Or.inl made.ttl
  automatic _ := made.ttl
  proxied proxiable := by
    rw [made.type] at proxiable
    cases proxiable
  unproxied _ := by
    rw [made.metadata]
    rfl
  resolved := by
    rw [made.type]
    rfl
  managed := ⟨fun _ => managed, fun _ => ⟨managed, made.described⟩, fun other => by
    rw [made.type] at other
    cases other⟩

/-! ## Zones -/

/-- Whatever comes out was made of a record or is the rule for a redirect. -/
theorem source_of_mem_adaptRecords
    (found : adaptRecords options zone proxyDefault defaultTtl records = .ok listed)
    (member : adapted ∈ listed) :
    (isRedirect adapted.type = false ∧ ∃ record ∈ records,
        adaptRecord options zone proxyDefault defaultTtl record = .ok adapted) ∨
      options.manageRedirects = true ∧ IsRedirectRule adapted := by
  obtain ⟨placed, rules, each, ruled, rfl⟩ := adaptRecords_eq_ok_iff.1 found
  cases List.mem_append.1 member with
  | inl stays =>
      obtain ⟨kept, other⟩ := List.mem_filter.1 stays
      exact Or.inl ⟨Bool.not_eq_true' _ ▸ other, (mem_mapM_iff each).1 kept⟩
  | inr rule =>
      obtain ⟨⟨redirect, place⟩, member, made⟩ := (mem_mapM_iff ruled).1 rule
      -- The redirect had to be managed to come this far.
      obtain ⟨kept, kind⟩ :=
        List.mem_filter.1 (List.mem_reverse.1 (List.fst_mem_of_mem_zipIdx member))
      obtain ⟨record, -, own⟩ := (mem_mapM_iff each).1 kept
      exact Or.inr ⟨(isManaged_of_adaptRecord own).redirect kind,
        isRedirectRule_of_ruleOfRedirect made⟩

/-- The redirects among some records. -/
def redirectsOf (records : List Record) : List Record :=
  records.filter fun record => isRedirect record.type

theorem redirectsOf_append (records others : List Record) :
    redirectsOf (records ++ others) = redirectsOf records ++ redirectsOf others :=
  List.filter_append _ _

theorem redirectsOf_cons (redirect : isRedirect record.type = true) (others : List Record) :
    redirectsOf (record :: others) = record :: redirectsOf others :=
  List.filter_cons_of_pos redirect

/-- Adapting records leaves the redirects among them as they are. -/
theorem redirectsOf_of_mapM {placed : List Record}
    (each : records.mapM (adaptRecord options zone proxyDefault defaultTtl) = .ok placed) :
    redirectsOf placed = redirectsOf records := by
  have steps := mapM_eq_ok_iff.1 each
  clear each
  unfold redirectsOf
  induction steps with
  | nil => rfl
  | @cons record adapted records placed own _ ih =>
      have same := isRedirect_of_adaptRecord own
      rw [List.filter_cons, List.filter_cons, same, ih]
      rcases (adaptRecord_eq_ok_iff.1 own).2 with ⟨-, rfl⟩ | ⟨other, -⟩
      · rfl
      · rw [other]
        rfl

/-- Records that are not redirects keep their places, and the rules for those that are follow. -/
theorem exists_rules_of_adaptRecords
    (found : adaptRecords options zone proxyDefault defaultTtl records = .ok listed) :
    ∃ placed rules, listed = placed ++ rules ∧
      List.Forall₂ SameText (records.filter fun record => !isRedirect record.type) placed ∧
      rulesOfRedirects (redirectsOf records) = .ok rules := by
  obtain ⟨placed, rules, each, ruled, rfl⟩ := adaptRecords_eq_ok_iff.1 found
  have kept ⦃record adapted : Record⦄
      (own : adaptRecord options zone proxyDefault defaultTtl record = .ok adapted) :
      (!isRedirect record.type) = true ↔ (!isRedirect adapted.type) = true := by
    rw [isRedirect_of_adaptRecord own]
  rw [← redirectsOf, redirectsOf_of_mapM each] at ruled
  refine ⟨_, rules, rfl, ?_, ruled⟩
  exact (List.rel_filter kept (mapM_eq_ok_iff.1 each)).imp fun _ _ own =>
    sameText_of_adaptRecord own

/-- What can be relied on in a zone that Cloudflare has adapted. -/
structure Adapts (options : Options) (zone desired : Zone) : Prop where
  each : ∀ record ∈ desired.records, IsAdapted options record
  /-- The records that are not redirects come first, each at its place; the rules for redirects
  follow. -/
  front : ∃ placed rules, desired.records = placed ++ rules ∧
    List.Forall₂ SameText
      (zone.records.filter fun record => !isRedirect record.type && !isApexNs record) placed ∧
    ∀ rule ∈ rules, IsRedirectRule rule
  name : desired.name = zone.name
  provider : desired.provider = zone.provider
  purge : desired.purge = zone.purge
  default_ttl : desired.defaultTtl = zone.defaultTtl
  ignore_labels : desired.ignoreLabels = zone.ignoreLabels
  ignore_targets : desired.ignoreTargets = zone.ignoreTargets

/-- Adapting a zone whose payloads fit their types, if it succeeds, brings about all that the
later stages rely on, and leaves order, labels, targets and policy as they are. -/
theorem adapts_of_adaptZone {zone desired : Zone}
    (fits : ∀ record ∈ zone.records, record.payload.fits record.type = true)
    (found : (adaptZone options zone).2 = .ok desired) : Adapts options zone desired := by
  obtain ⟨features, proxyDefault, records, setting, adapted, rfl⟩ := exists_of_adaptZone found
  have valid := isProxySetting_of_zoneSetting setting
  refine ⟨fun record member => ?_, ?_, rfl, rfl, rfl, rfl, rfl, rfl⟩
  · rcases source_of_mem_adaptRecords adapted member with
      ⟨other, source, kept, own⟩ | ⟨managed, rule⟩
    · exact isAdapted_of_adaptRecord (fits source (List.mem_of_mem_filter kept)) valid own other
    · exact rule.isAdapted managed
  · obtain ⟨placed, rules, whole, same, ruled⟩ := exists_rules_of_adaptRecords adapted
    rw [keptRecords, List.filter_filter] at same
    exact ⟨placed, rules, whole, same, fun rule member =>
      isRedirectRule_of_rulesOfRedirects ruled member⟩

/-- A redirect, a name server and an alias of the zone itself, and TTLs of every sort. -/
theorem adapts_of_adaptZone_of_mixed_zone :
    let options : Options := { manageRedirects := true, manageWorkers := true }
    let zone : Zone := {
      name := "example.com"
      metadata := Dict.empty.insert proxyDefaultKey "Full"
      records := [
        .pseudo "@" .tempRedirect "old.example.com/* , https://example.com/$1",
        { Record.ofPayload "www" (.a ⟨192, 0, 2, 1⟩) with
          ttl := 600, metadata := Dict.empty.insert proxyKey " OFF " },
        .ofPayload "@" (.ns "ns.example.net."),
        { Record.ofPayload "example.com." (.cname "host.example.net.") with ttl := 600 },
        { Record.ofPayload "mail" (.txt ["short"]) with
          ttl := 60, metadata := Dict.empty.insert proxyKey "off" },
        .pseudo "@" .workerRoute "example.com/*, site"] }
    (∀ record ∈ zone.records, record.payload.fits record.type = true) ∧
      ∃ desired, (adaptZone options zone).2 = .ok desired ∧
        desired.records.map (fun record =>
            (record.label, record.payload, record.ttl, record.metadata.get? proxyKey)) =
          [("www", .a ⟨192, 0, 2, 1⟩, 600, some "off"),
            ("example.com.", .aliased "host.example.net.", 1, some "full"),
            ("mail", .txt ["short"], 120, none),
            ("@", .encoded "example.com/*, site", 1, none),
            ("@", .encoded "old.example.com/*,https://example.com/$1,1,302", 1, none)] ∧
        Adapts options zone desired := by
  intro options zone
  have fits : ∀ record ∈ zone.records, record.payload.fits record.type = true := by decide +kernel
  obtain ⟨desired, found, seen⟩ := exists_eq_ok_of_map
    (show (adaptZone options zone).2.toOption.map (fun desired => desired.records.map
        fun record => (record.label, record.payload, record.ttl, record.metadata.get? proxyKey)) =
      some [("www", .a ⟨192, 0, 2, 1⟩, 600, some "off"),
        ("example.com.", .aliased "host.example.net.", 1, some "full"),
        ("mail", .txt ["short"], 120, none),
        ("@", .encoded "example.com/*, site", 1, none),
        ("@", .encoded "old.example.com/*,https://example.com/$1,1,302", 1, none)] by
      decide +kernel)
  exact ⟨fits, desired, found, seen, adapts_of_adaptZone fits found⟩

end DnsReconcile.Cloudflare
