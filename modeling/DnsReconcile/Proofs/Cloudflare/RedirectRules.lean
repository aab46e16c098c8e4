/-
# Page rules for redirects

The rules for redirects are numbered from the last redirect on, so what the number of a redirect
is depends only on how many come behind it. That keeps equal redirects apart, and another redirect
in front leaves all numbers as they are. The rule for a redirect spells its forwarding out, so what
is observed when Cloudflare serves the rule as it was sent is in sync with it.
-/

import DnsReconcile.Proofs.Cloudflare.AdaptedRecords
import DnsReconcile.Proofs.Cloudflare.RuleText
import DnsReconcile.Proofs.Cloudflare.WrittenRecords

namespace DnsReconcile.Cloudflare

variable {options : Options} {zone proxyDefault : String} {defaultTtl : UInt32}
variable {redirect rule : Record} {redirects others rules records placed listed : List Record}

/-! ## Numbered rules -/

/-- The record is the page rule that sends visitors where a redirect does, with a priority. -/
def IsRuleOf (redirect : Record) (priority : Nat) (rule : Record) : Prop :=
  ∃ forwarding : Forwarding, forwarding.Follows redirect ∧ forwarding.priority.toNat = priority ∧
    Forwarding.read forwarding.payload = .ok forwarding ∧
    rule = { Record.pseudo apexLabel .pageRule forwarding.payload with ttl := autoTtl }

/-- The number of a rule is part of its key. -/
theorem IsRuleOf.priority_eq {other rule' : Record} {priority priority' : Nat}
    (own : IsRuleOf redirect priority rule) (own' : IsRuleOf other priority' rule')
    (same : rule.key = rule'.key) : priority = priority' := by
  obtain ⟨forwarding, -, rfl, read, rfl⟩ := own
  obtain ⟨forwarding', -, rfl, read', rfl⟩ := own'
  have text : forwarding.payload = forwarding'.payload :=
    Option.some.inj (congrArg RecordKey.payload same)
  rw [text, read'] at read
  rw [Except.ok.inj read]

/-- The last redirect has the rule with the lowest number. -/
inductive RulesFor : List Record → List Record → Prop where
  | nil : RulesFor [] []
  | cons {redirect rule : Record} {others rules : List Record} (later : RulesFor others rules)
      (own : IsRuleOf redirect (others.length + 1) rule) :
      RulesFor (redirect :: others) (rules ++ [rule])

namespace RulesFor

theorem length_eq (numbered : RulesFor redirects rules) : rules.length = redirects.length := by
  induction numbered with
  | nil => rfl
  | cons _ _ ih =>
      rw [List.length_append, ih]
      rfl

/-- Which rule is that of which redirect. -/
theorem exists_getElem? (numbered : RulesFor redirects rules) {place : Nat}
    (there : redirects[place]? = some redirect) :
    ∃ rule, rules.reverse[place]? = some rule ∧
      IsRuleOf redirect (redirects.length - place) rule := by
  induction numbered generalizing place with
  | nil => cases there
  | @cons first rule others rules _ own ih =>
      rw [List.reverse_append, List.reverse_singleton, List.singleton_append]
      cases place with
      | zero =>
          obtain rfl := Option.some.inj there
          exact ⟨rule, rfl, own⟩
      | succ place =>
          rw [List.getElem?_cons_succ] at there ⊢
          rw [List.length_cons, Nat.add_sub_add_right]
          exact ih there

theorem exists_of_mem (numbered : RulesFor redirects rules) (member : rule ∈ rules) :
    ∃ redirect ∈ redirects, ∃ priority ≤ redirects.length, IsRuleOf redirect priority rule := by
  induction numbered with
  | nil => cases member
  | @cons first last others rules _ own ih =>
      rcases List.mem_append.1 member with earlier | last
      · obtain ⟨redirect, present, priority, small, made⟩ := ih earlier
        exact ⟨redirect, List.mem_cons_of_mem _ present, priority, Nat.le_succ_of_le small, made⟩
      · rw [List.mem_singleton.1 last]
        exact ⟨first, List.mem_cons_self, _, Nat.le_refl _, own⟩

/-- No two rules are taken for each other, whether or not redirects repeat. -/
theorem nodup_keys (numbered : RulesFor redirects rules) : (rules.map Record.key).Nodup := by
  induction numbered with
  | nil => exact .nil
  | @cons first last others rules numbered own ih =>
      rw [List.map_append, List.map_singleton, List.nodup_append]
      refine ⟨ih, List.nodup_singleton _, ?_⟩
      intro key known key' new same
      obtain ⟨rule, earlier, rfl⟩ := List.mem_map.1 known
      rw [List.mem_singleton.1 new] at same
      obtain ⟨redirect, -, priority, small, made⟩ := numbered.exists_of_mem earlier
      exact Nat.lt_irrefl _ (Nat.lt_of_le_of_lt small (made.priority_eq own same ▸ Nat.lt_succ_self _))

end RulesFor

/-! ## How rules are made -/

theorem isRuleOf_of_ruleOfRedirect {priority : Nat} (small : priority < UInt32.size)
    (made : ruleOfRedirect redirect priority.toUInt32 = .ok rule) :
    IsRuleOf redirect priority rule := by
  obtain ⟨forwarding, follows, number, read, rfl⟩ := exists_of_ruleOfRedirect made
  exact ⟨forwarding, follows, number ▸ UInt32.toNat_ofNat_of_lt small, read, rfl⟩

/-- Another redirect in front gets the next number. -/
theorem rulesOfRedirects_cons_eq_ok_iff :
    rulesOfRedirects (redirect :: others) = .ok listed ↔
      ∃ rules, rulesOfRedirects others = .ok rules ∧
        ∃ rule, ruleOfRedirect redirect (others.length + 1).toUInt32 = .ok rule ∧
          rules ++ [rule] = listed := by
  rw [rulesOfRedirects, List.reverse_cons, List.zipIdx_append, List.mapM_append, bind_eq_ok_iff]
  refine exists_congr fun rules => and_congr Iff.rfl ?_
  simp only [List.zipIdx_cons, List.zipIdx_nil, List.mapM_cons, List.mapM_nil, bind_eq_ok_iff,
    pure_eq_ok_iff, List.length_reverse, Nat.add_comm 1, exists_eq_left']
  apply Iff.intro
  · rintro ⟨-, ⟨rule, made, rfl⟩, whole⟩
    exact ⟨rule, made, whole⟩
  · rintro ⟨rule, made, whole⟩
    exact ⟨_, ⟨rule, made, rfl⟩, whole⟩

theorem rulesFor_of_rulesOfRedirects (few : redirects.length < UInt32.size)
    (found : rulesOfRedirects redirects = .ok rules) : RulesFor redirects rules := by
  induction redirects generalizing rules with
  | nil =>
      obtain rfl := Except.ok.inj found
      exact .nil
  | cons redirect others ih =>
      obtain ⟨rules, later, rule, own, rfl⟩ := rulesOfRedirects_cons_eq_ok_iff.1 found
      exact .cons (ih (Nat.lt_of_succ_lt few) later) (isRuleOf_of_ruleOfRedirect few own)

/-! ## Redirects among other records -/

theorem isApexNs_of_isRedirect {record : Record} (redirect : isRedirect record.type = true) :
    isApexNs record = false := by
  have other : (record.type == .ns) = false := by
    cases type : record.type <;> first | rfl | (rw [type] at redirect; cases redirect)
  rw [isApexNs, other, Bool.and_false]

theorem redirectsOf_keptRecords (zone : Zone) :
    redirectsOf (keptRecords zone) = redirectsOf zone.records := by
  rw [redirectsOf, keptRecords, List.filter_filter]
  refine List.filter_congr fun record _ => ?_
  cases redirect : isRedirect record.type with
  | false => rfl
  | true =>
      rw [isApexNs_of_isRedirect redirect]
      rfl

/-- A redirect has a rule if it is one that leads from one place to another. -/
structure IsValidRedirect (record : Record) : Prop where
  redirect : isRedirect record.type = true
  ends : ∃ source target, parts record.payload.print = [source, target]

/-- Another redirect, in front of all that are there, adds its rule behind all others. -/
theorem exists_adaptRecords_insert {front back : List Record} {extra : Record}
    (managed : options.manageRedirects = true) (valid : IsValidRedirect extra)
    (first : ∀ record ∈ front, isRedirect record.type = false)
    (found : adaptRecords options zone proxyDefault defaultTtl (front ++ back) = .ok listed) :
    ∃ rule, adaptRecords options zone proxyDefault defaultTtl (front ++ extra :: back) =
        .ok (listed ++ [rule]) ∧
      ruleOfRedirect extra ((redirectsOf (front ++ back)).length + 1).toUInt32 = .ok rule := by
  obtain ⟨placed, rules, each, ruled, rfl⟩ := adaptRecords_eq_ok_iff.1 found
  rw [List.mapM_append, bind_eq_ok_iff] at each
  obtain ⟨before, each, later⟩ := each
  obtain ⟨behind, each', whole⟩ := bind_eq_ok_iff.1 later
  obtain rfl := pure_eq_ok_iff.1 whole
  have stays : adaptRecord options zone proxyDefault defaultTtl extra = .ok extra := by
    have type : isRedirect extra.type = true := valid.redirect
    refine adaptRecord_eq_ok_iff.2 ⟨checkKind_eq_ok_iff.2 ⟨fun _ => managed, ?_, ?_⟩,
      Or.inl ⟨type, rfl⟩⟩
    · intro rule
      rw [rule] at type
      cases type
    · intro route
      rw [route] at type
      cases type
  have none_before : redirectsOf before = [] := by
    rw [redirectsOf_of_mapM each]
    exact List.filter_eq_nil_iff.2 fun record member =>
      Bool.eq_false_iff.1 (first record member)
  have all_behind : redirectsOf (before ++ behind) = redirectsOf behind := by
    rw [redirectsOf_append, none_before, List.nil_append]
  have same : redirectsOf (front ++ back) = redirectsOf behind := by
    have whole : (front ++ back).mapM (adaptRecord options zone proxyDefault defaultTtl) =
        .ok (before ++ behind) := by
      rw [List.mapM_append, each, each']
      rfl
    rw [← redirectsOf_of_mapM whole, all_behind]
  obtain ⟨source, target, cut⟩ := valid.ends
  obtain ⟨rule, made⟩ := exists_ruleOfRedirect_iff.2 ⟨source, target, cut⟩
  refine ⟨rule, adaptRecords_eq_ok_iff.2 ⟨before ++ extra :: behind, rules ++ [rule], ?_, ?_, ?_⟩,
    made⟩
  · rw [List.mapM_append, each, List.mapM_cons, stays, each']
    rfl
  · rw [← redirectsOf, redirectsOf_append, none_before, List.nil_append,
      redirectsOf_cons valid.redirect]
    rw [← redirectsOf, all_behind] at ruled
    exact rulesOfRedirects_cons_eq_ok_iff.2 ⟨rules, ruled, rule, same ▸ made, rfl⟩
  · simp [valid.redirect]

/-! ## Zones -/

/-- A record is in canonical form, and what is observed of it, when it is served just as it was
sent, is so too and is in sync with it. -/
def Settles (zone : Zone) (record : Record) : Prop :=
  (Origin.ofZone zone).record record = .ok record ∧
    ∃ observed, served? zone.name record = some observed ∧
      (Origin.ofZone zone).record observed = .ok observed ∧
      ∀ client : Client, InSync client observed record

theorem IsRuleOf.settles {priority : Nat} (own : IsRuleOf redirect priority rule) (zone : Zone) :
    Settles zone rule := by
  obtain ⟨forwarding, -, -, read, rfl⟩ := own
  have several : ',' ∈ forwarding.payload.toList := by
    rw [forwarding.toList_payload]
    simp [List.intercalate]
  have canonical := record_observed (Origin.ofZone zone) .pageRule rfl several
  exact ⟨canonical none, forwarding.observed, served?_of_pageRule rfl read, canonical _,
    fun client => inSync_of_agree rfl rfl rfl rfl rfl rfl⟩

/-- Redirects become page rules behind all other records, one for each, that are numbered from
the last one on and are told apart even if redirects repeat. Each is in sync with what is observed
when it is served as it was sent, and another redirect in front of all others leaves them as they
are. -/
theorem redirects_become_rules {options : Options} {zone desired : Zone}
    (managed : options.manageRedirects = true)
    (few : (redirectsOf zone.records).length < UInt32.size)
    (adapted : (adaptZone options zone).2 = .ok desired) :
    ∃ placed rules, desired.records = placed ++ rules ∧
      List.Forall₂ SameText
        (zone.records.filter fun record => !isRedirect record.type && !isApexNs record) placed ∧
      rules.length = (redirectsOf zone.records).length ∧
      (∀ place redirect, (redirectsOf zone.records)[place]? = some redirect →
        ∃ rule, rules.reverse[place]? = some rule ∧
          IsRuleOf redirect ((redirectsOf zone.records).length - place) rule) ∧
      (rules.map Record.key).Nodup ∧
      (∀ rule ∈ rules, Settles zone rule) ∧
      ∀ front back extra, zone.records = front ++ back →
        (∀ record ∈ front, isRedirect record.type = false) → IsValidRedirect extra →
          ∃ rule, (adaptZone options { zone with records := front ++ extra :: back }).2 =
              .ok { desired with records := placed ++ rules ++ [rule] } ∧
            ((redirectsOf zone.records).length + 1 < UInt32.size →
              IsRuleOf extra ((redirectsOf zone.records).length + 1) rule) := by
  obtain ⟨features, proxyDefault, records, featured, setting, found, rfl⟩ :=
    adaptZone_eq_ok_iff.1 adapted
  have same := redirectsOf_keptRecords zone
  obtain ⟨placed, rules, rfl, stay, ruled⟩ := exists_rules_of_adaptRecords found
  rw [keptRecords, List.filter_filter] at stay
  rw [same] at ruled
  have numbered := rulesFor_of_rulesOfRedirects few ruled
  refine ⟨placed, rules, rfl, stay, numbered.length_eq, fun place redirect there =>
    numbered.exists_getElem? there, numbered.nodup_keys, fun rule member => ?_, ?_⟩
  · obtain ⟨redirect, -, priority, -, made⟩ := numbered.exists_of_mem member
    exact made.settles zone
  · intro front back extra whole first valid
    have kept : keptRecords zone = (front.filter fun record => !isApexNs record) ++
        back.filter fun record => !isApexNs record := by
      rw [keptRecords, whole, List.filter_append]
    rw [kept] at found
    obtain ⟨rule, found', made⟩ := exists_adaptRecords_insert managed valid
      (fun record member => first record (List.mem_of_mem_filter member)) found
    rw [← kept, same] at made
    refine ⟨rule, adaptZone_eq_ok_iff.2 ⟨features, proxyDefault, _, featured, setting, ?_, rfl⟩,
      fun small => isRuleOf_of_ruleOfRedirect small made⟩
    have other : isApexNs extra = false := isApexNs_of_isRedirect valid.redirect
    rw [keptRecords, List.filter_append, List.filter_cons_of_pos (by rw [other]; rfl)]
    exact found'

/-- A redirect, the same one for a while, and the same one again, around another record. -/
theorem redirects_become_rules_of_repeated :
    let options : Options := { manageRedirects := true }
    let ends := "old.example.com/* , https://example.com/$1"
    let zone : Zone := {
      name := "example.com"
      records := [.pseudo "@" .redirect ends, .pseudo "www" .tempRedirect ends,
        .ofPayload "www" (.a ⟨192, 0, 2, 1⟩), .pseudo "@" .redirect ends] }
    options.manageRedirects = true ∧ (redirectsOf zone.records).length < UInt32.size ∧
      ∃ desired, (adaptZone options zone).2 = .ok desired ∧
        desired.records.map (fun record => record.payload.print) =
          ["192.0.2.1", "old.example.com/*,https://example.com/$1,1,301",
            "old.example.com/*,https://example.com/$1,2,302",
            "old.example.com/*,https://example.com/$1,3,301"] ∧
        ∃ placed rules, desired.records = placed ++ rules ∧ rules.length = 3 ∧
          (rules.map Record.key).Nodup ∧ ∀ rule ∈ rules, Settles zone rule := by
  intro options ends zone
  have few : (redirectsOf zone.records).length < UInt32.size := by decide
  obtain ⟨desired, adapted, seen⟩ := exists_eq_ok_of_map
    (show (adaptZone options zone).2.toOption.map
        (·.records.map fun record => record.payload.print) =
      some ["192.0.2.1", "old.example.com/*,https://example.com/$1,1,301",
        "old.example.com/*,https://example.com/$1,2,302",
        "old.example.com/*,https://example.com/$1,3,301"] by decide)
  obtain ⟨placed, rules, whole, -, count, -, distinct, settled, -⟩ :=
    redirects_become_rules rfl few adapted
  exact ⟨rfl, few, desired, adapted, seen, placed, rules, whole, count, distinct, settled⟩

end DnsReconcile.Cloudflare
