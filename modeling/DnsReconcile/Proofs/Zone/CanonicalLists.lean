/-
# Canonical lists

A list of records in canonical form is its own canonical form, in every field and in order, if the
zone has a name and no label is written as a full name. A label with a dot at its end is the only
thing that may go on changing. A zone without a name is the only one in which a target may be read
once and not again: the name of such a zone is a dot, which most records cannot point at.
-/

import DnsReconcile.Proofs.Zone.CanonicalForms
import DnsReconcile.Proofs.Zone.RecordSets

namespace DnsReconcile

open Text

namespace Origin

variable {origin : Origin} {text label name : List Char} {allowNull : Bool}

/-! ## Labels -/

/-- The canonical form of a label that is not a full name is there to stay. -/
theorem label_self (undotted : (trim text).getLast? ≠ some '.')
    (found : origin.label text = .ok label) : origin.label label = .ok label := by
  have last := getLast?_lower_ne_dot undotted
  have again := lower_trim_again text
  have own : LabelForm origin.zone (Text.lower (trim ['@'])) ['@'] := .sign
  have form := labelForm_of_label found
  refine label_of_labelForm ?_
  generalize Text.lower (trim text) = spelled at form last again
  cases form with
  | blank => exact own
  | sign => exact own
  | relative present =>
      rw [again]
      exact .of_undotted present last
  | apex => exact absurd List.getLast?_concat last
  | below => exact absurd List.getLast?_concat last

/-! ## Targets -/

section Targets

variable (sound : origin.Sound) (named : origin.zone ≠ [])
include named

/-- Only the null target becomes a dot. -/
theorem allowNull_of_target_eq_dot (found : origin.target allowNull text = .ok ['.']) :
    allowNull = true := by
  have form := targetForm_of_target found
  generalize Text.lower (trim text) = spelled at form
  generalize whole : ['.'] = name at form
  cases form with
  | null allowed => exact allowed
  | sign => exact absurd (List.self_eq_append_left.1 whole) named
  | full other => exact absurd whole.symm other
  | dotted inside =>
      exact absurd (List.self_eq_append_left.1 whole) (List.ne_nil_of_mem inside)
  | single =>
      have lengths := congrArg List.length whole
      simp only [List.length_append, List.length_cons, List.length_nil] at lengths
      omega

include sound

/-- A target is there to stay. -/
theorem target_self (found : origin.target allowNull text = .ok name) :
    origin.target allowNull name = .ok name := by
  have target := isTarget_of_target sound found
  refine target_of_targetForm ?_
  rw [target.trim_eq, lower_eq_self target.lower]
  by_cases null : name = ['.']
  · subst null
    exact .null (allowNull_of_target_eq_dot named found)
  · exact .full null target.back

theorem targetName_self {spelling form : String}
    (found : origin.targetName allowNull spelling = .ok form) :
    origin.targetName allowNull form = .ok form := by
  simp only [targetName] at found ⊢
  cases first : origin.target allowNull spelling.toList with
  | error defect =>
      rw [first] at found
      cases found
  | ok name =>
      rw [first] at found
      obtain rfl := Except.ok.inj found
      rw [String.toList_ofList, target_self sound named first]
      rfl

end Targets

/-! ## Payloads and records -/

theorem strings_ne_nil {texts : List String} (present : texts ≠ []) : strings texts ≠ [] := by
  simp only [strings]
  split
  · intro empty
    obtain ⟨first, member⟩ := List.exists_mem_of_ne_nil texts present
    have pieces_empty := List.flatMap_eq_nil_iff.1 empty first member
    exact (cuts_chunks first.toList).pieces_ne_nil (List.map_eq_nil_iff.1 pieces_empty)
  · exact present

section Payloads

variable {given canonical : Payload} (sound : origin.Sound) (named : origin.zone ≠ [])

/-- Payloads that are hexadecimal digits, spelled one way, and fields that stay as they are. -/
theorem payload_self_of_hex {make : String → Payload} {field digits : String}
    {spell : List Char → List Char} (spells : SpellsHex spell)
    (step : ∀ digits, origin.payload (make digits) =
      hex field digits >>= fun digits => pure (make (String.ofList (spell digits))))
    (found : origin.payload (make digits) = .ok canonical) :
    origin.payload canonical = .ok canonical := by
  rw [step, bind_eq_ok_iff] at found
  obtain ⟨form, first, made⟩ := found
  obtain rfl := pure_eq_ok_iff.1 made
  obtain ⟨read, -⟩ := hex_eq_ok_iff.1 first
  have again : hex field (String.ofList (spell form)) = .ok (spell form) := by
    refine hex_eq_ok_iff.2 ⟨spells.spelled _ read, ?_⟩
    rw [String.toList_ofList, trim_eq_self_of_hex (spells.spelled _ read).2]
  rw [step, again]
  exact congrArg (fun digits => Except.ok (make (String.ofList digits))) (spells.again _ read.2)

include sound named

/-- Payloads that are a target and fields that stay as they are. -/
theorem payload_self_of_target {make : String → Payload} {spelling : String}
    (step : ∀ spelling, origin.payload (make spelling) =
      origin.targetName allowNull spelling >>= fun form => pure (make form))
    (found : origin.payload (make spelling) = .ok canonical) :
    origin.payload canonical = .ok canonical := by
  rw [step, bind_eq_ok_iff] at found
  obtain ⟨form, first, made⟩ := found
  obtain rfl := pure_eq_ok_iff.1 made
  rw [step, targetName_self sound named first]
  rfl

/-- A canonical payload is there to stay. -/
theorem payload_self (found : origin.payload given = .ok canonical) :
    origin.payload canonical = .ok canonical := by
  cases given with
  | a address =>
      obtain rfl := Except.ok.inj found
      rfl
  | aaaa address =>
      obtain rfl := Except.ok.inj found
      rfl
  | cname target => exact payload_self_of_target sound named (fun _ => rfl) found
  | aliased target => exact payload_self_of_target sound named (fun _ => rfl) found
  | ns target => exact payload_self_of_target sound named (fun _ => rfl) found
  | ptr target => exact payload_self_of_target sound named (fun _ => rfl) found
  | mx preference exchange => exact payload_self_of_target sound named (fun _ => rfl) found
  | srv priority weight port target =>
      exact payload_self_of_target sound named (fun _ => rfl) found
  | txt texts =>
      obtain ⟨present, rfl⟩ := payload_txt_eq_ok_iff.1 found
      exact payload_txt_eq_ok_iff.2 ⟨strings_ne_nil present, by rw [strings_again]⟩
  | caa flags tag value =>
      obtain ⟨present, rfl⟩ := payload_caa_eq_ok_iff.1 found
      rw [payload_caa_eq_ok_iff, String.toList_ofList, lower_trim_again]
      exact ⟨present, rfl⟩
  | tlsa usage selector matchingType certificate =>
      exact payload_self_of_hex spellsHex_lower (fun _ => rfl) found
  | sshfp algorithm fingerprintType fingerprint =>
      exact payload_self_of_hex spellsHex_lower (fun _ => rfl) found
  | ds keyTag algorithm digestType digest =>
      exact payload_self_of_hex spellsHex_upper (fun _ => rfl) found
  | soa mname rname serial refresh retry expire minimum =>
      obtain ⟨mname', rname', first, second, rfl⟩ := payload_soa_eq_ok_iff.1 found
      exact payload_soa_eq_ok_iff.2 ⟨mname', rname', targetName_self sound named first,
        targetName_self sound named second, rfl⟩
  | encoded text =>
      obtain ⟨present, rfl⟩ := payload_encoded_eq_ok_iff.1 found
      exact payload_encoded_eq_ok_iff.2 ⟨present, rfl⟩

end Payloads

/-- The TTL that an origin gives does not matter for payloads. -/
theorem payload_ofName (name : String) (ttl other : UInt32) (payload : Payload) :
    (ofName name ttl).payload payload = (ofName name other).payload payload := by
  cases payload <;> rfl

/-- A canonical record is there to stay if its label was not written as a full name. -/
theorem record_self {name : String} {ttl : UInt32} {record form : Record}
    (named : (ofName name ttl).zone ≠ [])
    (undotted : (trim record.label.toList).getLast? ≠ some '.')
    (found : (ofName name ttl).record record = .ok form) :
    (ofName name ttl).record form = .ok form := by
  have fits := fits_of_record found
  obtain ⟨-, label, payload, labelled, paid, rfl⟩ := record_eq_ok_iff.1 found
  -- Payloads are read again under a TTL that a zone may have, which they do not depend on.
  rw [payload_ofName name ttl 1] at paid
  have sound : (ofName name 1).Sound := sound_ofName name (by decide)
  refine record_eq_ok_iff.2 ⟨fits, label, payload, ?_, ?_, ?_⟩
  · rw [String.toList_ofList]
    exact label_self undotted labelled
  · rw [payload_ofName name ttl 1]
    exact payload_self sound named paid
  · by_cases zero : record.ttl = 0
    · simp only [if_pos zero, ite_self]
    · simp only [if_neg zero]

end Origin

namespace RecordSet

/-- The canonical form of a list is its own canonical form, in every field and in order, whatever
the TTL is that records are given, as long as the zone has a name and no label is a full name. -/
theorem normalize_again {name : String} (ttl : UInt32)
    (named : (Origin.ofName name ttl).zone ≠ []) {records listed : List Record}
    (undotted : ∀ record ∈ records, (trim record.label.toList).getLast? ≠ some '.')
    (found : normalize (Origin.ofName name ttl) records = .ok listed) :
    normalize (Origin.ofName name ttl) listed = .ok listed := by
  have settled : ∀ form ∈ listed, (Origin.ofName name ttl).record form = .ok form := by
    intro form member
    obtain ⟨record, present, own⟩ := (mem_normalize_iff found).1 member
    exact Origin.record_self named (undotted record present) own
  obtain ⟨canonical, -, checked, rfl⟩ := normalize_eq_ok_iff.1 found
  refine normalize_eq_ok_iff.2 ⟨sorted canonical, ?_, ?_, sorted_sorted canonical⟩
  · exact mapM_eq_ok_iff.2 (List.forall₂_same.2 settled)
  · rw [sorted_sorted]
    exact checked

/-- A null target, a name relative to the zone, digits and a blank around a label. -/
theorem normalize_again_of_mixed_records :
    let origin := Origin.ofName "Example.com." 0
    let records := [Record.ofPayload " WWW " (.mx 10 "Mail"), Record.ofPayload "" (.mx 0 "."),
      Record.ofPayload "sub" (.ds 1 8 2 "aB"), Record.ofPayload "sub" (.ns "NS.Example.net")]
    origin.zone ≠ [] ∧
      (∀ record ∈ records, (trim record.label.toList).getLast? ≠ some '.') ∧
      ∃ listed, normalize origin records = .ok listed ∧
        listed.map (fun record => (record.label, record.payload, record.ttl)) =
          [("@", .mx 0 ".", 0), ("sub", .ns "ns.example.net.", 0), ("sub", .ds 1 8 2 "AB", 0),
            ("www", .mx 10 "mail.example.com.", 0)] ∧
        normalize origin listed = .ok listed := by
  intro origin records
  have named : origin.zone ≠ [] := by decide +kernel
  have undotted : ∀ record ∈ records, (trim record.label.toList).getLast? ≠ some '.' := by
    decide +kernel
  obtain ⟨listed, found, seen⟩ := exists_eq_ok_of_map
    (show (normalize origin records).toOption.map
        (List.map fun record => (record.label, record.payload, record.ttl)) =
      some [("@", .mx 0 ".", 0), ("sub", .ns "ns.example.net.", 0), ("sub", .ds 1 8 2 "AB", 0),
        ("www", .mx 10 "mail.example.com.", 0)] by decide +kernel)
  exact ⟨named, undotted, listed, found, seen, normalize_again 0 named undotted found⟩

end RecordSet

end DnsReconcile
