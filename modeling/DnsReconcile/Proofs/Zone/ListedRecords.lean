/-
# What a canonical list holds

A list of records has a canonical form if every record has one by itself and the forms can stand
in one zone: at each label a CNAME is alone, and a type that may occur once does not occur twice.
The canonical form of the list is those forms in listing order. Nothing is lost or doubled, and
a form differs from its record only in what may be spelled in several ways. Whether a type occurs
twice is looked for among neighbours only, which is enough because the types at a label come in
order.
-/

import DnsReconcile.Proofs.Zone.CanonicalForms
import DnsReconcile.Proofs.Zone.RecordSets

namespace DnsReconcile

open Text

/-! ## What stays of a record -/

/-- A payload without what may be spelled in several ways: names, tags and digits are left out,
and the pieces of a text are joined. -/
def Payload.substance : Payload → Payload
  | .a address => .a address
  | .aaaa address => .aaaa address
  | .cname _ => .cname ""
  | .aliased _ => .aliased ""
  | .ns _ => .ns ""
  | .ptr _ => .ptr ""
  | .mx preference _ => .mx preference ""
  | .txt strings => .txt [String.join strings]
  | .srv priority weight port _ => .srv priority weight port ""
  | .caa flags _ value => .caa flags "" value
  | .tlsa usage selector matchingType _ => .tlsa usage selector matchingType ""
  | .sshfp algorithm fingerprintType _ => .sshfp algorithm fingerprintType ""
  | .ds keyTag algorithm digestType _ => .ds keyTag algorithm digestType ""
  | .soa _ _ serial refresh retry expire minimum => .soa "" "" serial refresh retry expire minimum
  | .encoded text => .encoded text

/-- A record comes out with all that it says, spelling and a missing TTL apart. -/
structure Record.Keeps (record form : Record) : Prop where
  type : form.type = record.type
  metadata : form.metadata = record.metadata
  ref : form.ref = record.ref
  substance : form.payload.substance = record.payload.substance
  ttl : record.ttl ≠ 0 → form.ttl = record.ttl

namespace Origin

variable {origin : Origin} {record form : Record}

/-- The strings of a TXT record make up the same text, whether or not they are cut. -/
theorem join_strings (texts : List String) : String.join (strings texts) = String.join texts := by
  simp only [strings]
  split
  · rw [← String.toList_inj, String.toList_join, String.toList_join, List.flatMap_assoc]
    apply List.flatMap_congr
    intro text _
    rw [List.flatMap_map]
    simp only [String.toList_ofList, List.flatMap_id']
    exact (cuts_chunks text.toList).flatten
  · rfl

theorem substance_of_payload {given canonical : Payload}
    (found : origin.payload given = .ok canonical) : canonical.substance = given.substance := by
  cases given with
  | a address => rw [← Except.ok.inj found]
  | aaaa address => rw [← Except.ok.inj found]
  | txt texts =>
      obtain ⟨-, rfl⟩ := payload_txt_eq_ok_iff.1 found
      simp only [Payload.substance, join_strings]
  | caa flags tag value =>
      obtain ⟨-, rfl⟩ := payload_caa_eq_ok_iff.1 found
      rfl
  | soa mname rname serial refresh retry expire minimum =>
      obtain ⟨mname', rname', -, -, rfl⟩ := payload_soa_eq_ok_iff.1 found
      rfl
  | encoded text =>
      obtain ⟨-, rfl⟩ := payload_encoded_eq_ok_iff.1 found
      rfl
  | _ =>
      -- One name or one run of digits, and fields that stay.
      simp only [Origin.payload, bind_eq_ok_iff, pure_eq_ok_iff] at found
      obtain ⟨-, -, rfl⟩ := found
      rfl

theorem keeps_of_record (found : origin.record record = .ok form) : record.Keeps form := by
  obtain ⟨-, label, payload, -, paid, rfl⟩ := record_eq_ok_iff.1 found
  exact ⟨rfl, rfl, rfl, substance_of_payload paid, fun given => if_neg given⟩

end Origin

/-! ## Which records can stand together -/

namespace RecordSet

variable {types : List RecordType} {records : List Record}

/-- The rules for the DNS records at each label. -/
structure ObeysLabelRules (records : List Record) : Prop where
  cname_alone : ∀ label, .cname ∈ typesAt label records → typesAt label records = [.cname]
  single_once : ∀ label type, type.isMultiValue = false →
    (typesAt label records).count type ≤ 1

theorem cname_alone_iff_eq_singleton :
    (types.Pairwise fun first second => first ≠ .cname ∧ second ≠ .cname) ↔
      (.cname ∈ types → types = [.cname]) := by
  rw [← cname_alone_iff, List.contains_eq_mem]
  match types with
  | [] => exact iff_of_true rfl fun member => absurd member List.not_mem_nil
  | [type] =>
      refine iff_of_true (Bool.and_false _) fun member => ?_
      rw [List.mem_singleton.1 member]
  | first :: second :: rest =>
      have several : decide (1 < (first :: second :: rest).length) = true :=
        decide_eq_true (by simp)
      rw [several, Bool.and_true, decide_eq_false_iff_not]
      exact ⟨fun absent member => absurd member absent,
        fun alone member => by cases alone member⟩

theorem pairwise_single_iff_count :
    (types.Pairwise fun first second => first = second → first.isMultiValue = true) ↔
      ∀ type, type.isMultiValue = false → types.count type ≤ 1 := by
  induction types with
  | nil => simp
  | cons first rest ih =>
      rw [List.pairwise_cons, ih]
      apply Iff.intro
      · rintro ⟨apart, once⟩ type single
        rw [List.count_cons]
        split
        · next same =>
          have absent : type ∉ rest := fun member => by
            have several := apart type member (beq_iff_eq.1 same)
            rw [beq_iff_eq.1 same, single] at several
            cases several
          rw [List.count_eq_zero_of_not_mem absent]
        · exact once type single
      · refine fun once => ⟨fun second member same => ?_, fun type single => ?_⟩
        · by_contra single
          have twice := once first (Bool.not_eq_true _ ▸ single)
          rw [List.count_cons_self] at twice
          have present : 0 < rest.count first := List.count_pos_iff.2 (same ▸ member)
          omega
        · exact Nat.le_trans List.count_le_count_cons (once type single)

/-- The rules are those for any two records. -/
theorem obeysLabelRules_iff : ObeysLabelRules records ↔ records.Pairwise Record.Compatible := by
  have at_label (label : String) : (typesAt label records).Pairwise RecordType.GoWith ↔
      (.cname ∈ typesAt label records → typesAt label records = [.cname]) ∧
        ∀ type, type.isMultiValue = false → (typesAt label records).count type ≤ 1 := by
    rw [← cname_alone_iff_eq_singleton, ← pairwise_single_iff_count, ← List.pairwise_and_iff]
    rfl
  rw [← forall_typesAt_iff]
  simp only [at_label]
  exact ⟨fun obeys label => ⟨obeys.cname_alone label, obeys.single_once label⟩,
    fun each => ⟨fun label => (each label).1, fun label => (each label).2⟩⟩

/-! ## Lists -/

/-- The order in which records are listed: by label, then by type, then by payload. -/
def ListedBefore (first second : Record) : Prop :=
  first.label < second.label ∨
    first.label = second.label ∧
      (first.type.rank < second.type.rank ∨
        first.type = second.type ∧ first.payload.print ≤ second.payload.print)

theorem le_listingKey_iff {first second : Record} :
    RecordKey.le first.listingKey second.listingKey = true ↔ ListedBefore first second := by
  rw [RecordKey.le_iff]
  simp only [ListedBefore, Record.listingKey, RecordKey.payloadLe, decide_eq_true_eq]

theorem stablySorted_sorted (records : List Record) :
    StablySorted ListedBefore records (sorted records) := by
  have same : (fun first second : Record =>
      RecordKey.le first.listingKey second.listingKey = true) = ListedBefore :=
    funext fun _ => funext fun _ => propext le_listingKey_iff
  exact same ▸ isPreorder_listing.stablySorted_sortBy records

/-- A list has a canonical form exactly if each record has one by itself and these forms obey the
rules for labels. It is then the list of these forms in listing order, and each of them keeps what
its record says. -/
theorem valid_records_listed (origin : Origin) (records : List Record) :
    ((∃ listed, normalize origin records = .ok listed) ↔
      ∃ forms, List.Forall₂ (fun record form => origin.record record = .ok form) records forms ∧
        ObeysLabelRules forms) ∧
      ∀ listed, normalize origin records = .ok listed →
        ∃ forms, List.Forall₂
            (fun record form => origin.record record = .ok form ∧ record.Keeps form)
            records forms ∧
          StablySorted ListedBefore forms listed := by
  simp only [normalize_eq_ok_iff, check_sorted_eq_ok_iff, ← obeysLabelRules_iff, mapM_eq_ok_iff]
  refine ⟨⟨?_, ?_⟩, ?_⟩
  · rintro ⟨-, forms, own, obeys, -⟩
    exact ⟨forms, own, obeys⟩
  · rintro ⟨forms, own, obeys⟩
    exact ⟨_, forms, own, obeys, rfl⟩
  · rintro _ ⟨forms, own, -, rfl⟩
    exact ⟨forms, own.imp fun _ _ found => ⟨found, Origin.keeps_of_record found⟩,
      stablySorted_sorted forms⟩

/-- Two records that differ only in their TTL are tied, and stay as they came. -/
theorem valid_records_listed_of_tie :
    let origin := Origin.ofName "Example.com." 300
    let records := [{ Record.ofPayload "WWW" (.ns "a") with ttl := 60 },
      { Record.ofPayload "www.example.com." (.ns "A") with ttl := 30 },
      Record.ofPayload "" (.txt ["Hello ", "World"]), .pseudo "www" .workerRoute "x"]
    ∃ listed, normalize origin records = .ok listed ∧
      listed.map (fun record => (record.label, record.payload, record.ttl)) =
        [("@", .txt ["Hello ", "World"], 300), ("www", .ns "a.example.com.", 60),
          ("www", .ns "a.example.com.", 30), ("www", .encoded "x", 300)] ∧
      ∃ forms, List.Forall₂
          (fun record form => origin.record record = .ok form ∧ record.Keeps form)
          records forms ∧
        StablySorted ListedBefore forms listed := by
  intro origin records
  obtain ⟨listed, found, seen⟩ := exists_eq_ok_of_map
    (show (normalize origin records).toOption.map
        (List.map fun record => (record.label, record.payload, record.ttl)) =
      some [("@", .txt ["Hello ", "World"], 300), ("www", .ns "a.example.com.", 60),
        ("www", .ns "a.example.com.", 30), ("www", .encoded "x", 300)] by decide +kernel)
  exact ⟨listed, found, seen, (valid_records_listed origin records).2 listed found⟩

end RecordSet

end DnsReconcile
