/-
# Which records are canonical forms

When a record has a canonical form and what it is, and the same for a list of records.
A canonical form keeps the kind of payload and the reference to the provider's copy.
-/

import DnsReconcile.Proofs.Record.KeyOrder
import DnsReconcile.Proofs.Refusals
import DnsReconcile.Zone.RecordSet

namespace DnsReconcile

namespace Origin

variable {origin : Origin} {record canonical : Record}

/-- The label of the zone itself stays. -/
theorem label_apexLabel (origin : Origin) :
    origin.label apexLabel.toList = .ok apexLabel.toList := by
  have spelled : Text.lower (Text.trim apexLabel.toList) = ['@'] := by decide +kernel
  unfold Origin.label
  rw [spelled]
  rfl

/-- A record has a canonical form if its payload fits its type and label and payload have
one. -/
theorem record_eq_ok_iff :
    origin.record record = .ok canonical ↔
      record.payload.fits record.type = true ∧
        ∃ label payload, origin.label record.label.toList = .ok label ∧
          origin.payload record.payload = .ok payload ∧
          canonical =
            { record with
              label := String.ofList label
              payload
              ttl := if record.ttl = 0 then origin.ttl else record.ttl } := by
  simp only [Origin.record]
  by_cases fits : record.payload.fits record.type = true
  · rw [if_neg (by simp [fits]), and_iff_right fits]
    cases origin.label record.label.toList with
    | error defect => simp [Record.refuse]
    | ok label =>
        cases origin.payload record.payload with
        | error defect => simp [Record.refuse]
        | ok payload =>
            simp only [Except.ok.injEq, exists_and_left, exists_eq_left']
            exact eq_comm
  · rw [if_pos (by simp [fits])]
    exact iff_of_false (by simp [Record.refuse]) fun given => fits given.1

theorem type_of_record (found : origin.record record = .ok canonical) :
    canonical.type = record.type := by
  obtain ⟨-, label, payload, -, -, rfl⟩ := record_eq_ok_iff.1 found
  rfl

/-- The label of a canonical form is that of the record in canonical form. -/
theorem label_of_record (found : origin.record record = .ok canonical) :
    origin.label record.label.toList = .ok canonical.label.toList := by
  obtain ⟨-, label, payload, labelled, -, rfl⟩ := record_eq_ok_iff.1 found
  rw [labelled, String.toList_ofList]

theorem ref_of_record (found : origin.record record = .ok canonical) :
    canonical.ref = record.ref := by
  obtain ⟨-, label, payload, -, -, rfl⟩ := record_eq_ok_iff.1 found
  rfl

/-- A canonical payload is of the kind of the payload it comes from. -/
theorem fits_of_payload {payload form : Payload} (found : origin.payload payload = .ok form)
    (type : RecordType) : form.fits type = payload.fits type := by
  cases payload <;>
    simp only [Origin.payload, bind_eq_ok_iff, pure_eq_ok_iff, Except.ok.injEq, ite_eq_iff,
      reduceCtorEq, and_false, false_or] at found
  case a => rw [← found]
  case aaaa => rw [← found]
  case txt =>
    rw [← found.2]
    rfl
  case caa =>
    rw [← found.2]
    rfl
  case encoded => rw [← found.2]
  case soa =>
    obtain ⟨-, -, -, -, rfl⟩ := found
    rfl
  all_goals
    obtain ⟨-, -, rfl⟩ := found
    rfl

theorem fits_of_record (found : origin.record record = .ok canonical) :
    canonical.payload.fits canonical.type = true := by
  obtain ⟨fits, label, payload, -, paid, rfl⟩ := record_eq_ok_iff.1 found
  exact (fits_of_payload paid record.type).trans fits

/-- The reference to the provider's copy does not matter for the canonical form. -/
theorem record_of_ref (found : origin.record record = .ok canonical) (ref : Option ProviderRef) :
    origin.record { record with ref } = .ok { canonical with ref } := by
  obtain ⟨fits, label, payload, labelled, paid, rfl⟩ := record_eq_ok_iff.1 found
  exact record_eq_ok_iff.2 ⟨fits, label, payload, labelled, paid, rfl⟩

end Origin

namespace RecordSet

variable {origin : Origin} {records canonical listed : List Record}

theorem sorted_perm (records : List Record) : (sorted records).Perm records :=
  sortBy_perm _ records

/-- A list has a canonical form if each record has one and these can stand together. -/
theorem normalize_eq_ok_iff :
    normalize origin records = .ok listed ↔
      ∃ canonical, records.mapM origin.record = .ok canonical ∧
        check (sorted canonical) = .ok () ∧ sorted canonical = listed := by
  simp only [normalize]
  rw [bind_eq_ok_iff]
  refine exists_congr fun canonical => and_congr_right fun _ => ?_
  rw [check_bind_eq_ok_iff, pure_eq_ok_iff]

section Normalized

variable {form : Record} (found : normalize origin records = .ok listed)
include found

/-- The members of a canonical list are the canonical forms of the records. -/
theorem mem_normalize_iff :
    form ∈ listed ↔ ∃ record ∈ records, origin.record record = .ok form := by
  obtain ⟨canonical, forms, -, rfl⟩ := normalize_eq_ok_iff.1 found
  rw [(sorted_perm canonical).mem_iff, mem_mapM_iff forms]

/-- Every record has a canonical form there. -/
theorem exists_mem_normalize {record : Record} (member : record ∈ records) :
    ∃ form ∈ listed, origin.record record = .ok form := by
  obtain ⟨canonical, forms, -, -⟩ := normalize_eq_ok_iff.1 found
  obtain ⟨form, own⟩ := exists_mapM_eq_ok_iff.1 ⟨canonical, forms⟩ record member
  exact ⟨form, (mem_normalize_iff found).2 ⟨record, member, own⟩, own⟩

/-- No record is lost and none is doubled. -/
theorem normalize_refs_perm : (listed.map Record.ref).Perm (records.map Record.ref) := by
  obtain ⟨canonical, forms, -, rfl⟩ := normalize_eq_ok_iff.1 found
  refine ((sorted_perm canonical).map _).trans (.of_eq ?_)
  have steps := mapM_eq_ok_iff.1 forms
  clear forms found
  induction steps with
  | nil => rfl
  | cons own _ ih => rw [List.map_cons, List.map_cons, ih, Origin.ref_of_record own]

/-- What holds between any two members of a canonical list can be asked of the records
whose canonical forms they are. -/
theorem pairwise_normalize_iff {together : Record → Record → Prop}
    (symm : ∀ first second, together first second → together second first) :
    listed.Pairwise together ↔
      records.Pairwise fun first second => ∀ form form', origin.record first = .ok form →
        origin.record second = .ok form' → together form form' := by
  obtain ⟨canonical, forms, -, rfl⟩ := normalize_eq_ok_iff.1 found
  rw [List.Perm.pairwise_iff (R := together) (symm _ _) (sorted_perm canonical),
    pairwise_mapM_iff forms]

end Normalized

end RecordSet

end DnsReconcile
