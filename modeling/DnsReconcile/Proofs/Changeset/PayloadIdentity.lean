/-
# Payloads kept apart by a comparison

A comparison knows a payload only by its presentation form, which is part of the key where a type
has several values. As that form tells payloads apart, two records are taken for the same one
exactly if their payloads are the same: no modification ever changes such a payload, and no records
are refused as duplicates whose payloads differ.
-/

import DnsReconcile.Proofs.Changeset.Entries
import DnsReconcile.Proofs.Record.PrintedPayloads
import DnsReconcile.Proofs.Zone.Ownership

namespace DnsReconcile

/-- Two records of which only one can be there: of one label and type and, if several values of that
type can be there, with one payload. -/
structure Record.Twins (first second : Record) : Prop where
  label : first.label = second.label
  type : first.type = second.type
  payload : first.type.isMultiValue = true → first.payload = second.payload

/-- Records that fit their types and have the same key are twins. -/
theorem Record.twins_of_key_eq {first second : Record}
    (fits : first.payload.fits first.type = true) (fits' : second.payload.fits second.type = true)
    (same : first.key = second.key) : first.Twins second where
  label := congrArg RecordKey.label same
  type := congrArg RecordKey.type same
  payload several := (key_eq_iff fits fits' (congrArg RecordKey.label same)
    (congrArg RecordKey.type same) several).1 same

namespace Comparison

open Record

variable {comparison : Comparison} {desired existing records : List Record} {record : Record}
variable {side : String} {takesPart : Record → Bool} {error : Error}

/-- What can be wrong with one side, and how it is reported: a payload that does not fit, or twins
that both take part. -/
inductive Fault (side : String) (takesPart : Record → Bool) (records : List Record) : Error → Prop
  | misfit {record : Record} (member : record ∈ records)
      (misfits : record.payload.fits record.type = false) :
      Fault side takesPart records (.diff
        (record.type.name ++ " record '" ++ record.label ++ "' carries a mismatched payload"))
  | repeated {first second : Record} (both : [first, second].Sublist (records.filter takesPart))
      (twins : first.Twins second) :
      Fault side takesPart records (.diff ("duplicate " ++ side ++ " record: " ++ second.key.print))

/-- What is wrong with some of the records is wrong with all of them. -/
theorem Fault.cons (fault : Fault side takesPart records error) :
    Fault side takesPart (record :: records) error := by
  cases fault with
  | misfit member misfits => exact .misfit (List.mem_cons_of_mem _ member) misfits
  | repeated both twins =>
      exact .repeated (both.trans ((List.sublist_cons_self _ _).filter takesPart)) twins

/-- When one side is refused, something is wrong with it, or one of its records has a key that was
seen before. -/
theorem fault_or_seen_of_checkSide {seen : List RecordKey}
    (refused : checkSide side takesPart seen records = .error error) :
    Fault side takesPart records error ∨
      ∃ record ∈ records.filter takesPart, record.payload.fits record.type = true ∧
        record.key ∈ seen ∧
        error = .diff ("duplicate " ++ side ++ " record: " ++ record.key.print) := by
  induction records generalizing seen with
  | nil => cases refused
  | cons record rest ih =>
      simp only [checkSide] at refused
      rcases bind_eq_error_iff.1 refused with unshaped | ⟨middle, shaped, refused⟩
      · simp only [checkShape] at unshaped
        split at unshaped
        · cases unshaped
        · next misfits =>
          obtain rfl := Except.error.inj unshaped
          exact Or.inl (.misfit List.mem_cons_self (Bool.eq_false_iff.2 misfits))
      · have fits := checkShape_eq_ok_iff.1 shaped
        split at refused
        · next part =>
          rw [List.filter_cons_of_pos part]
          split at refused
          · next known =>
            exact Or.inr ⟨record, List.mem_cons_self, fits, List.contains_iff_mem.1 known,
              (Except.error.inj refused).symm⟩
          · rcases ih refused with fault | ⟨other, member, fits', known, said⟩
            · exact Or.inl fault.cons
            · rcases List.mem_cons.1 known with same | earlier
              · left
                rw [said]
                refine .repeated ?_ (twins_of_key_eq fits fits' same.symm)
                rw [List.filter_cons_of_pos part]
                exact (List.singleton_sublist.2 member).cons_cons record
              · exact Or.inr ⟨other, List.mem_cons_of_mem _ member, fits', earlier, said⟩
        · next part =>
          rw [List.filter_cons_of_neg part]
          exact (ih refused).imp_left Fault.cons

theorem fault_of_checkSide (refused : checkSide side takesPart [] records = .error error) :
    Fault side takesPart records error := by
  rcases fault_or_seen_of_checkSide refused with fault | ⟨record, -, -, seen, -⟩
  · exact fault
  · exact absurd seen List.not_mem_nil

/-- When two record sets cannot be compared, something is wrong with one of them. -/
theorem fault_of_changes {message : String}
    (refused : comparison.changes desired existing = .error (.diff message)) :
    Fault "existing" (participates (comparison.zone.managesApexNs desired)) existing
        (.diff message) ∨
      Fault "desired" (fun _ => true) desired (.diff message) := by
  simp only [changes] at refused
  rcases bind_eq_error_iff.1 refused with ignored | ⟨-, -, refused⟩
  · -- A record that belongs to somebody else is reported in another way.
    obtain ⟨record, -, refused⟩ := exists_of_forM_eq_error ignored
    exact absurd (Zone.isValidation_of_checkRecord refused) Bool.false_ne_true
  · rcases bind_eq_error_iff.1 refused with observed | ⟨-, -, refused⟩
    · exact Or.inl (fault_of_checkSide observed)
    · rcases bind_eq_error_iff.1 refused with wanted | ⟨-, -, ended⟩
      · exact Or.inr (fault_of_checkSide wanted)
      · cases ended

theorem twins_of_modify {changes : Changeset}
    (compared : comparison.changes desired existing = .ok changes) {pair : PairedChange}
    (asked : pair ∈ changes.modify) : pair.existing.Twins pair.desired := by
  have admitted := (changes_eq_ok_iff.1 compared).1
  obtain ⟨⟨present, wanted, same⟩, -, -⟩ := (mem_modify_iff compared).1 asked
  exact twins_of_key_eq (admitted.existing_fit _ (List.mem_of_mem_filter present))
    (admitted.desired_fit _ wanted) same

/-- Records at one label and of one type of several values have the same key exactly if they have
the same payload, whatever texts it holds. So the two sides of a modification never differ in such
a payload, and records that are refused as duplicates never do. -/
theorem payloads_kept_apart :
    (∀ first second : Record, first.payload.fits first.type = true →
      second.payload.fits second.type = true → first.label = second.label →
      first.type = second.type → first.type.isMultiValue = true →
      (first.key = second.key ↔ first.payload = second.payload)) ∧
    ∀ (comparison : Comparison) (desired existing : List Record),
      (∀ changes, comparison.changes desired existing = .ok changes →
        ∀ pair ∈ changes.modify, pair.existing.Twins pair.desired) ∧
      ∀ message, comparison.changes desired existing = .error (.diff message) →
        Fault "existing" (participates (comparison.zone.managesApexNs desired)) existing
            (.diff message) ∨
          Fault "desired" (fun _ => true) desired (.diff message) :=
  ⟨fun _ _ fits fits' label type several => key_eq_iff fits fits' label type several,
    fun _ _ _ => ⟨fun _ compared _ asked => twins_of_modify compared asked,
      fun _ refused => fault_of_changes refused⟩⟩

/-- Texts whose quotation marks and spaces imitate other texts are kept apart where they stand side
by side, and a payload that comes twice is refused. -/
theorem payloads_kept_apart_of_imitations :
    let comparison : Comparison := ⟨{}, .exact, fun _ => ∅⟩
    let imitations : List Record :=
      [.ofPayload "t" (.txt ["a", "b"]), .ofPayload "t" (.txt ["a\" \"b"]),
        .ofPayload "@" (.caa 0 "issue \"x" "y"), .ofPayload "@" (.caa 0 "issue" "x\" \"y")]
    let renewed := imitations.map fun record => { record with ttl := 60 }
    (∃ changes, comparison.changes renewed imitations = .ok changes ∧ changes.modify.length = 4 ∧
      ∀ pair ∈ changes.modify, pair.existing.Twins pair.desired) ∧
    let repeating := .ofPayload "t" (.txt ["a", "b"]) :: renewed
    let message := "duplicate desired record: TXT t \"a\" \"b\""
    comparison.changes repeating imitations = .error (.diff message) ∧
      (Fault "existing" (participates (comparison.zone.managesApexNs repeating)) imitations
          (.diff message) ∨
        Fault "desired" (fun _ => true) repeating (.diff message)) := by
  intro comparison imitations renewed
  obtain ⟨-, whole⟩ := payloads_kept_apart
  have admitted : comparison.Admits renewed imitations :=
    ⟨by decide, by decide, by decide, by decide +kernel, by decide +kernel⟩
  have compared := changes_eq_ok_iff.2 ⟨admitted, rfl⟩
  refine ⟨⟨_, compared, by decide +kernel, (whole comparison renewed imitations).1 _ compared⟩, ?_⟩
  intro repeating message
  have refused : comparison.changes repeating imitations = .error (.diff message) := rfl
  exact ⟨refused, (whole comparison repeating imitations).2 message refused⟩

end Comparison

end DnsReconcile
