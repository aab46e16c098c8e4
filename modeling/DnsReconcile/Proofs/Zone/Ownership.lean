/-
# Whose records they are

Which records of a zone belong to somebody else: those at ignored labels, CNAMEs with ignored
targets, and the name servers of the zone itself unless it manages them. The checks that keep a
zone from asking for such records, and from comparing with them, are said by these notions.
-/

import DnsReconcile.Changeset.Comparison

namespace DnsReconcile

variable {zone : Zone} {matcher : LabelMatcher} {record : Record} {label : String}

namespace Zone

/-- Records at the label are left alone. -/
def IgnoresLabel (zone : Zone) (matcher : LabelMatcher) (label : String) : Prop :=
  ∃ pattern ∈ zone.ignoreLabels, matcher.covers pattern label = true

/-- The record is a CNAME that is left alone for its target. -/
def IgnoresTarget (zone : Zone) (matcher : LabelMatcher) (record : Record) : Prop :=
  ∃ target, record.payload = .cname target ∧
    ∃ pattern ∈ zone.ignoreTargets,
      matcher.covers (withoutFinalDots pattern) (withoutFinalDots target) = true

theorem isSome_ignoredLabel?_iff :
    (zone.ignoredLabel? matcher label).isSome = true ↔ zone.IgnoresLabel matcher label :=
  List.find?_isSome

theorem isSome_ignoredByTarget?_iff :
    (zone.ignoredByTarget? matcher record).isSome = true ↔ zone.IgnoresTarget matcher record := by
  simp only [ignoredByTarget?, IgnoresTarget]
  split
  · next target named => simp [named, ignoredTarget?, List.find?_isSome]
  · next other =>
    apply iff_of_false Bool.false_ne_true
    intro ignored
    obtain ⟨target, named, -⟩ := ignored
    exact other target named

/-- A zone may ask for a record that overrides the label rule, and for one that belongs to
nobody else. -/
theorem checkRecord_eq_ok_iff :
    zone.checkRecord matcher record = .ok () ↔
      record.hasIgnoreOverride = true ∨
        ¬ zone.IgnoresLabel matcher record.label ∧ ¬ zone.IgnoresTarget matcher record := by
  rw [← isSome_ignoredLabel?_iff, ← isSome_ignoredByTarget?_iff]
  simp only [checkRecord]
  by_cases override : record.hasIgnoreOverride = true
  · simp [override]
  · cases zone.ignoredLabel? matcher record.label with
    | some pattern => simp [override, Record.refuse]
    | none =>
        cases zone.ignoredByTarget? matcher record with
        | some pattern => simp [override, Record.refuse]
        | none => simp [override]

/-- A record that belongs to somebody else is refused as settings are. -/
theorem isValidation_of_checkRecord {error : Error}
    (refused : zone.checkRecord matcher record = .error error) : error.isValidation = true := by
  simp only [checkRecord] at refused
  split at refused
  · cases refused
  · split at refused
    · obtain rfl := Except.error.inj refused
      rfl
    · split at refused
      · obtain rfl := Except.error.inj refused
        rfl
      · cases refused

end Zone

/-! ## Name servers of the zone itself -/

/-- The record is a name server of the zone itself. -/
def Record.IsApexNs (record : Record) : Prop :=
  record.type = .ns ∧ record.isApex = true

theorem Record.isApexNs_iff : record.IsApexNs ↔ (record.type == .ns && record.isApex) = true := by
  rw [IsApexNs, Bool.and_eq_true, beq_iff_eq]

/-- Only unmanaged name servers of the zone itself stay out of a comparison. -/
theorem Comparison.participates_iff {managesApexNs : Bool} :
    participates managesApexNs record = true ↔ managesApexNs = true ∨ ¬ record.IsApexNs := by
  rw [participates, Bool.or_eq_true, Bool.not_eq_true', Record.isApexNs_iff, Bool.not_eq_true]

theorem Zone.managesApexNs_iff {desired : List Record} :
    zone.managesApexNs desired = true ↔
      zone.manageApexNs = true ∨ ∃ record ∈ desired, record.IsApexNs := by
  simp only [managesApexNs, Bool.or_eq_true, List.any_eq_true, Record.isApexNs_iff]

end DnsReconcile
