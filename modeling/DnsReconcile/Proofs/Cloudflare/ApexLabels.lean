/-
# Labels of the zone itself

Two rules tell whether a label is that of the zone itself. Aliases are placed by one of them,
before labels are in canonical form: it passes over dots at the end and the case of ASCII letters.
Canonical labels follow the other one: it lower-cases all letters, and compares only full names,
which end in a dot, with the name of the zone. Of the labels that have a canonical form those in
three spellings are read differently. An alias under such a label stays below the zone, or a CNAME
gets to the zone itself, where neither is expected when records are read back.
-/

import DnsReconcile.Proofs.Cloudflare.AdaptedRecords
import DnsReconcile.Proofs.Text.AsciiCase
import DnsReconcile.Proofs.Zone.CanonicalForms

namespace DnsReconcile.Cloudflare

open Text

/-! ## Spellings -/

/-- A spelling of a label, without the blanks around it, is taken for that of the zone itself when
aliases are placed. The zone has the given name, without dots at its end. -/
def ReadsAsApex (name spelled : List Char) : Prop :=
  trimEndDots spelled = [] ∨ trimEndDots spelled = ['@'] ∨
    equalIgnoringAsciiCase (trimEndDots spelled) name = true

/-- The name of the zone without a dot at its end. As a label it is relative to the zone. -/
def IsBareName (name spelled : List Char) : Prop :=
  spelled ≠ ['@'] ∧ equalIgnoringAsciiCase spelled name = true

/-- The full name of the zone in letters whose case differs beyond ASCII. -/
def IsRecasedName (name spelled : List Char) : Prop :=
  ∃ front, spelled = front ++ ['.'] ∧ lower front = lower name ∧
    ¬ equalIgnoringAsciiCase front name = true

/-- The full name of the label `@` in the zone. -/
def IsSignName (name spelled : List Char) : Prop :=
  ∃ front, spelled = front ++ ['.'] ∧ lower front = '@' :: '.' :: lower name

/-- The spelling is one of those that the two rules read differently. -/
def IsMisread (name spelled : List Char) : Prop :=
  IsBareName name spelled ∨ IsRecasedName name spelled ∨ IsSignName name spelled

/-- The label, once there are no blanks around it, is in a spelling that the two rules read
differently. -/
def IsAmbiguous (zone label : String) : Prop :=
  IsMisread (trimEndDots zone.toList) (trim label.toList)

theorem atApex_iff {zone label : String} :
    atApex zone label = true ↔ ReadsAsApex (trimEndDots zone.toList) (trim label.toList) := by
  simp [atApex, ReadsAsApex, apexLabel, or_assoc]

section Spellings

variable {name spelled front : List Char}

theorem lower_congr (same : equalIgnoringAsciiCase spelled name = true) :
    lower spelled = lower name := by
  rw [← lower_asciiLower, equalIgnoringAsciiCase_iff.1 same, lower_asciiLower]

theorem lower_eq_sign_iff : lower spelled = ['@'] ↔ spelled = ['@'] :=
  lower_eq_singleton_iff (by decide) (by decide)

/-! ### Labels relative to the zone -/

theorem isMisread_iff_of_undotted (undotted : spelled.getLast? ≠ some '.') :
    IsMisread name spelled ↔ IsBareName name spelled := by
  have no_full_name (front : List Char) : spelled ≠ front ++ ['.'] := fun whole =>
    undotted (whole ▸ List.getLast?_concat)
  simp [IsMisread, IsRecasedName, IsSignName, no_full_name]

/-- Without a dot at the end only the bare name of the zone is mistaken for the zone itself. -/
theorem readsAsApex_iff_of_undotted (undotted : spelled.getLast? ≠ some '.')
    (present : spelled ≠ []) (other : spelled ≠ ['@']) :
    ReadsAsApex name spelled ↔ IsBareName name spelled := by
  rw [ReadsAsApex, trimEndDots_eq_self undotted]
  simp [IsBareName, present, other]

/-! ### Full names -/

section FullNames

variable (relative : name.getLast? ≠ some '.')
include relative

theorem isMisread_append_dot_iff :
    IsMisread name (front ++ ['.']) ↔
      lower front = lower name ∧ ¬ equalIgnoringAsciiCase front name = true ∨
        lower front = '@' :: '.' :: lower name := by
  have no_bare_name : ¬ IsBareName name (front ++ ['.']) := fun bare =>
    relative ((getLast?_eq_dot_congr (equalIgnoringAsciiCase_iff.1 bare.2)).1
      List.getLast?_concat)
  simp [IsMisread, no_bare_name, IsRecasedName, IsSignName]

variable (named : name ≠ [])
include named

/-- A full name that is at the zone or below it is taken for the zone itself if it is the zone's,
up to the case of ASCII letters. -/
theorem readsAsApex_append_dot_iff (inside : lower name <:+ lower front) :
    ReadsAsApex name (front ++ ['.']) ↔ equalIgnoringAsciiCase front name = true := by
  have present : lower name ≠ [] := mt lower_eq_nil_iff.1 named
  have undotted : front.getLast? ≠ some '.' := by
    intro last
    obtain ⟨before, rfl⟩ := List.getLast?_eq_some_iff.1 last
    rw [lower_append_dot] at inside
    obtain ⟨label, whole⟩ := inside
    have own : (lower name).getLast? = some '.' := by
      rw [← List.getLast?_append_of_ne_nil label present, whole, List.getLast?_concat]
    exact getLast?_lower_ne_dot relative own
  rw [ReadsAsApex, trimEndDots_append_dot, trimEndDots_eq_self undotted]
  apply Iff.intro
  · rintro (empty | sign | same)
    · rw [lower_eq_nil_iff.2 empty, List.suffix_nil] at inside
      exact absurd inside present
    · rw [lower_eq_sign_iff.2 sign, List.suffix_cons_iff, List.suffix_nil] at inside
      have own : name = ['@'] := lower_eq_sign_iff.1 (inside.resolve_right present)
      rw [sign, own]
      exact equalIgnoringAsciiCase_iff.2 rfl
    · exact same
  · exact fun same => Or.inr (Or.inr same)

end FullNames

/-- The two rules agree about all spellings but three. -/
theorem readsAsApex_iff_of_labelForm (relative : name.getLast? ≠ some '.') (named : name ≠ [])
    {form : List Char} (read : Origin.LabelForm (lower name) (lower spelled) form) :
    (ReadsAsApex name spelled ↔ form = ['@']) ↔ ¬ IsMisread name spelled := by
  generalize lowered : lower spelled = image at read
  cases read with
  | blank =>
      rw [lower_eq_nil_iff.1 lowered, isMisread_iff_of_undotted (by decide)]
      refine iff_of_true (iff_of_true (Or.inl rfl) rfl) fun bare => named ?_
      have lengths := length_eq_of_asciiLower_eq (equalIgnoringAsciiCase_iff.1 bare.2)
      exact List.eq_nil_of_length_eq_zero lengths.symm
  | sign =>
      rw [lower_eq_sign_iff.1 lowered, isMisread_iff_of_undotted (by decide)]
      exact iff_of_true (iff_of_true (Or.inr (Or.inl rfl)) rfl) fun bare => bare.1 rfl
  | relative present other undotted =>
      have undotted : spelled.getLast? ≠ some '.' := by
        intro last
        obtain ⟨front, rfl⟩ := List.getLast?_eq_some_iff.1 last
        exact undotted (lowered ▸ lower_append_dot front ▸ List.getLast?_concat)
      have present : spelled ≠ [] := fun empty => present (lowered ▸ lower_eq_nil_iff.2 empty)
      have apart : spelled ≠ ['@'] := fun sign => other (lowered ▸ lower_eq_sign_iff.2 sign)
      rw [readsAsApex_iff_of_undotted undotted present apart, isMisread_iff_of_undotted undotted,
        iff_false_right other]
  | apex =>
      obtain ⟨front, rfl, own⟩ := exists_of_lower_eq_append_dot lowered
      have longer : lower name ≠ '@' :: '.' :: lower name := fun same => by
        have lengths := congrArg List.length same
        simp only [List.length_cons] at lengths
        omega
      rw [readsAsApex_append_dot_iff relative named (own ▸ List.suffix_rfl),
        isMisread_append_dot_iff relative, own]
      simp [longer]
  | below present =>
      obtain ⟨front, rfl, own⟩ := exists_of_lower_eq_append_dot lowered
      have inside : lower name <:+ lower front :=
        own ▸ (List.suffix_cons '.' _).trans (List.suffix_append form _)
      have longer : lower front ≠ lower name := fun same => by
        have lengths := congrArg List.length (own.symm.trans same)
        simp only [List.length_append, List.length_cons] at lengths
        omega
      have other : ¬ equalIgnoringAsciiCase front name = true := mt lower_congr longer
      rw [readsAsApex_append_dot_iff relative named inside, isMisread_append_dot_iff relative,
        iff_false_left other, or_iff_right (fun recased => longer recased.1), own]
      exact not_congr (List.append_left_inj ('.' :: lower name)).symm

end Spellings

/-- The label `@` is read in one way. -/
theorem not_isAmbiguous_apexLabel (zone : String) : ¬ IsAmbiguous zone apexLabel := by
  have spelled : trim apexLabel.toList = ['@'] := by decide
  rw [IsAmbiguous, spelled, isMisread_iff_of_undotted (by decide)]
  exact fun bare => bare.1 rfl

/-- Where the name of the zone has no blanks around it, the two rules agree about all labels but
those in the three spellings. -/
theorem atApex_iff_of_label {zone label : String} {ttl : UInt32} {form : List Char}
    (trimmed : trim zone.toList = zone.toList) (named : trimEndDots zone.toList ≠ [])
    (found : (Origin.ofName zone ttl).label label.toList = .ok form) :
    (atApex zone label = true ↔ form = ['@']) ↔ ¬ IsAmbiguous zone label := by
  have read := Origin.labelForm_of_label found
  rw [Origin.ofName, trimmed] at read
  rw [atApex_iff]
  exact readsAsApex_iff_of_labelForm (getLast?_trimEndDots _) named read

/-! ## Aliases -/

/-- The payload is that of a CNAME or an alias. -/
def IsPointer (payload : Payload) : Prop :=
  ∃ target, payload = .cname target ∨ payload = .aliased target

/-- The record is no CNAME of the zone itself, and no alias of any other name. -/
structure IsPlaced (record : Record) : Prop where
  cname : record.type = .cname → record.isApex = false
  aliased : record.type = .aliased → record.isApex = true

section Placed

variable {origin : Origin} {zone : String} {record form : Record}

theorem isPointer_iff_of_fits {payload : Payload} {type : RecordType}
    (fits : payload.fits type = true) :
    IsPointer payload ↔ type = .cname ∨ type = .aliased := by
  cases payload <;> cases type <;> simp_all [IsPointer, Payload.fits, Payload.type,
    RecordType.isPseudo]

/-- A CNAME or an alias becomes an alias if its label is read as that of the zone itself, and a
CNAME otherwise. -/
theorem type_placeAlias (pointer : IsPointer record.payload)
    (fits : (placeAlias zone record).payload.fits (placeAlias zone record).type = true) :
    (placeAlias zone record).type =
      if atApex zone record.label = true then .aliased else .cname := by
  obtain ⟨target, paid | paid⟩ := pointer
  · simp only [placeAlias, paid] at fits ⊢
    split at fits
    · next apex => rw [if_pos apex, if_pos apex]
    · next other =>
      rw [paid] at fits
      rw [if_neg other, if_neg other, beq_iff_eq.1 fits]
      rfl
  · simp only [placeAlias, paid] at fits ⊢
    split at fits
    · next apex =>
      rw [paid] at fits
      rw [if_pos apex, if_pos apex, beq_iff_eq.1 fits]
      rfl
    · next other => rw [if_neg other, if_neg other]

theorem isPointer_placeAlias (zone : String) (record : Record) :
    IsPointer (placeAlias zone record).payload ↔ IsPointer record.payload := by
  cases paid : record.payload with
  | cname target =>
      simp only [placeAlias, paid]
      split <;> simp [IsPointer, paid]
  | aliased target =>
      simp only [placeAlias, paid]
      split <;> simp [IsPointer, paid]
  | _ => simp only [placeAlias, paid]

/-- Whether a canonical form is where its type belongs is a question about the labels of CNAMEs
and aliases only. -/
theorem isPlaced_iff_of_placeAlias (found : origin.record (placeAlias zone record) = .ok form) :
    IsPlaced form ↔
      (IsPointer record.payload → (atApex zone record.label = true ↔ form.isApex = true)) := by
  have fits := (Origin.record_eq_ok_iff.1 found).1
  have type := Origin.type_of_record found
  by_cases pointer : IsPointer record.payload
  · rw [type_placeAlias pointer fits] at type
    rw [forall_prop_of_true pointer]
    by_cases apex : atApex zone record.label = true
    · rw [if_pos apex] at type
      rw [iff_true_left apex]
      exact ⟨fun placed => placed.aliased type, fun own => ⟨by simp [type], fun _ => own⟩⟩
    · rw [if_neg apex] at type
      rw [iff_false_left apex, Bool.not_eq_true]
      exact ⟨fun placed => placed.cname type, fun own => ⟨fun _ => own, by simp [type]⟩⟩
  · rw [forall_prop_of_false pointer, iff_true]
    rw [← isPointer_placeAlias zone, isPointer_iff_of_fits fits, ← type, not_or]
      at pointer
    exact ⟨fun cname => absurd cname pointer.1, fun aliased => absurd aliased pointer.2⟩

end Placed

variable {options : Options} {zone desired : Zone} {forms : List Record}

/-- Once a zone has been adapted, its canonical records are where their types belong if and only
if its CNAMEs and aliases have labels that the two rules agree about. -/
theorem forall_isPlaced_iff (trimmed : trim zone.name.toList = zone.name.toList)
    (named : trimEndDots zone.name.toList ≠ [])
    (adapted : (adaptZone options zone).2 = .ok desired)
    (normal : RecordSet.normalize (Origin.ofZone desired) desired.records = .ok forms) :
    (∀ form ∈ forms, IsPlaced form) ↔
      ∀ record ∈ zone.records, isRedirect record.type = false → IsPointer record.payload →
        ¬ IsAmbiguous zone.name record.label := by
  obtain ⟨features, proxyDefault, records, -, found, rfl⟩ := exists_of_adaptZone adapted
  -- What becomes of a record that is no redirect.
  have placed_iff {record placed form : Record} (other : isRedirect record.type = false)
      (made : adaptRecord options zone.name proxyDefault zone.effectiveTtl record = .ok placed)
      (own : (Origin.ofZone zone).record placed = .ok form) :
      IsPlaced form ↔ (IsPointer record.payload → ¬ IsAmbiguous zone.name record.label) := by
    obtain ⟨marked, ⟨label, -, payload⟩, rfl⟩ := exists_placeAlias_of_adaptRecord made other
    have labelled := Origin.label_of_record own
    have same_label : (placeAlias zone.name marked).label = record.label := by
      obtain ⟨type, data, same, -, -⟩ := placeAlias_eq zone.name marked
      rw [same, label]
    rw [same_label] at labelled
    have apex : form.isApex = true ↔ form.label.toList = ['@'] := by
      rw [Record.isApex, beq_iff_eq, ← String.toList_inj]
      rfl
    rw [isPlaced_iff_of_placeAlias own, label, payload, apex,
      atApex_iff_of_label trimmed named labelled]
  apply Iff.intro
  · intro all record authored other pointer
    by_cases left_out : isApexNs record = true
    · have label : record.label = apexLabel := by
        rw [isApexNs, Bool.and_eq_true] at left_out
        exact beq_iff_eq.1 left_out.1
      rw [label]
      exact not_isAmbiguous_apexLabel zone.name
    · have kept : record ∈ keptRecords zone := by
        refine List.mem_filter.2 ⟨authored, ?_⟩
        rw [Bool.eq_false_iff.2 left_out]
        rfl
      obtain ⟨placed, made, stays⟩ := exists_mem_adaptRecords found kept
      obtain ⟨form, member, own⟩ :=
        RecordSet.exists_mem_normalize normal (stays (isRedirect_of_adaptRecord made ▸ other))
      exact (placed_iff other made own).1 (all form member) pointer
  · intro plain form member
    obtain ⟨placed, listed, own⟩ := (RecordSet.mem_normalize_iff normal).1 member
    rcases source_of_mem_adaptRecords found listed with ⟨other, record, kept, made⟩ | ⟨-, rule⟩
    · rw [isRedirect_of_adaptRecord made] at other
      exact (placed_iff other made own).2 (plain record (List.mem_of_mem_filter kept) other)
    · have type := (Origin.type_of_record own).trans rule.type
      exact ⟨by simp [type], by simp [type]⟩

/-- The rule by which aliases are placed and the one for canonical labels agree about a label
unless it is the bare name of the zone, its full name in letters whose case differs beyond ASCII,
or the full name of the label `@`. Only CNAMEs and aliases under such labels end up where their
types do not belong. -/
theorem apex_by_spelling {zone : Zone} (trimmed : trim zone.name.toList = zone.name.toList)
    (named : trimEndDots zone.name.toList ≠ []) :
    (∀ (ttl : UInt32) (label : String) (form : List Char),
      (Origin.ofName zone.name ttl).label label.toList = .ok form →
        ((atApex zone.name label = true ↔ form = ['@']) ↔ ¬ IsAmbiguous zone.name label)) ∧
      ∀ (options : Options) (desired : Zone) (forms : List Record),
        (adaptZone options zone).2 = .ok desired →
          RecordSet.normalize (Origin.ofZone desired) desired.records = .ok forms →
            ((∀ form ∈ forms, IsPlaced form) ↔
              ∀ record ∈ zone.records, isRedirect record.type = false →
                IsPointer record.payload → ¬ IsAmbiguous zone.name record.label) :=
  ⟨fun _ _ _ => atApex_iff_of_label trimmed named,
    fun _ _ _ => forall_isPlaced_iff trimmed named⟩

/-- The zone itself under its full name in capitals, and an alias of another name. -/
theorem apex_by_spelling_of_full_name :
    let zone : Zone := {
      name := "example.com."
      records := [.ofPayload "EXAMPLE.com." (.cname "host.example.net."),
        .ofPayload "www" (.aliased "host.example.net.")] }
    trim zone.name.toList = zone.name.toList ∧ trimEndDots zone.name.toList ≠ [] ∧
      (atApex zone.name "EXAMPLE.com." = true ↔ ¬ IsAmbiguous zone.name "EXAMPLE.com.") ∧
      ∃ desired forms, (adaptZone {} zone).2 = .ok desired ∧
        RecordSet.normalize (Origin.ofZone desired) desired.records = .ok forms ∧
        forms.map (fun form => (form.label, form.payload)) =
          [("@", .aliased "host.example.net."), ("www", .cname "host.example.net.")] ∧
        ((∀ form ∈ forms, IsPlaced form) ↔ ∀ record ∈ zone.records,
          isRedirect record.type = false → IsPointer record.payload →
            ¬ IsAmbiguous zone.name record.label) := by
  intro zone
  have trimmed : trim zone.name.toList = zone.name.toList := by decide
  have named : trimEndDots zone.name.toList ≠ [] := by decide
  obtain ⟨agree, placed⟩ := apex_by_spelling trimmed named
  have labelled : (Origin.ofName zone.name 300).label "EXAMPLE.com.".toList = .ok ['@'] := by
    decide
  obtain ⟨desired, adapted, listed⟩ := exists_eq_ok_of_map
    (show (adaptZone {} zone).2.toOption.map (fun desired =>
        (RecordSet.normalize (Origin.ofZone desired) desired.records).toOption.map
          (·.map fun form => (form.label, form.payload))) =
      some (some [("@", .aliased "host.example.net."), ("www", .cname "host.example.net.")]) by
      decide)
  obtain ⟨forms, normal, seen⟩ := exists_eq_ok_of_map listed
  exact ⟨trimmed, named, by simpa using agree 300 "EXAMPLE.com." ['@'] labelled, desired, forms,
    adapted, normal, seen, placed {} desired forms adapted normal⟩

/-- The two rules do not agree about every label: the bare name of the zone is read as that of the
zone itself, but stays below it. Nor are all records where their types belong: under the full name
of the label `@` there can be a CNAME of the zone itself. -/
theorem apex_not_of_every_spelling :
    (¬ ∀ (zone label : String) (ttl : UInt32) (form : List Char),
      trim zone.toList = zone.toList → trimEndDots zone.toList ≠ [] →
        (Origin.ofName zone ttl).label label.toList = .ok form →
          (atApex zone label = true ↔ form = ['@'])) ∧
      ¬ ∀ (options : Options) (zone desired : Zone) (forms : List Record),
        trim zone.name.toList = zone.name.toList → trimEndDots zone.name.toList ≠ [] →
          (adaptZone options zone).2 = .ok desired →
            RecordSet.normalize (Origin.ofZone desired) desired.records = .ok forms →
              ∀ form ∈ forms, IsPlaced form := by
  have trimmed : trim "example.com".toList = "example.com".toList := by decide
  have named : trimEndDots "example.com".toList ≠ [] := by decide
  apply And.intro
  · intro agree
    have below : (Origin.ofName "example.com" 300).label "example.com".toList =
        .ok "example.com".toList := by decide
    have same := (agree "example.com" "example.com" 300 _ trimmed named below).1 (by decide)
    exact absurd same (by decide)
  · intro placed
    let zone : Zone := {
      name := "example.com"
      records := [.ofPayload "@.example.com." (.cname "host.example.net.")] }
    obtain ⟨desired, adapted, listed⟩ := exists_eq_ok_of_map
      (show (adaptZone {} zone).2.toOption.map (fun desired =>
          (RecordSet.normalize (Origin.ofZone desired) desired.records).toOption.map
            (·.map fun form => (form.type, form.isApex))) =
        some (some [(.cname, true)]) by decide)
    obtain ⟨forms, normal, seen⟩ := exists_eq_ok_of_map listed
    obtain ⟨form, rfl, own⟩ := List.map_eq_singleton_iff.1 seen
    obtain ⟨type, apex⟩ := Prod.mk.inj own
    have below := (placed {} zone desired _ trimmed named adapted normal form
      (List.mem_singleton_self _)).cname type
    exact Bool.false_ne_true (below.symm.trans apex)

end DnsReconcile.Cloudflare
