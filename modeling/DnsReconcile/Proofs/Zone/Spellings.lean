/-
# Spellings of one record

A name can be spelled in several ways: in letters of either case, in full or relative to the zone,
with or without a dot at its end. Labels and targets differ in what may be left out. Spellings are
related by single steps, and whatever can be reached from a spelling by such steps, in either
direction, is a spelling of the same name. All spellings of a record have the same canonical form,
if they have one at all, and so the same identity. Names are taken to be of ASCII characters
without blanks: a blank in front of a dot that is added would be there to stay, and a capital sigma
has another lower case at the end of a word.
-/

import DnsReconcile.Proofs.Text.AsciiCase
import DnsReconcile.Proofs.Zone.CanonicalForms
import DnsReconcile.Record.Key
import Mathlib.Logic.Relation

namespace DnsReconcile

open Text

/-! ## Spellings -/

/-- A name of ASCII characters without blanks. -/
def IsPlain (name : List Char) : Prop :=
  ∀ c ∈ name, c.toNat < 128 ∧ isBlank c = false

instance : DecidablePred IsPlain := fun name => List.decidableBAll _ name

/-- Single steps between spellings of a label. What is not a full name can be made one. -/
inductive LabelStep (zone : List Char) : List Char → List Char → Prop where
  | letters {first second : List Char} (same : asciiLower first = asciiLower second) :
      LabelStep zone first second
  | full {label : List Char} (present : label ≠ []) (relative : label.getLast? ≠ some '.') :
      LabelStep zone label (label ++ '.' :: zone ++ ['.'])

/-- Single steps between spellings of a target. A name without dots is relative to the zone, and a
name with dots is a full name even if it does not end in one. -/
inductive TargetStep (zone : List Char) : List Char → List Char → Prop where
  | letters {first second : List Char} (same : asciiLower first = asciiLower second) :
      TargetStep zone first second
  | full {target : List Char} (present : target ≠ []) (single : '.' ∉ target)
      (other : target ≠ ['@']) : TargetStep zone target (target ++ '.' :: zone ++ ['.'])
  | closed {target : List Char} (dotted : '.' ∈ target) (relative : target.getLast? ≠ some '.') :
      TargetStep zone target (target ++ ['.'])

/-- Two spellings of one label of a zone. -/
def SameLabel (zone first second : String) : Prop :=
  Relation.EqvGen (LabelStep zone.toList) first.toList second.toList

/-- Two spellings of one name that records of a zone point at. -/
def SameTarget (zone first second : String) : Prop :=
  Relation.EqvGen (TargetStep zone.toList) first.toList second.toList

namespace Payload

/-- Two spellings of one payload. They may differ in the names it points at, and in the letters of
a tag and of hexadecimal digits. -/
inductive Respelled (zone : String) : Payload → Payload → Prop where
  | same (payload : Payload) : Respelled zone payload payload
  | cname {first second : String} (target : SameTarget zone first second) :
      Respelled zone (.cname first) (.cname second)
  | aliased {first second : String} (target : SameTarget zone first second) :
      Respelled zone (.aliased first) (.aliased second)
  | ns {first second : String} (target : SameTarget zone first second) :
      Respelled zone (.ns first) (.ns second)
  | ptr {first second : String} (target : SameTarget zone first second) :
      Respelled zone (.ptr first) (.ptr second)
  | mx (preference : UInt16) {first second : String} (exchange : SameTarget zone first second) :
      Respelled zone (.mx preference first) (.mx preference second)
  | srv (priority weight port : UInt16) {first second : String}
      (target : SameTarget zone first second) :
      Respelled zone (.srv priority weight port first) (.srv priority weight port second)
  | caa (flags : UInt8) (value : String) {first second : String}
      (tag : equalIgnoringAsciiCase first.toList second.toList = true) :
      Respelled zone (.caa flags first value) (.caa flags second value)
  | tlsa (usage selector matchingType : UInt8) {first second : String}
      (certificate : equalIgnoringAsciiCase first.toList second.toList = true) :
      Respelled zone (.tlsa usage selector matchingType first)
        (.tlsa usage selector matchingType second)
  | sshfp (algorithm fingerprintType : UInt8) {first second : String}
      (fingerprint : equalIgnoringAsciiCase first.toList second.toList = true) :
      Respelled zone (.sshfp algorithm fingerprintType first)
        (.sshfp algorithm fingerprintType second)
  | ds (keyTag : UInt16) (algorithm digestType : UInt8) {first second : String}
      (digest : equalIgnoringAsciiCase first.toList second.toList = true) :
      Respelled zone (.ds keyTag algorithm digestType first)
        (.ds keyTag algorithm digestType second)
  | soa {first second first' second' : String} (serial refresh retry expire minimum : UInt32)
      (mname : SameTarget zone first second) (rname : SameTarget zone first' second') :
      Respelled zone (.soa first first' serial refresh retry expire minimum)
        (.soa second second' serial refresh retry expire minimum)

theorem Respelled.fits_eq {zone : String} {first second : Payload}
    (same : first.Respelled zone second) (type : RecordType) :
    second.fits type = first.fits type := by
  cases same <;> rfl

/-- The names that a payload points at. -/
def names : Payload → List String
  | .cname target | .aliased target | .ns target | .ptr target => [target]
  | .mx _ exchange => [exchange]
  | .srv _ _ _ target => [target]
  | .soa mname rname .. => [mname, rname]
  | _ => []

end Payload

/-- Two spellings of one record. Where the records came from does not matter. -/
structure Record.Respelled (zone : String) (first second : Record) : Prop where
  type : second.type = first.type
  ttl : second.ttl = first.ttl
  metadata : second.metadata = first.metadata
  label : SameLabel zone first.label second.label
  payload : first.payload.Respelled zone second.payload

/-! ## Plain names -/

section Plain

variable {name text first second : List Char}

theorem isPlain_append : IsPlain (first ++ second) ↔ IsPlain first ∧ IsPlain second :=
  List.forall_mem_append

theorem isPlain_dot : IsPlain ['.'] :=
  List.forall_mem_singleton.2 (by decide)

/-- A name in full is plain if it was before. -/
theorem isPlain_full_iff (plain : IsPlain second) :
    IsPlain first ↔ IsPlain (first ++ '.' :: second ++ ['.']) := by
  have ending : IsPlain (['.'] ++ second) := isPlain_append.2 ⟨isPlain_dot, plain⟩
  rw [isPlain_append, and_iff_left isPlain_dot]
  exact (isPlain_append.trans (and_iff_left ending)).symm

theorem isPlain_asciiLower : IsPlain (asciiLower text) ↔ IsPlain text := by
  have same (c : Char) := eq_of_asciiCapitals (fun c => (decide (c.toNat < 128), isBlank c))
    (by decide +kernel) c
  unfold IsPlain asciiLower
  rw [List.forall_mem_map]
  refine forall₂_congr fun c _ => ?_
  obtain ⟨ascii, blank⟩ := Prod.mk.inj (same c)
  rw [blank, decide_eq_decide.1 ascii]

theorem isPlain_congr (same : asciiLower first = asciiLower second) :
    IsPlain first ↔ IsPlain second := by
  rw [← isPlain_asciiLower, same, isPlain_asciiLower]

namespace IsPlain

theorem trim_eq (plain : IsPlain name) : trim name = name :=
  trim_eq_self (fun c head => (plain c (List.mem_of_mem_head? head)).2)
    (fun c last => (plain c (List.mem_of_getLast? last)).2)

theorem lower_eq (plain : IsPlain name) : lower name = name.flatMap lowerChar :=
  lower_eq_flatMap fun c member sigma =>
    absurd (plain c member).1 (sigma ▸ by decide)

/-- Plain names are lower-cased part by part. -/
theorem lower_append (plain : IsPlain first) (plain' : IsPlain second) :
    lower (first ++ second) = lower first ++ lower second := by
  rw [(isPlain_append.2 ⟨plain, plain'⟩).lower_eq, plain.lower_eq, plain'.lower_eq,
    List.flatMap_append]

theorem mem_lower_dot_iff (plain : IsPlain name) : '.' ∈ lower name ↔ '.' ∈ name := by
  rw [plain.lower_eq, List.mem_flatMap]
  apply Iff.intro
  · rintro ⟨c, member, image⟩
    exact eq_of_mem_lowerChar (by decide) image ▸ member
  · exact fun member => ⟨'.', member, by decide⟩

/-- A name in full, made lower case. -/
theorem lower_trim_full (plain : IsPlain first) (plain' : IsPlain second) :
    lower (trim (first ++ '.' :: second ++ ['.'])) =
      lower first ++ '.' :: lower second ++ ['.'] := by
  have behind : IsPlain (['.'] ++ second) := isPlain_append.2 ⟨isPlain_dot, plain'⟩
  have whole := (isPlain_full_iff plain').1 plain
  have inner : lower ('.' :: second) = '.' :: lower second :=
    (isPlain_dot.lower_append plain').trans rfl
  have outer : lower (first ++ '.' :: second) = lower first ++ '.' :: lower second := by
    rw [← inner]
    exact plain.lower_append behind
  rw [whole.trim_eq, lower_append_dot, outer]

end IsPlain

/-- What single steps keep, for good texts, all spellings share. -/
theorem eq_of_eqvGen {α β : Type} {step : α → α → Prop} {good : α → Prop} {value : α → β}
    (kept : ∀ x y, step x y → (good x ↔ good y))
    (same : ∀ x y, step x y → good x → value x = value y) {x y : α}
    (related : Relation.EqvGen step x y) : (good x ↔ good y) ∧ (good x → value x = value y) := by
  induction related with
  | rel x y step => exact ⟨kept x y step, same x y step⟩
  | refl x => exact ⟨Iff.rfl, fun _ => rfl⟩
  | symm x y _ ih => exact ⟨ih.1.symm, fun good => (ih.2 (ih.1.2 good)).symm⟩
  | trans x y z _ _ ih ih' =>
      exact ⟨ih.1.trans ih'.1, fun good => (ih.2 good).trans (ih'.2 (ih.1.1 good))⟩

end Plain

namespace Origin

variable {origin : Origin} {name text first second label target : List Char} {allowNull : Bool}

/-! ## Labels -/

/-- The origin of a zone does not depend on the case of its name. -/
theorem ofName_congr {zone other : String} (same : asciiLower zone.toList = asciiLower other.toList)
    (ttl : UInt32) : ofName zone ttl = ofName other ttl := by
  have shortened : asciiLower (trimEndDots (trim zone.toList)) =
      asciiLower (trimEndDots (trim other.toList)) := by
    rw [← trimEndDots_asciiLower, trim_congr same, trimEndDots_asciiLower]
  rw [ofName, ofName, ← lower_asciiLower, shortened, lower_asciiLower]

/-- Nor does the canonical form of a label. -/
theorem label_congr (origin : Origin) (same : asciiLower first = asciiLower second) :
    origin.label first = origin.label second := by
  unfold Origin.label
  rw [lower_trim_congr same]

theorem label_of_relative (plain : IsPlain label) (present : label ≠ [])
    (relative : label.getLast? ≠ some '.') : origin.label label = .ok (Text.lower label) := by
  refine label_of_labelForm ?_
  rw [plain.trim_eq]
  exact .of_undotted (mt lower_eq_nil_iff.1 present) (getLast?_lower_ne_dot relative)

/-- A label in full stands for the label that is relative to the zone. -/
theorem label_of_full_name (zone : origin.zone = Text.lower name) (named : IsPlain name)
    (plain : IsPlain label) (present : label ≠ []) :
    origin.label (label ++ '.' :: name ++ ['.']) = .ok (Text.lower label) := by
  refine label_of_labelForm ?_
  rw [plain.lower_trim_full named, zone]
  exact .below (mt lower_eq_nil_iff.1 present)

section Zone

variable (zone : origin.zone = Text.lower name) (named : IsPlain name)
include zone named

theorem label_step (step : LabelStep name first second) (plain : IsPlain first) :
    origin.label first = origin.label second := by
  cases step with
  | letters same => exact label_congr origin same
  | full present relative =>
      rw [label_of_relative plain present relative, label_of_full_name zone named plain present]

omit zone in
theorem isPlain_iff_of_label_step (step : LabelStep name first second) :
    IsPlain first ↔ IsPlain second := by
  cases step with
  | letters same => exact isPlain_congr same
  | full => exact isPlain_full_iff named

end Zone

/-! ## Targets -/

/-- A full name is its own canonical form, once it is in lower case. -/
theorem target_of_full_name {front : List Char} (present : front ≠ [])
    (spelled : Text.lower (trim text) = front ++ ['.']) :
    origin.target allowNull text = .ok (front ++ ['.']) := by
  refine target_of_targetForm ?_
  rw [spelled]
  exact .full (fun null => present (List.append_cancel_right null)) List.getLast?_concat

/-- A name with dots becomes a full name. -/
theorem target_of_dotted (plain : IsPlain target) (dotted : '.' ∈ target)
    (relative : target.getLast? ≠ some '.') :
    origin.target allowNull target = .ok (Text.lower target ++ ['.']) := by
  refine target_of_targetForm ?_
  rw [plain.trim_eq]
  exact .dotted (plain.mem_lower_dot_iff.2 dotted) (getLast?_lower_ne_dot relative)

/-- A name without dots belongs to the zone. -/
theorem target_of_single (plain : IsPlain target) (present : target ≠ []) (other : target ≠ ['@'])
    (single : '.' ∉ target) :
    origin.target allowNull target = .ok (Text.lower target ++ '.' :: origin.zone ++ ['.']) := by
  refine target_of_targetForm ?_
  rw [plain.trim_eq]
  exact .single (mt lower_eq_nil_iff.1 present)
    (mt (lower_eq_singleton_iff (by decide) (by decide)).1 other)
    (mt plain.mem_lower_dot_iff.1 single)

section Zone

variable (zone : origin.zone = Text.lower name) (named : IsPlain name)
include named

theorem isPlain_iff_of_target_step (step : TargetStep name first second) :
    IsPlain first ↔ IsPlain second := by
  cases step with
  | letters same => exact isPlain_congr same
  | full => exact isPlain_full_iff named
  | closed => exact (isPlain_append.trans (and_iff_left isPlain_dot)).symm

include zone

theorem target_step (step : TargetStep name first second) (plain : IsPlain first) :
    origin.target allowNull first = origin.target allowNull second := by
  cases step with
  | letters same =>
      unfold Origin.target
      rw [lower_trim_congr same]
  | full present single other =>
      rw [target_of_single plain present other single, zone]
      refine (target_of_full_name ?_ (plain.lower_trim_full named)).symm
      exact List.append_ne_nil_of_right_ne_nil _ (List.cons_ne_nil _ _)
  | closed dotted relative =>
      have present : first ≠ [] := List.ne_nil_of_mem dotted
      have closed : IsPlain (first ++ ['.']) := isPlain_append.2 ⟨plain, isPlain_dot⟩
      rw [target_of_dotted plain dotted relative]
      refine (target_of_full_name (mt lower_eq_nil_iff.1 present) ?_).symm
      rw [closed.trim_eq, lower_append_dot]

end Zone

/-! ## Digits -/

/-- A way to spell a text that does not depend on the case of its ASCII letters. -/
def IgnoresCase (spell : List Char → List Char) : Prop :=
  ∀ first second, asciiLower first = asciiLower second → spell first = spell second

theorem ignoresCase_lower : IgnoresCase Text.lower := fun first second same => by
  rw [← lower_asciiLower first, same, lower_asciiLower]

theorem ignoresCase_upper : IgnoresCase Text.upper := fun first second same => by
  rw [← upper_asciiLower first, same, upper_asciiLower]

theorem all_isHexDigit_asciiLower (text : List Char) :
    (∀ c ∈ asciiLower text, isHexDigit c = true) ↔ ∀ c ∈ text, isHexDigit c = true := by
  unfold asciiLower
  rw [List.forall_mem_map]
  refine forall₂_congr fun c _ => ?_
  rw [eq_of_asciiCapitals isHexDigit (by decide +kernel)]

/-- Digits are digits in either case. -/
theorem exists_hex_of_letters {field given given' : String} {digits : List Char}
    (same : asciiLower given.toList = asciiLower given'.toList)
    (found : hex field given = .ok digits) :
    ∃ digits', hex field given' = .ok digits' ∧ asciiLower digits = asciiLower digits' := by
  obtain ⟨⟨present, each⟩, rfl⟩ := hex_eq_ok_iff.1 found
  have trimmed := trim_congr same
  refine ⟨_, hex_eq_ok_iff.2 ⟨⟨fun empty => present ?_, ?_⟩, rfl⟩, trimmed⟩
  · rw [empty] at trimmed
    exact List.map_eq_nil_iff.1 trimmed
  · rw [← all_isHexDigit_asciiLower, ← trimmed, all_isHexDigit_asciiLower]
    exact each

theorem hex_congr {field given given' : String} {spell : List Char → List Char}
    (spells : IgnoresCase spell) (same : asciiLower given.toList = asciiLower given'.toList) :
    (hex field given).toOption.map spell = (hex field given').toOption.map spell := by
  cases found : hex field given with
  | ok digits =>
      obtain ⟨digits', found', same'⟩ := exists_hex_of_letters same found
      rw [found']
      exact congrArg some (spells _ _ same')
  | error defect =>
      cases found' : hex field given' with
      | ok digits' =>
          obtain ⟨digits, known, -⟩ := exists_hex_of_letters same.symm found'
          cases found.symm.trans known
      | error defect' => rfl

/-! ## Payloads and records -/

section Records

variable {spelling : String}

/-- The zone of an origin is the name that was given, in lower case. -/
theorem zone_ofName (named : IsPlain spelling.toList)
    (relative : spelling.toList.getLast? ≠ some '.') (ttl : UInt32) :
    (ofName spelling ttl).zone = Text.lower spelling.toList := by
  simp only [ofName]
  rw [named.trim_eq, trimEndDots_eq_self relative]

/-- Payloads that are hexadecimal digits, spelled one way, and fields that stay as they are. -/
theorem payload_of_hex {make : String → Payload} {field given given' : String}
    {spell : List Char → List Char} (spells : IgnoresCase spell)
    (step : ∀ digits, origin.payload (make digits) =
      hex field digits >>= fun digits => pure (make (String.ofList (spell digits))))
    (same : equalIgnoringAsciiCase given.toList given'.toList = true) :
    (origin.payload (make given)).toOption = (origin.payload (make given')).toOption := by
  have made (digits : String) : (origin.payload (make digits)).toOption =
      ((hex field digits).toOption.map spell).map fun digits => make (String.ofList digits) := by
    rw [step]
    cases hex field digits <;> rfl
  rw [made, made, hex_congr spells (equalIgnoringAsciiCase_iff.1 same)]

/-- A record has a canonical form if its label and its payload have one. -/
theorem toOption_record (record : Record) :
    (origin.record record).toOption =
      if record.payload.fits record.type then
        (origin.label record.label.toList).toOption.bind fun label =>
          (origin.payload record.payload).toOption.map fun payload =>
            { record with
              label := String.ofList label
              payload
              ttl := if record.ttl = 0 then origin.ttl else record.ttl }
      else none := by
  simp only [Origin.record]
  by_cases fits : record.payload.fits record.type = true
  · rw [if_neg (by simp [fits]), if_pos fits]
    cases origin.label record.label.toList with
    | error defect => rfl
    | ok label => cases origin.payload record.payload <;> rfl
  · rw [if_pos (by simp [fits]), if_neg fits]
    rfl

variable (zone : origin.zone = Text.lower spelling.toList) (named : IsPlain spelling.toList)
include zone named

theorem label_of_respelled {given given' : String} (same : SameLabel spelling given given')
    (plain : IsPlain given.toList) : origin.label given.toList = origin.label given'.toList :=
  (eq_of_eqvGen (fun _ _ step => isPlain_iff_of_label_step named step)
    (fun _ _ step => label_step zone named step) same).2 plain

theorem targetName_of_respelled {given given' : String} (same : SameTarget spelling given given')
    (plain : IsPlain given.toList) :
    origin.targetName allowNull given = origin.targetName allowNull given' :=
  congrArg (Except.map String.ofList)
    ((eq_of_eqvGen (fun _ _ step => isPlain_iff_of_target_step named step)
      (fun _ _ step => target_step zone named step) same).2 plain)

/-- Payloads that are a target and fields that stay as they are. -/
theorem payload_of_target {make : String → Payload} {given given' : String}
    (step : ∀ name, origin.payload (make name) =
      origin.targetName allowNull name >>= fun form => pure (make form))
    (same : SameTarget spelling given given') (plain : IsPlain given.toList) :
    (origin.payload (make given)).toOption = (origin.payload (make given')).toOption := by
  rw [step, step, targetName_of_respelled zone named same plain]

/-- All spellings of a payload have the same canonical form, if any. -/
theorem payload_of_respelled {given given' : Payload} (same : given.Respelled spelling given')
    (plain : ∀ name ∈ given.names, IsPlain name.toList) :
    (origin.payload given).toOption = (origin.payload given').toOption := by
  cases same with
  | same => rfl
  | cname target =>
      exact payload_of_target zone named (fun _ => rfl) target (plain _ List.mem_cons_self)
  | aliased target =>
      exact payload_of_target zone named (fun _ => rfl) target (plain _ List.mem_cons_self)
  | ns target =>
      exact payload_of_target zone named (fun _ => rfl) target (plain _ List.mem_cons_self)
  | ptr target =>
      exact payload_of_target zone named (fun _ => rfl) target (plain _ List.mem_cons_self)
  | mx preference exchange =>
      exact payload_of_target zone named (fun _ => rfl) exchange (plain _ List.mem_cons_self)
  | srv priority weight port target =>
      exact payload_of_target zone named (fun _ => rfl) target (plain _ List.mem_cons_self)
  | caa flags value tag =>
      simp only [Origin.payload]
      rw [lower_trim_congr (equalIgnoringAsciiCase_iff.1 tag)]
  | tlsa usage selector matchingType certificate =>
      exact payload_of_hex ignoresCase_lower (fun _ => rfl) certificate
  | sshfp algorithm fingerprintType fingerprint =>
      exact payload_of_hex ignoresCase_lower (fun _ => rfl) fingerprint
  | ds keyTag algorithm digestType digest =>
      exact payload_of_hex ignoresCase_upper (fun _ => rfl) digest
  | soa serial refresh retry expire minimum mname rname =>
      simp only [Origin.payload]
      rw [targetName_of_respelled zone named mname (plain _ List.mem_cons_self),
        targetName_of_respelled zone named rname
          (plain _ (List.mem_cons_of_mem _ List.mem_cons_self))]

/-- All spellings of a record have the same canonical form, if any. -/
theorem record_of_respelled {record other : Record} (same : record.Respelled spelling other)
    (plain : ∀ name ∈ record.label :: record.payload.names, IsPlain name.toList) :
    (origin.record other).toOption =
      (origin.record record).toOption.map fun form => { form with ref := other.ref } := by
  obtain ⟨label, type, payload, ttl, metadata, ref⟩ := other
  obtain ⟨type', ttl', metadata', labels, payloads⟩ := same
  dsimp only at type' ttl' metadata' labels payloads
  subst type' ttl' metadata'
  obtain ⟨plain_label, plain_names⟩ := List.forall_mem_cons.1 plain
  rw [toOption_record, toOption_record]
  dsimp only
  rw [payloads.fits_eq, ← label_of_respelled zone named labels plain_label,
    ← payload_of_respelled zone named payloads plain_names]
  split
  · cases (origin.label record.label.toList).toOption with
    | none => rfl
    | some label => cases (origin.payload record.payload).toOption <;> rfl
  · rfl

end Records

/-- All spellings of a record in a zone have the same canonical form, but for the reference to the
provider's copy, and so the same key; or none of them has a canonical form. -/
theorem canonical_form_of_every_spelling {zone : String} (ttl : UInt32)
    (named : IsPlain zone.toList) (relative : zone.toList.getLast? ≠ some '.')
    {record other : Record} (same : record.Respelled zone other)
    (plain : ∀ name ∈ record.label :: record.payload.names, IsPlain name.toList) :
    (∃ form form', (ofName zone ttl).record record = .ok form ∧
        (ofName zone ttl).record other = .ok form' ∧
        form' = { form with ref := other.ref } ∧ form'.key = form.key) ∨
      ((∃ error, (ofName zone ttl).record record = .error error) ∧
        ∃ error, (ofName zone ttl).record other = .error error) := by
  have agree := record_of_respelled (zone_ofName named relative ttl) named same plain
  cases found : (ofName zone ttl).record record with
  | ok form =>
      rw [found] at agree
      cases found' : (ofName zone ttl).record other with
      | ok form' =>
          rw [found'] at agree
          obtain rfl := Option.some.inj agree
          exact .inl ⟨form, _, rfl, rfl, rfl, rfl⟩
      | error error =>
          rw [found'] at agree
          cases agree
  | error error =>
      rw [found] at agree
      cases found' : (ofName zone ttl).record other with
      | ok form' =>
          rw [found'] at agree
          cases agree
      | error error' => exact .inr ⟨⟨error, rfl⟩, error', rfl⟩

/-- A label in full and in other letters, and a target in full but without the dot at its end. -/
theorem canonical_form_of_every_spelling_of_exchange :
    let record := Record.ofPayload "WWW" (.mx 10 "Mail")
    let other := (Record.ofPayload "www.EXAMPLE.com." (.mx 10 "mail.example.COM")).withRef "r" .null
    record.Respelled "Example.com" other ∧
      ∃ form form', (ofName "Example.com" 300).record record = .ok form ∧
        (form.label, form.payload, form.ttl) = ("www", .mx 10 "mail.example.com.", 300) ∧
        (ofName "Example.com" 300).record other = .ok form' ∧
        form' = { form with ref := other.ref } ∧ form'.key = form.key := by
  intro record other
  have label : SameLabel "Example.com" record.label other.label := by
    refine .trans _ _ _ (.rel _ _ (.full ?_ ?_)) (.rel _ _ (.letters ?_))
    all_goals decide +kernel
  have exchange : SameTarget "Example.com" "Mail" "mail.example.COM" := by
    refine .trans _ _ _ (.rel _ _ (.full ?_ ?_ ?_))
      (.trans _ _ _ (.symm _ _ (.rel _ _ (.closed ?_ ?_))) (.rel _ _ (.letters ?_)))
    all_goals decide +kernel
  have same : record.Respelled "Example.com" other := ⟨rfl, rfl, rfl, label, .mx 10 exchange⟩
  have plain : ∀ name ∈ record.label :: record.payload.names, IsPlain name.toList := by
    decide +kernel
  have named : IsPlain "Example.com".toList := by decide +kernel
  obtain ⟨form, found, seen⟩ := exists_eq_ok_of_map
    (show ((ofName "Example.com" 300).record record).toOption.map
        (fun form => (form.label, form.payload, form.ttl)) =
      some ("www", .mx 10 "mail.example.com.", 300) by decide +kernel)
  rcases canonical_form_of_every_spelling 300 named (by decide +kernel) same plain with
    ⟨first, form', own, found', alike, key⟩ | ⟨⟨error, refused⟩, -⟩
  · obtain rfl := Except.ok.inj (found.symm.trans own)
    exact ⟨same, form, form', found, seen, found', alike, key⟩
  · cases found.symm.trans refused

end Origin

end DnsReconcile
