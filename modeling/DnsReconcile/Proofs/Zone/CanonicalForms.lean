/-
# Canonical forms of canonical forms

Putting a record into canonical form twice need not be the same as doing it once. A full
name may be cut down to a label that has a blank or a dot at its end, and such a label
means something else when it is read again. Everything else about a canonical form is
there to stay, and a label that does not stay gets smaller.
-/

import DnsReconcile.Proofs.Refusals
import DnsReconcile.Proofs.Text.Casing
import DnsReconcile.Proofs.Text.Chunks
import DnsReconcile.Proofs.Text.Trimming
import DnsReconcile.Proofs.Zone.CanonicalRecords

namespace DnsReconcile

open Text

namespace Origin

variable {origin : Origin} {text label again : List Char} {allowNull : Bool}

/-- An origin as zones have it: its name is in lower case and does not begin with a
blank, and its TTL is one that a record may have. -/
structure Sound (origin : Origin) : Prop where
  ttl : origin.ttl ≠ 0
  lower : ∀ c ∈ origin.zone, IsLower c
  front : ∀ c, origin.zone.head? = some c → isBlank c = false

theorem effectiveTtl_ne_zero (zone : Zone) : zone.effectiveTtl ≠ 0 := by
  simp only [Zone.effectiveTtl]
  split
  · next ttl _ =>
    split
    · next positive => exact fun zero => absurd (zero ▸ positive) (by decide)
    · decide
  · decide

theorem sound_ofName (name : String) {ttl : UInt32} (positive : ttl ≠ 0) :
    (ofName name ttl).Sound where
  ttl := positive
  lower _ member := isLower_of_mem_lower member
  front := by
    refine head?_lower fun c head => ?_
    rw [trimEndDots, dropEndWhile_eq_rdropWhile] at head
    obtain ⟨dropped, whole⟩ := List.rdropWhile_prefix (· == '.') (trim name.toList)
    have first : (trim name.toList).head? = some c := by
      rw [← whole, List.head?_append, head]
      rfl
    exact isBlank_of_head?_trim c first

theorem sound_ofZone (zone : Zone) : (ofZone zone).Sound :=
  sound_ofName zone.name (effectiveTtl_ne_zero zone)

/-! ## Labels -/

/-- The size of a label. The label of the zone itself is the smallest. -/
def weight (label : List Char) : Nat :=
  2 * label.length + if label = ['@'] then 0 else 1

theorem weight_lt_of_length_lt (shorter : again.length < text.length) :
    weight again < weight text := by
  simp only [weight]
  split <;> split <;> omega

theorem weight_apex_lt (present : text ≠ []) (other : text ≠ ['@']) :
    weight ['@'] < weight text := by
  have long := List.length_pos_of_ne_nil present
  unfold weight
  rw [if_pos rfl, if_neg other, List.length_singleton]
  omega

/-- How a label gets its canonical form, once it is in lower case and without the blanks around
it. A dot at the end makes it a full name. -/
inductive LabelForm (zone : List Char) : List Char → List Char → Prop where
  | blank : LabelForm zone [] ['@']
  | sign : LabelForm zone ['@'] ['@']
  | relative {spelled : List Char} (present : spelled ≠ []) (other : spelled ≠ ['@'])
      (undotted : spelled.getLast? ≠ some '.') : LabelForm zone spelled spelled
  | apex : LabelForm zone (zone ++ ['.']) ['@']
  | below {label : List Char} (present : label ≠ []) :
      LabelForm zone (label ++ '.' :: zone ++ ['.']) label

theorem labelForm_of_label (found : origin.label text = .ok label) :
    LabelForm origin.zone (Text.lower (trim text)) label := by
  unfold Origin.label at found
  dsimp only at found
  split at found
  · next special =>
    obtain rfl := Except.ok.inj found
    rcases special with empty | sign
    · rw [empty]
      exact .blank
    · rw [sign]
      exact .sign
  · next special =>
    rw [not_or] at special
    split at found
    · next undotted =>
      obtain rfl := Except.ok.inj found
      refine .relative special.1 special.2 fun last => ?_
      obtain ⟨front, whole⟩ := List.getLast?_eq_some_iff.1 last
      rw [whole, stripSuffix?_append] at undotted
      cases undotted
    · next name stripped =>
      rw [stripSuffix?_eq_some_iff] at stripped
      rw [stripped]
      split at found
      · next own =>
        obtain rfl := Except.ok.inj found
        exact own ▸ .apex
      · split at found
        · next c rest inside =>
          obtain rfl := Except.ok.inj found
          rw [stripSuffix?_eq_some_iff.1 inside]
          exact .below (List.cons_ne_nil c rest)
        · cases found

/-- With a dot at its end a name is not one of the special spellings. -/
theorem append_dot_ne_special (front : List Char) :
    front ++ ['.'] ≠ [] ∧ front ++ ['.'] ≠ ['@'] := by
  refine ⟨List.append_ne_nil_of_right_ne_nil _ (List.cons_ne_nil _ _), fun sign => ?_⟩
  have last := congrArg List.getLast? sign
  rw [List.getLast?_concat] at last
  exact absurd last (by decide)

theorem label_of_labelForm (form : LabelForm origin.zone (Text.lower (trim text)) label) :
    origin.label text = .ok label := by
  unfold Origin.label
  generalize Text.lower (trim text) = spelled at form ⊢
  dsimp only
  cases form with
  | blank => rfl
  | sign => rfl
  | relative present other undotted =>
      have no_full_name : stripSuffix? ['.'] label = none :=
        stripSuffix?_eq_none fun ⟨front, whole⟩ => undotted (whole ▸ List.getLast?_concat)
      rw [if_neg (not_or.2 ⟨present, other⟩), no_full_name]
  | apex =>
      rw [if_neg (not_or.2 (append_dot_ne_special _)), stripSuffix?_append]
      exact if_pos rfl
  | below present =>
      have longer : label ++ '.' :: origin.zone ≠ origin.zone := fun same => by
        have lengths := congrArg List.length same
        simp only [List.length_append, List.length_cons] at lengths
        omega
      obtain ⟨c, rest, rfl⟩ := List.exists_cons_of_ne_nil present
      rw [if_neg (not_or.2 (append_dot_ne_special _)), stripSuffix?_append]
      dsimp only
      rw [if_neg longer, stripSuffix?_append]

/-- Any label that is not a full name stays as it is. -/
theorem LabelForm.of_undotted {zone : List Char} (present : label ≠ [])
    (undotted : label.getLast? ≠ some '.') : LabelForm zone label label := by
  by_cases sign : label = ['@']
  · rw [sign]
    exact .sign
  · exact .relative present sign undotted

/-- Labels in canonical form are in lower case and not empty. -/
theorem of_label (found : origin.label text = .ok label) :
    label ≠ [] ∧ ∀ c ∈ label, IsLower c := by
  have apex : ['@'] ≠ [] ∧ ∀ c ∈ ['@'], IsLower c :=
    ⟨List.cons_ne_nil _ _, fun c member => by
      rw [List.mem_singleton.1 member]
      exact (by decide : lowerChar '@' = ['@'])⟩
  have lowered : ∀ c ∈ Text.lower (trim text), IsLower c := fun _ => isLower_of_mem_lower
  have form := labelForm_of_label found
  generalize Text.lower (trim text) = spelled at form lowered
  cases form with
  | blank => exact apex
  | sign => exact apex
  | relative present => exact ⟨present, lowered⟩
  | apex => exact apex
  | below present =>
      exact ⟨present, fun c member =>
        lowered c (List.mem_append_left _ (List.mem_append_left _ member))⟩

/-- A label in lower case that is read again stays or becomes smaller. -/
theorem label_again (present : text ≠ []) (lowered : ∀ c ∈ text, IsLower c)
    (found : origin.label text = .ok again) : again = text ∨ weight again < weight text := by
  have spelled : Text.lower (trim text) = trim text :=
    lower_eq_self fun c member => lowered c ((trim_sublist text).subset member)
  have shorter : (trim text).length ≤ text.length := (trim_sublist text).length_le
  have apex : ['@'] = text ∨ weight ['@'] < weight text := by
    by_cases same : text = ['@']
    · exact Or.inl same.symm
    · exact Or.inr (weight_apex_lt present same)
  have form := labelForm_of_label found
  rw [spelled] at form
  generalize whole : trim text = trimmed at form shorter
  cases form with
  | blank => exact apex
  | sign => exact apex
  | relative =>
      rw [← whole]
      exact (trim_eq_self_or_lt text).imp id weight_lt_of_length_lt
  | apex => exact apex
  | below =>
      refine Or.inr (weight_lt_of_length_lt ?_)
      simp only [List.length_append, List.length_cons] at shorter
      omega

/-- A label that stays when it is read again has no blanks around it and no dot at its end: with
a dot it is a full name, and what becomes of it is shorter. -/
theorem of_label_self (found : origin.label text = .ok text) :
    trim text = text ∧ text.getLast? ≠ some '.' := by
  obtain ⟨-, lowered⟩ := of_label found
  have spelled : Text.lower (trim text) = trim text :=
    lower_eq_self fun c member => lowered c ((trim_sublist text).subset member)
  have shorter : (trim text).length ≤ text.length := (trim_sublist text).length_le
  have sign : trim ['@'] = ['@'] := by decide
  have form := labelForm_of_label found
  rw [spelled] at form
  generalize whole : trim text = trimmed at form shorter
  cases form with
  | blank => exact ⟨whole.symm.trans sign, by decide⟩
  | sign => exact ⟨rfl, by decide⟩
  | relative _ _ undotted => exact ⟨rfl, undotted⟩
  | apex => exact ⟨whole.symm.trans sign, by decide⟩
  | below =>
      simp only [List.length_append, List.length_cons] at shorter
      omega

/-! ## Targets -/

/-- How a name that a payload points at gets its canonical form, once it is in lower case and
without the blanks around it. -/
inductive TargetForm (zone : List Char) (allowNull : Bool) : List Char → List Char → Prop where
  | null (allowed : allowNull = true) : TargetForm zone allowNull ['.'] ['.']
  | sign : TargetForm zone allowNull ['@'] (zone ++ ['.'])
  | full {spelled : List Char} (other : spelled ≠ ['.']) (last : spelled.getLast? = some '.') :
      TargetForm zone allowNull spelled spelled
  | dotted {spelled : List Char} (inside : '.' ∈ spelled)
      (undotted : spelled.getLast? ≠ some '.') :
      TargetForm zone allowNull spelled (spelled ++ ['.'])
  | single {spelled : List Char} (present : spelled ≠ []) (other : spelled ≠ ['@'])
      (single : '.' ∉ spelled) :
      TargetForm zone allowNull spelled (spelled ++ '.' :: zone ++ ['.'])

theorem targetForm_of_target {name : List Char}
    (found : origin.target allowNull text = .ok name) :
    TargetForm origin.zone allowNull (Text.lower (trim text)) name := by
  unfold Origin.target at found
  generalize Text.lower (trim text) = spelled at found ⊢
  simp only [List.contains_eq_mem, decide_eq_true_eq] at found
  split at found
  · cases found
  · next present =>
    split at found
    · next null =>
      split at found
      · next allowed =>
        obtain rfl := Except.ok.inj found
        rw [null]
        exact .null allowed
      · cases found
    · next other =>
      split at found
      · next sign =>
        obtain rfl := Except.ok.inj found
        exact sign ▸ .sign
      · next named =>
        split at found
        · next last =>
          obtain rfl := Except.ok.inj found
          exact .full other last
        · next undotted =>
          split at found
          · next inside =>
            obtain rfl := Except.ok.inj found
            exact .dotted inside undotted
          · next single =>
            obtain rfl := Except.ok.inj found
            exact .single present named single

theorem target_of_targetForm {name : List Char}
    (form : TargetForm origin.zone allowNull (Text.lower (trim text)) name) :
    origin.target allowNull text = .ok name := by
  unfold Origin.target
  generalize Text.lower (trim text) = spelled at form ⊢
  simp only [List.contains_eq_mem, decide_eq_true_eq]
  cases form with
  | null allowed =>
      rw [if_neg (List.cons_ne_nil _ _), if_pos rfl, if_pos allowed]
  | sign => rfl
  | full other last =>
      obtain ⟨front, rfl⟩ := List.getLast?_eq_some_iff.1 last
      obtain ⟨present, named⟩ := append_dot_ne_special front
      rw [if_neg present, if_neg other, if_neg named, if_pos last]
  | dotted inside undotted =>
      have present := List.ne_nil_of_mem inside
      have other : spelled ≠ ['.'] := fun null => undotted (null ▸ rfl)
      have named : spelled ≠ ['@'] := fun sign => absurd (sign ▸ inside) (by decide)
      rw [if_neg present, if_neg other, if_neg named, if_neg undotted, if_pos inside]
  | single present named single =>
      have undotted := mt List.mem_of_getLast? single
      have other : spelled ≠ ['.'] := fun null => undotted (null ▸ rfl)
      rw [if_neg present, if_neg other, if_neg named, if_neg undotted, if_neg single]

/-- A name in the form that targets have: in lower case, without a blank at its
beginning, and with a dot at its end. -/
structure IsTarget (name : List Char) : Prop where
  lower : ∀ c ∈ name, IsLower c
  front : ∀ c, name.head? = some c → isBlank c = false
  back : name.getLast? = some '.'

theorem isTarget_dot : IsTarget ['.'] where
  lower c member := by
    rw [List.mem_singleton.1 member]
    exact (by decide : lowerChar '.' = ['.'])
  front c head := by
    obtain rfl := Option.some.inj head
    decide
  back := rfl

/-- A name in lower case becomes a target by a dot at its end. -/
theorem isTarget_append_dot (lowered : ∀ c ∈ text, IsLower c)
    (front : ∀ c, text.head? = some c → isBlank c = false) : IsTarget (text ++ ['.']) where
  lower c member := by
    cases List.mem_append.1 member with
    | inl inside =>
        exact lowered c inside
    | inr dot =>
        exact isTarget_dot.lower c dot
  front c head := by
    cases text with
    | nil => exact isTarget_dot.front c head
    | cons d rest => exact front c head
  back := List.getLast?_concat

theorem isTarget_of_target (sound : origin.Sound) {name : List Char}
    (found : origin.target allowNull text = .ok name) : IsTarget name := by
  have lowered : ∀ c ∈ Text.lower (trim text), IsLower c := fun _ => isLower_of_mem_lower
  have front : ∀ c, (Text.lower (trim text)).head? = some c → isBlank c = false :=
    head?_lower isBlank_of_head?_trim
  have form := targetForm_of_target found
  generalize Text.lower (trim text) = spelled at form lowered front
  cases form with
  | null => exact isTarget_dot
  | sign => exact isTarget_append_dot sound.lower sound.front
  | full other last => exact ⟨lowered, front, last⟩
  | dotted => exact isTarget_append_dot lowered front
  | single present =>
      refine isTarget_append_dot (fun c member => ?_) fun c head => ?_
      · rcases List.mem_append.1 member with inside | outside
        · exact lowered c inside
        · rcases List.mem_cons.1 outside with rfl | zone
          · exact isTarget_dot.lower _ List.mem_cons_self
          · exact sound.lower c zone
      · rw [List.head?_append_of_ne_nil _ present] at head
        exact front c head

theorem IsTarget.trim_eq {name : List Char} (target : IsTarget name) : trim name = name := by
  apply trim_eq_self target.front
  intro c last
  rw [target.back] at last
  obtain rfl := Option.some.inj last
  decide

/-- A target that is read again stays, if it is allowed at all. -/
theorem target_again {name : List Char} (target : IsTarget name)
    (found : origin.target allowNull name = .ok again) : again = name := by
  have form := targetForm_of_target found
  rw [target.trim_eq, lower_eq_self target.lower] at form
  have last := target.back
  cases form with
  | null => rfl
  | sign => exact absurd last (by decide)
  | full => rfl
  | dotted inside undotted => exact absurd last undotted
  | single present other single => exact absurd (List.mem_of_getLast? last) single

theorem isTarget_of_targetName_self (sound : origin.Sound) {name : String}
    (found : origin.targetName allowNull name = .ok name) : IsTarget name.toList := by
  simp only [targetName] at found
  cases first : origin.target allowNull name.toList with
  | error defect =>
      rw [first] at found
      cases found
  | ok form =>
      rw [first] at found
      rw [← Except.ok.inj found, String.toList_ofList]
      exact isTarget_of_target sound first

theorem targetName_again (sound : origin.Sound) {spelling name name' : String}
    (found : origin.targetName allowNull spelling = .ok name)
    (found' : origin.targetName allowNull name = .ok name') : name' = name := by
  simp only [targetName] at found found'
  cases first : origin.target allowNull spelling.toList with
  | error defect =>
      rw [first] at found
      cases found
  | ok form =>
      rw [first] at found
      obtain rfl := Except.ok.inj found
      cases second : origin.target allowNull (String.ofList form).toList with
      | error defect =>
          rw [second] at found'
          cases found'
      | ok form' =>
          rw [second] at found'
          obtain rfl := Except.ok.inj found'
          rw [String.toList_ofList] at second
          rw [target_again (isTarget_of_target sound first) second]

/-! ## Other fields -/

/-- A trimmed text in lower case is trimmed and in lower case. -/
theorem lower_trim_again (text : List Char) :
    Text.lower (trim (Text.lower (trim text))) = Text.lower (trim text) := by
  have trimmed : trim (Text.lower (trim text)) = Text.lower (trim text) :=
    trim_eq_self (head?_lower isBlank_of_head?_trim)
      (getLast?_lowerAfter false isBlank_of_getLast?_trim)
  rw [trimmed, lower_lower]

theorem hex_eq_ok_iff {field spelling : String} {digits : List Char} :
    hex field spelling = .ok digits ↔
      (digits ≠ [] ∧ ∀ c ∈ digits, isHexDigit c = true) ∧ trim spelling.toList = digits := by
  unfold hex
  dsimp only
  split
  · next bad =>
    apply iff_of_false (by simp)
    rintro ⟨⟨present, each⟩, rfl⟩
    rw [List.all_eq_true.2 each, Bool.not_true, Bool.or_false, List.isEmpty_iff] at bad
    exact present bad
  · next good =>
    rw [Bool.or_eq_true, not_or, List.isEmpty_iff, Bool.not_eq_true', Bool.not_eq_false,
      List.all_eq_true] at good
    rw [Except.ok.injEq]
    apply Iff.intro
    · rintro rfl
      exact ⟨good, rfl⟩
    · exact And.right

/-- What can be decided of the hexadecimal digits among the ASCII characters holds of all of
them. -/
theorem of_isHexDigit (good : Char → Bool) {c : Char}
    (each : ((List.range 128).all fun n =>
      !isHexDigit (Char.ofNat n) || good (Char.ofNat n)) = true)
    (digit : isHexDigit c = true) : good c = true := by
  have ascii : c.toNat < 128 := by
    have known := digit
    unfold isHexDigit hexDigit? at known
    dsimp only at known
    split at known
    · omega
    · split at known
      · omega
      · split at known
        · omega
        · exact absurd known Bool.false_ne_true
  have own := List.all_eq_true.1 each c.toNat (List.mem_range.2 ascii)
  rwa [Char.ofNat_toNat, digit, Bool.not_true, Bool.false_or] at own

/-- Hexadecimal digits are visible. -/
theorem trim_eq_self_of_hex {digits : List Char} (each : ∀ c ∈ digits, isHexDigit c = true) :
    trim digits = digits := by
  have visible : ∀ c ∈ digits, isBlank c = false := by
    intro c member
    have own := of_isHexDigit (fun c => !isBlank c) (by decide) (each c member)
    rwa [Bool.not_eq_true'] at own
  exact trim_eq_self (fun c head => visible c (List.mem_of_mem_head? head))
    (fun c last => visible c (List.mem_of_getLast? last))

/-- A way to spell hexadecimal digits, such as all of them in upper case. -/
structure SpellsHex (spell : List Char → List Char) : Prop where
  spelled : ∀ digits, (digits ≠ [] ∧ ∀ c ∈ digits, isHexDigit c = true) →
    spell digits ≠ [] ∧ ∀ d ∈ spell digits, isHexDigit d = true
  again : ∀ digits, (∀ c ∈ digits, isHexDigit c = true) → spell (spell digits) = spell digits

theorem spelled_of_flatMap {image : Char → List Char}
    (each : ((List.range 128).all fun n => !isHexDigit (Char.ofNat n) ||
      (!(image (Char.ofNat n)).isEmpty && (image (Char.ofNat n)).all isHexDigit)) = true)
    {digits : List Char} (given : digits ≠ [] ∧ ∀ c ∈ digits, isHexDigit c = true) :
    digits.flatMap image ≠ [] ∧ ∀ d ∈ digits.flatMap image, isHexDigit d = true := by
  have own (c : Char) (member : c ∈ digits) :
      image c ≠ [] ∧ ∀ d ∈ image c, isHexDigit d = true := by
    have good := of_isHexDigit (fun c => !(image c).isEmpty && (image c).all isHexDigit) each
      (given.2 c member)
    rw [Bool.and_eq_true, Bool.not_eq_true', List.isEmpty_eq_false_iff, List.all_eq_true] at good
    exact good
  apply And.intro
  · intro empty
    obtain ⟨c, member⟩ := List.exists_mem_of_ne_nil digits given.1
    exact (own c member).1 (List.flatMap_eq_nil_iff.1 empty c member)
  · intro d member
    obtain ⟨c, present, image⟩ := List.mem_flatMap.1 member
    exact (own c present).2 d image

theorem spellsHex_lower : SpellsHex Text.lower where
  spelled digits given := by
    have plain : ∀ c ∈ digits, c ≠ 'Σ' := fun c member =>
      bne_iff_ne.1 (of_isHexDigit (fun c => c != 'Σ') (by decide) (given.2 c member))
    rw [lower_eq_flatMap plain]
    exact spelled_of_flatMap (by decide) given
  again digits _ := lower_lower digits

theorem spellsHex_upper : SpellsHex Text.upper where
  spelled _ given := spelled_of_flatMap (by decide) given
  again digits each := by
    refine upper_eq_self fun d member => ?_
    obtain ⟨c, present, image⟩ := List.mem_flatMap.1 member
    have settled := of_isHexDigit (fun c => (upperChar c).all fun d => upperChar d == [d])
      (by decide) (each c present)
    exact eq_of_beq (List.all_eq_true.1 settled d image)

/-- Cutting a text leaves pieces that need not be cut. -/
theorem strings_again (texts : List String) : strings (strings texts) = strings texts := by
  have short : ∀ text ∈ strings texts, octets text.toList ≤ chunkLimit := by
    simp only [strings]
    split
    · intro text member
      obtain ⟨long, -, piece⟩ := List.mem_flatMap.1 member
      obtain ⟨chunk, cut, rfl⟩ := List.mem_map.1 piece
      rw [String.toList_ofList]
      exact (cuts_chunks long.toList).octets_le chunk cut
    · next none_long =>
      intro text member
      refine Nat.not_lt.1 fun long => none_long (List.any_eq_true.2 ⟨text, member, ?_⟩)
      exact decide_eq_true long
  generalize strings texts = result at short
  simp only [strings]
  apply if_neg
  intro long
  obtain ⟨text, member, above⟩ := List.any_eq_true.1 long
  exact Nat.not_lt.2 (short text member) (of_decide_eq_true above)

/-- One string becomes its pieces, whether or not it has to be cut. -/
theorem strings_singleton (text : String) :
    strings [text] = (chunks text.toList).map String.ofList := by
  simp only [strings, List.any_cons, List.any_nil, Bool.or_false, decide_eq_true_eq]
  split
  · rw [List.flatMap_singleton]
  · next short =>
    rw [chunks_of_short (Nat.not_lt.1 short), List.map_singleton, String.ofList_toList]

/-! ## Payloads and records -/

section Again

variable {given canonical twice : Payload}

/-- A TXT record needs strings. -/
theorem payload_txt_eq_ok_iff {texts : List String} :
    origin.payload (.txt texts) = .ok canonical ↔
      texts ≠ [] ∧ .txt (strings texts) = canonical := by
  change (if texts.isEmpty then Except.error Defect.noStrings
    else Except.ok (Payload.txt (strings texts))) = _ ↔ _
  cases texts <;> simp

/-- A CAA record needs a tag. -/
theorem payload_caa_eq_ok_iff {flags : UInt8} {tag value : String} :
    origin.payload (.caa flags tag value) = .ok canonical ↔
      Text.lower (trim tag.toList) ≠ [] ∧
        .caa flags (String.ofList (Text.lower (trim tag.toList))) value = canonical := by
  change (if (Text.lower (trim tag.toList)).isEmpty then Except.error Defect.emptyCaaTag
    else Except.ok
      (Payload.caa flags (String.ofList (Text.lower (trim tag.toList))) value)) = _ ↔ _
  cases Text.lower (trim tag.toList) <;> simp

theorem payload_soa_eq_ok_iff {mname rname : String}
    {serial refresh retry expire minimum : UInt32} :
    origin.payload (.soa mname rname serial refresh retry expire minimum) = .ok canonical ↔
      ∃ mname' rname', origin.targetName false mname = .ok mname' ∧
        origin.targetName false rname = .ok rname' ∧
        .soa mname' rname' serial refresh retry expire minimum = canonical := by
  simp only [Origin.payload, bind_eq_ok_iff, pure_eq_ok_iff, exists_and_left]

/-- The text of a pseudo-record must not be blank. -/
theorem payload_encoded_eq_ok_iff {text : String} :
    origin.payload (.encoded text) = .ok canonical ↔
      trim text.toList ≠ [] ∧ .encoded text = canonical := by
  change (if (trim text.toList).isEmpty then Except.error Defect.emptyPayload
    else Except.ok (Payload.encoded text)) = _ ↔ _
  cases trim text.toList <;> simp

/-- Payloads that are a target and fields that stay as they are. -/
theorem payload_again_of_target (sound : origin.Sound) {make : String → Payload} {name : String}
    (step : ∀ name, origin.payload (make name) =
      origin.targetName allowNull name >>= fun form => pure (make form))
    (found : origin.payload (make name) = .ok canonical)
    (found' : origin.payload canonical = .ok twice) : twice = canonical := by
  rw [step, bind_eq_ok_iff] at found
  obtain ⟨form, first, made⟩ := found
  obtain rfl := pure_eq_ok_iff.1 made
  rw [step, bind_eq_ok_iff] at found'
  obtain ⟨form', second, made'⟩ := found'
  obtain rfl := pure_eq_ok_iff.1 made'
  rw [targetName_again sound first second]

/-- Payloads that are hexadecimal digits, spelled one way, and fields that stay as they
are. -/
theorem payload_again_of_hex {make : String → Payload} {field digits : String}
    {spell : List Char → List Char} (spells : SpellsHex spell)
    (step : ∀ digits, origin.payload (make digits) =
      hex field digits >>= fun digits => pure (make (String.ofList (spell digits))))
    (found : origin.payload (make digits) = .ok canonical)
    (found' : origin.payload canonical = .ok twice) : twice = canonical := by
  rw [step, bind_eq_ok_iff] at found
  obtain ⟨form, first, made⟩ := found
  obtain rfl := pure_eq_ok_iff.1 made
  rw [step, bind_eq_ok_iff] at found'
  obtain ⟨form', second, made'⟩ := found'
  obtain rfl := pure_eq_ok_iff.1 made'
  obtain ⟨given, rfl⟩ := hex_eq_ok_iff.1 first
  obtain ⟨-, rfl⟩ := hex_eq_ok_iff.1 second
  rw [String.toList_ofList, trim_eq_self_of_hex (spells.spelled _ given).2, spells.again _ given.2]

/-- A canonical payload that is read again stays, if it can be read again at all. -/
theorem payload_again (sound : origin.Sound) (found : origin.payload given = .ok canonical)
    (found' : origin.payload canonical = .ok twice) : twice = canonical := by
  cases given with
  | a address =>
      obtain rfl := Except.ok.inj found
      exact (Except.ok.inj found').symm
  | aaaa address =>
      obtain rfl := Except.ok.inj found
      exact (Except.ok.inj found').symm
  | cname target => exact payload_again_of_target sound (fun _ => rfl) found found'
  | aliased target => exact payload_again_of_target sound (fun _ => rfl) found found'
  | ns target => exact payload_again_of_target sound (fun _ => rfl) found found'
  | ptr target => exact payload_again_of_target sound (fun _ => rfl) found found'
  | mx preference exchange => exact payload_again_of_target sound (fun _ => rfl) found found'
  | srv priority weight port target =>
      exact payload_again_of_target sound (fun _ => rfl) found found'
  | txt texts =>
      obtain ⟨-, rfl⟩ := payload_txt_eq_ok_iff.1 found
      obtain ⟨-, rfl⟩ := payload_txt_eq_ok_iff.1 found'
      rw [strings_again]
  | caa flags tag value =>
      obtain ⟨-, rfl⟩ := payload_caa_eq_ok_iff.1 found
      obtain ⟨-, rfl⟩ := payload_caa_eq_ok_iff.1 found'
      rw [String.toList_ofList, lower_trim_again]
  | tlsa usage selector matchingType certificate =>
      exact payload_again_of_hex spellsHex_lower (fun _ => rfl) found found'
  | sshfp algorithm fingerprintType fingerprint =>
      exact payload_again_of_hex spellsHex_lower (fun _ => rfl) found found'
  | ds keyTag algorithm digestType digest =>
      exact payload_again_of_hex spellsHex_upper (fun _ => rfl) found found'
  | soa mname rname serial refresh retry expire minimum =>
      obtain ⟨mname', rname', first, second, rfl⟩ := payload_soa_eq_ok_iff.1 found
      obtain ⟨mname'', rname'', first', second', rfl⟩ := payload_soa_eq_ok_iff.1 found'
      rw [targetName_again sound first first', targetName_again sound second second']
  | encoded text =>
      obtain ⟨-, rfl⟩ := payload_encoded_eq_ok_iff.1 found
      exact (payload_encoded_eq_ok_iff.1 found').2.symm

/-- The size of a record's label. -/
def recordWeight (record : Record) : Nat :=
  weight record.label.toList

/-- A canonical record that is read again stays or gets a smaller label, if it can be read
again at all. -/
theorem record_again (sound : origin.Sound) {record form form' : Record}
    (found : origin.record record = .ok form) (found' : origin.record form = .ok form') :
    form' = form ∨ recordWeight form' < recordWeight form := by
  obtain ⟨-, label, payload, labelled, paid, rfl⟩ := record_eq_ok_iff.1 found
  obtain ⟨-, label', payload', labelled', paid', rfl⟩ := record_eq_ok_iff.1 found'
  have ttl : (if record.ttl = 0 then origin.ttl else record.ttl) ≠ 0 := by
    split
    · exact sound.ttl
    · assumption
  obtain ⟨present, lowered⟩ := of_label labelled
  rw [String.toList_ofList] at labelled'
  rcases label_again present lowered labelled' with rfl | smaller
  · apply Or.inl
    rw [payload_again sound paid paid']
    simp only [if_neg ttl]
  · apply Or.inr
    simpa only [recordWeight, String.toList_ofList] using smaller

end Again

/-- What is known of a record that is in canonical form. -/
theorem of_record_self (sound : origin.Sound) {record : Record}
    (canonical : origin.record record = .ok record) :
    origin.label record.label.toList = .ok record.label.toList ∧
      origin.payload record.payload = .ok record.payload ∧ record.ttl ≠ 0 := by
  obtain ⟨-, label, payload, labelled, paid, same⟩ := record_eq_ok_iff.1 canonical
  have own_label : record.label = String.ofList label := congrArg Record.label same
  have own_payload : record.payload = payload := congrArg Record.payload same
  have own_ttl : record.ttl = if record.ttl = 0 then origin.ttl else record.ttl :=
    congrArg Record.ttl same
  refine ⟨?_, own_payload ▸ paid, fun zero => ?_⟩
  · rw [labelled, own_label, String.toList_ofList]
  · rw [if_pos zero] at own_ttl
    exact sound.ttl (own_ttl.symm.trans zero)

end Origin

end DnsReconcile
