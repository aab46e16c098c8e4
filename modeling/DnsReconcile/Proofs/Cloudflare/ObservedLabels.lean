/-
# The labels that are observed

Names that Cloudflare serves are made relative to the zone as it is written in the
configuration. The name of the zone itself is found in every spelling. Names below it are
not: the ending that is cut off has to be spelled as in the configuration, although the zone
is looked up without regard to case and canonical labels have none. A name under another
spelling keeps all of its letters, and its canonical label is not the one that is asked for.
-/

import DnsReconcile.Cloudflare.EntryRecord
import DnsReconcile.Proofs.Zone.Spellings

namespace DnsReconcile

open Text

namespace Cloudflare

variable {zone spelling label name apex : String}

/-! ## The ending that is cut off -/

/-- A name ends in the name of a zone as that is spelled. -/
def EndsIn (name zone : String) : Prop :=
  '.' :: zone.toList <:+ name.toList

/-- The two parts of a name below a zone, as they are spelled. -/
structure Parts (name label zone : String) (front ending : List Char) : Prop where
  whole : name.toList = front ++ '.' :: ending
  front : asciiLower front = asciiLower label.toList
  ending : asciiLower ending = asciiLower zone.toList

theorem exists_parts
    (named : equalIgnoringAsciiCase name.toList (label.toList ++ '.' :: zone.toList) = true) :
    ∃ front ending, Parts name label zone front ending := by
  have same := equalIgnoringAsciiCase_iff.1 named
  simp only [asciiLower, List.map_append, List.map_cons] at same
  obtain ⟨front, rest, whole, fore, behind⟩ := List.map_eq_append_iff.1 same
  obtain ⟨c, ending, rfl, dot, after⟩ := List.map_eq_cons_iff.1 behind
  have dot : c = '.' := asciiLowerChar_eq_dot_iff.1 (dot.trans (by decide))
  exact ⟨front, ending, dot ▸ whole, fore, after⟩

namespace Parts

variable {front ending : List Char} (parts : Parts name label zone front ending)
include parts

theorem endsIn_iff (respelled : spelling.toList.length = zone.toList.length) :
    EndsIn name spelling ↔ ending = spelling.toList := by
  have long : ending.length = spelling.toList.length :=
    (length_eq_of_asciiLower_eq parts.ending).trans respelled.symm
  rw [EndsIn, parts.whole]
  apply Iff.intro
  · intro inside
    have aligned : '.' :: spelling.toList <:+ '.' :: ending :=
      List.suffix_of_suffix_length_le inside (List.suffix_append _ _) (by simp [long])
    exact (List.cons_inj_right _).1 (aligned.eq_of_length (by simp [long])).symm
  · rintro rfl
    exact List.suffix_append _ _

variable (relative : zone.toList.getLast? ≠ some '.')
variable (present : label ≠ "") (inner : label.toList.getLast? ≠ some '.')
include relative present inner

/-- The label of a name is what stands before the ending, or all of the name if the ending
is spelled in another way. -/
theorem labelOf_eq (respelled : spelling.toList.length = zone.toList.length) :
    labelOf name spelling =
      if ending = spelling.toList then String.ofList front else name := by
  have long : ending.length = spelling.toList.length :=
    (length_eq_of_asciiLower_eq parts.ending).trans respelled.symm
  have fore : front.length = label.toList.length := length_eq_of_asciiLower_eq parts.front
  have some_front : 0 < front.length := by
    rw [fore]
    exact List.length_pos_of_ne_nil fun empty => present (String.toList_eq_nil_iff.1 empty)
  have front_last : front.getLast? ≠ some '.' := fun dot =>
    inner ((getLast?_eq_dot_congr parts.front).1 dot)
  have ending_last : ending.getLast? ≠ some '.' := fun dot =>
    relative ((getLast?_eq_dot_congr parts.ending).1 dot)
  unfold labelOf
  dsimp only
  cases ending with
  | nil =>
      -- The zone has no name: the dot before it is one at the end of the name.
      have nameless : spelling.toList = [] := List.eq_nil_of_length_eq_zero long.symm
      have kept : trimEndDots name.toList = front := by
        rw [parts.whole, trimEndDots_append_dot, trimEndDots_eq_self front_last]
      have below : ¬ equalIgnoringAsciiCase front spelling.toList = true := fun same => by
        have short := length_eq_of_asciiLower_eq (equalIgnoringAsciiCase_iff.1 same)
        rw [nameless, List.length_nil] at short
        omega
      have undotted : stripSuffix? ['.'] front = none := by
        refine stripSuffix?_eq_none fun dot => front_last ?_
        obtain ⟨rest, rfl⟩ := dot
        exact List.getLast?_concat
      rw [kept, if_neg below, nameless, undotted, if_pos rfl]
      rfl
  | cons c rest =>
      have kept : trimEndDots name.toList = name.toList := by
        apply trimEndDots_eq_self
        rwa [parts.whole, List.append_cons, List.getLast?_append_of_ne_nil _ (List.cons_ne_nil _ _)]
      have below : ¬ equalIgnoringAsciiCase name.toList spelling.toList = true := fun same => by
        have short := length_eq_of_asciiLower_eq (equalIgnoringAsciiCase_iff.1 same)
        rw [parts.whole, List.length_append, List.length_cons] at short
        omega
      rw [kept, if_neg below]
      split
      · next own => rw [parts.whole, ← own, stripSuffix?_append, Option.getD_some]
      · next other =>
        rw [stripSuffix?_eq_none fun inside => other ((parts.endsIn_iff respelled).1 inside),
          Option.getD_none, String.ofList_toList]

/-- It is the label that is asked for if the ending is spelled as the zone is. -/
theorem labelOf_iff (respelled : spelling.toList.length = zone.toList.length) :
    equalIgnoringAsciiCase (labelOf name spelling).toList label.toList = true ↔
      EndsIn name spelling := by
  rw [parts.endsIn_iff respelled, parts.labelOf_eq relative present inner respelled,
    equalIgnoringAsciiCase_iff]
  split
  · next own => exact iff_of_true (String.toList_ofList ▸ parts.front) own
  · next other =>
    refine iff_of_false (fun same => ?_) other
    have long := length_eq_of_asciiLower_eq same
    have fore := length_eq_of_asciiLower_eq parts.front
    rw [parts.whole, List.length_append, List.length_cons] at long
    omega

end Parts

theorem labelOf_apex (same : equalIgnoringAsciiCase apex.toList zone.toList = true)
    (relative : zone.toList.getLast? ≠ some '.') : labelOf apex zone = apexLabel := by
  have last : apex.toList.getLast? ≠ some '.' := fun dot =>
    relative ((getLast?_eq_dot_congr (equalIgnoringAsciiCase_iff.1 same)).1 dot)
  unfold labelOf
  dsimp only
  rw [trimEndDots_eq_self last, if_pos same]

/-! ## What is observed -/

/-- The label of a record is made of the name of its entry. -/
theorem Entry.label_of_toRecord {entry : Entry} {record : Record}
    (found : entry.toRecord zone = .ok record) : record.label = labelOf entry.name zone := by
  simp only [Entry.toRecord, bind_eq_ok_iff, pure_eq_ok_iff] at found
  obtain ⟨type, -, payload, -, rfl⟩ := found
  rfl

/-- The name of a zone in its configuration may be spelled in any case. Cloudflare's name for
the zone itself is always observed as such. A name below it is observed under its label, up to
case, exactly if it ends in the configured spelling; otherwise it is observed as it is, and
its canonical label is that of all of the name. -/
theorem observed_label_by_spelling
    (relative : zone.toList.getLast? ≠ some '.') (present : label ≠ "")
    (inner : label.toList.getLast? ≠ some '.')
    (respelled : equalIgnoringAsciiCase spelling.toList zone.toList = true)
    (named : equalIgnoringAsciiCase name.toList (label.toList ++ '.' :: zone.toList) = true) :
    (∀ apex, equalIgnoringAsciiCase apex.toList zone.toList = true →
        labelOf apex spelling = apexLabel) ∧
      (equalIgnoringAsciiCase (labelOf name spelling).toList label.toList = true ↔
        EndsIn name spelling) ∧
      (¬ EndsIn name spelling → labelOf name spelling = name) ∧
      ∀ (entry : Entry) (record form : Record) (ttl : UInt32),
        entry.toRecord spelling = .ok record →
          (Origin.ofName spelling ttl).record record = .ok form →
            (equalIgnoringAsciiCase entry.name.toList zone.toList = true →
              form.label = apexLabel) ∧
            (entry.name = name → EndsIn name spelling →
              (Origin.ofName zone ttl).label label.toList = .ok form.label.toList) ∧
            (entry.name = name → ¬ EndsIn name spelling →
              (Origin.ofName zone ttl).label name.toList = .ok form.label.toList) := by
  have long := length_eq_of_asciiLower_eq (equalIgnoringAsciiCase_iff.1 respelled)
  have relative' : spelling.toList.getLast? ≠ some '.' := fun dot =>
    relative ((getLast?_eq_dot_congr (equalIgnoringAsciiCase_iff.1 respelled)).1 dot)
  obtain ⟨front, ending, parts⟩ := exists_parts named
  have cut := parts.labelOf_iff relative present inner long
  have whole : ¬ EndsIn name spelling → labelOf name spelling = name := fun other => by
    rw [parts.labelOf_eq relative present inner long,
      if_neg (mt (parts.endsIn_iff long).2 other)]
  have apex_found (apex : String)
      (same : equalIgnoringAsciiCase apex.toList zone.toList = true) :
      labelOf apex spelling = apexLabel := by
    refine labelOf_apex (equalIgnoringAsciiCase_iff.2 ?_) relative'
    rw [equalIgnoringAsciiCase_iff.1 same, equalIgnoringAsciiCase_iff.1 respelled]
  refine ⟨apex_found, cut, whole, fun entry record form ttl found canonical => ?_⟩
  have labelled := Origin.label_of_record canonical
  rw [Entry.label_of_toRecord found, Origin.ofName_congr (equalIgnoringAsciiCase_iff.1 respelled)] at labelled
  refine ⟨fun same => ?_, fun own inside => ?_, fun own outside => ?_⟩
  · rw [apex_found _ same, Origin.label_apexLabel] at labelled
    exact (String.toList_inj.1 (Except.ok.inj labelled)).symm
  · rw [own] at labelled
    rw [← labelled, Origin.label_congr _ (equalIgnoringAsciiCase_iff.1 (cut.2 inside))]
  · rwa [own, whole outside] at labelled

/-- A record of a zone that is configured with a capital. -/
theorem observed_label_by_spelling_of_capital :
    let entry : Entry := { type := "TXT", name := "www.example.com", content := "text", ttl := 300 }
    labelOf "EXAMPLE.com" "Example.com" = apexLabel ∧ ¬ EndsIn entry.name "Example.com" ∧
      labelOf entry.name "Example.com" = entry.name ∧
      ∃ record form, entry.toRecord "Example.com" = .ok record ∧
        (Origin.ofName "Example.com" 300).record record = .ok form ∧
        (Origin.ofName "example.com" 300).label entry.name.toList = .ok form.label.toList := by
  intro entry
  have other : ¬ EndsIn entry.name "Example.com" := by
    unfold EndsIn
    decide +kernel
  have named : equalIgnoringAsciiCase entry.name.toList
      ("www".toList ++ '.' :: "example.com".toList) = true := by decide +kernel
  have respelled : equalIgnoringAsciiCase "Example.com".toList "example.com".toList = true := by
    decide +kernel
  obtain ⟨apex, -, whole, canonical⟩ := observed_label_by_spelling (by decide +kernel)
    (by decide +kernel) (by decide +kernel) respelled named
  obtain ⟨form, observed, -⟩ := exists_eq_ok_of_map
    (show (entry.toRecord "Example.com" >>=
      (Origin.ofName "Example.com" 300).record).toOption.map (·.label) = some "www.example.com" by
      decide +kernel)
  obtain ⟨record, found, normal⟩ := bind_eq_ok_iff.1 observed
  exact ⟨apex _ (by decide +kernel), other, whole other, record, form, found, normal,
    (canonical entry record form 300 found normal).2.2 rfl other⟩

/-- The case of a configured zone matters for the labels that are observed below it. -/
theorem observed_label_not_of_capital :
    (¬ ∀ zone label name : String, zone.toList.getLast? ≠ some '.' → label ≠ apexLabel →
      label ≠ "" → label.toList.getLast? ≠ some '.' →
      equalIgnoringAsciiCase name.toList (label.toList ++ '.' :: zone.toList) = true →
        equalIgnoringAsciiCase (labelOf name zone).toList label.toList = true) ∧
    let entry : Entry := { type := "TXT", name := "www.example.com", content := "text", ttl := 300 }
    let observedLabel (zone : String) : Option String :=
      (entry.toRecord zone >>= (Origin.ofName zone 300).record).toOption.map (·.label)
    observedLabel "example.com" = some "www" ∧
      observedLabel "Example.com" = some "www.example.com" := by
  refine ⟨fun claimed => ?_, by decide +kernel, by decide +kernel⟩
  have same := claimed "Example.com" "www" "www.example.com" (by decide +kernel)
    (by decide +kernel) (by decide +kernel) (by decide +kernel) (by decide +kernel)
  exact absurd same (by decide +kernel)

end Cloudflare

end DnsReconcile
