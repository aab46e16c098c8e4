/-
# Labels of full names

A full name below the zone has for its label what stands in front of the name of the zone. Only
the blanks around the whole name are dropped, and of what is left in front of the zone nothing is
asked but that there is something. So it may end in a blank, which is dropped when the label is
read again; or in a dot, with which it is read as a full name itself; or it may be the sign of the
zone, and stand for another name than the one that was given. In all other cases the label stands
for that name, and is there to stay.
-/

import DnsReconcile.Proofs.Zone.CanonicalForms

namespace DnsReconcile

open Text

namespace Origin

variable {origin : Origin} {text label : List Char}

/-- The full name that a label of the zone stands for, without a dot at its end. -/
def owner (origin : Origin) (label : List Char) : List Char :=
  if label = ['@'] then origin.zone else label ++ '.' :: origin.zone

/-- A relative label: it is not empty, is no full name, and has no blanks around it. -/
structure IsRelative (label : List Char) : Prop where
  present : label ≠ []
  undotted : label.getLast? ≠ some '.'
  trimmed : trim label = label

/-- What is asked of the label of a full name. It has a canonical spelling, stands for the same
name, and is its own canonical form. Blanks around the full name are no part of it. -/
structure Settles (origin : Origin) (text label : List Char) : Prop where
  form : label = ['@'] ∨ IsRelative label
  owner : origin.owner label ++ ['.'] = Text.lower (trim text)
  again : origin.label label = .ok label

/-- A label ends in something that is neither a dot nor a blank. -/
def EndsPlainly (label : List Char) : Prop :=
  ∀ c ∈ label.getLast?, c ≠ '.' ∧ isBlank c = false

/-- A relative label in lower case is its own canonical form. -/
theorem IsRelative.label_eq_self (relative : IsRelative label) (lowered : ∀ c ∈ label, IsLower c) :
    origin.label label = .ok label := by
  refine label_of_labelForm ?_
  rw [relative.trimmed, lower_eq_self lowered]
  exact .of_undotted relative.present relative.undotted

/-- A name is in full if a dot ends it, also when blanks around it are dropped and it is in lower
case. -/
theorem exists_lower_trim_of_full (full : text.getLast? = some '.') :
    ∃ name, Text.lower (trim text) = name ++ ['.'] := by
  obtain ⟨front, rfl⟩ := List.getLast?_eq_some_iff.1 full
  refine ⟨Text.lower (front.dropWhile isBlank), ?_⟩
  rw [trim_concat (by decide), lower_append_dot]

/-- The label of a full name: the name is that of the zone, or the label stands in front of it. -/
theorem label_of_full (full : text.getLast? = some '.') (found : origin.label text = .ok label) :
    (Text.lower (trim text) = origin.zone ++ ['.'] ∧ label = ['@']) ∨
      (Text.lower (trim text) = label ++ '.' :: origin.zone ++ ['.'] ∧ label ≠ []) := by
  obtain ⟨name, spelled⟩ := exists_lower_trim_of_full full
  have form := labelForm_of_label found
  rw [spelled] at form ⊢
  generalize whole : name ++ ['.'] = given at form
  have last : given.getLast? = some '.' := whole ▸ List.getLast?_concat
  cases form with
  | blank => cases last
  | sign => exact absurd last (by decide)
  | relative _ _ undotted => exact absurd last undotted
  | apex => exact .inl ⟨rfl, rfl⟩
  | below present => exact .inr ⟨rfl, present⟩

section FullNames

variable (full : text.getLast? = some '.') (found : origin.label text = .ok label)
include full found

/-- The label of a full name has no blank in front. -/
theorem front_of_full (c : Char) (head : label.head? = some c) : isBlank c = false := by
  rcases label_of_full full found with ⟨-, rfl⟩ | ⟨spelled, present⟩
  · rw [← Option.some.inj head]
    decide
  · have unblanked : ∀ d, (trim text).head? = some d → isBlank d = false := isBlank_of_head?_trim
    refine head?_lower unblanked c ?_
    rw [spelled, List.append_assoc, List.head?_append_of_ne_nil _ present]
    exact head

theorem isRelative_of_endsPlainly (plain : EndsPlainly label) : IsRelative label where
  present := (of_label found).1
  undotted last := (plain '.' last).1 rfl
  trimmed := trim_eq_self (front_of_full full found) fun c last => (plain c last).2

/-- The label is read again as itself if its end does not mean anything else. -/
theorem label_self_iff_endsPlainly : origin.label label = .ok label ↔ EndsPlainly label := by
  obtain ⟨-, lowered⟩ := of_label found
  apply Iff.intro
  · intro again c last
    obtain ⟨trimmed, undotted⟩ := of_label_self again
    rw [← trimmed] at last
    refine ⟨?_, isBlank_of_getLast?_trim c last⟩
    rintro rfl
    exact undotted (trimmed ▸ last)
  · exact fun plain => (isRelative_of_endsPlainly full found plain).label_eq_self lowered

/-- The label stands for the name that was given, unless it came to be the sign of the zone. -/
theorem owner_eq_iff :
    origin.owner label ++ ['.'] = Text.lower (trim text) ↔
      Text.lower (trim text) ≠ '@' :: '.' :: origin.zone ++ ['.'] := by
  rcases label_of_full full found with ⟨spelled, rfl⟩ | ⟨spelled, -⟩
  · refine iff_of_true spelled.symm fun sign => ?_
    have lengths := congrArg List.length (spelled.symm.trans sign)
    simp only [List.length_append, List.length_cons] at lengths
    omega
  · rw [spelled, owner]
    split
    · next sign =>
      subst sign
      refine iff_of_false (fun same => ?_) (not_not_intro rfl)
      have lengths := congrArg List.length same
      simp only [List.length_append, List.length_cons, List.length_nil] at lengths
      omega
    · next other =>
      refine iff_of_true rfl fun sign => other ?_
      have front := List.append_cancel_right sign
      exact List.append_cancel_right (front : label ++ _ = ['@'] ++ _)

/-- The label of a full name is what it should be exactly if what stands in front of the zone ends
neither in a dot nor in a blank, and is not the sign of the zone. The first is what it takes for
the label to be its own canonical form, and the second, for it to stand for the same name. -/
theorem full_name_settles_iff :
    (origin.label label = .ok label ↔ EndsPlainly label) ∧
      (origin.owner label ++ ['.'] = Text.lower (trim text) ↔
        Text.lower (trim text) ≠ '@' :: '.' :: origin.zone ++ ['.']) ∧
      (Settles origin text label ↔ EndsPlainly label ∧
        Text.lower (trim text) ≠ '@' :: '.' :: origin.zone ++ ['.']) := by
  have stays := label_self_iff_endsPlainly full found
  have named := owner_eq_iff full found
  refine ⟨stays, named, fun settles => ?_, fun ⟨plain, other⟩ => ?_⟩
  · exact ⟨stays.1 settles.again, named.1 settles.owner⟩
  · exact ⟨.inr (isRelative_of_endsPlainly full found plain), named.2 other, stays.2 plain⟩

end FullNames

/-- A label with dots inside, and capitals. -/
theorem full_name_settles_iff_of_capitals :
    let origin := ofName "Example.com" 300
    let text := " A.WWW.example.COM.".toList
    text.getLast? = some '.' ∧ origin.label text = .ok "a.www".toList ∧
      Settles origin text "a.www".toList := by
  intro origin text
  have full : text.getLast? = some '.' := by decide +kernel
  have found : origin.label text = .ok "a.www".toList := by decide +kernel
  have plain : EndsPlainly "a.www".toList := by
    intro c last
    have ending : "a.www".toList.getLast? = some 'w' := by decide +kernel
    obtain rfl := Option.some.inj (ending.symm.trans last)
    decide
  exact ⟨full, found, (full_name_settles_iff full found).2.2.2 ⟨plain, by decide +kernel⟩⟩

/-- A label that ends in a dot is refused when it is read again, one that ends in a blank becomes
another, and the sign of the zone stands for the zone. -/
theorem full_name_not_always_settles :
    (¬ ∀ (name : String) (ttl : UInt32) (text label : List Char), (ofName name ttl).zone ≠ [] →
      text.getLast? = some '.' → (ofName name ttl).label text = .ok label →
        Settles (ofName name ttl) text label) ∧
    let origin := ofName "example.com" 300
    (origin.label "a..example.com.".toList = .ok "a.".toList ∧
        origin.label "a.".toList = .error (.labelOutsideZone "a." "example.com")) ∧
      (origin.label "a .example.com.".toList = .ok "a ".toList ∧
        origin.label "a ".toList = .ok "a".toList) ∧
      origin.label "@.example.com.".toList = .ok "@".toList ∧
        origin.owner "@".toList = "example.com".toList := by
  refine ⟨fun claimed => ?_, by decide +kernel⟩
  have settles := claimed "example.com" 300 "a..example.com.".toList "a.".toList
    (by decide +kernel) (by decide +kernel) (by decide +kernel)
  exact absurd settles.again (by decide +kernel)

end Origin

end DnsReconcile
