/-
# Text up to the case of ASCII letters

Two spellings of a text that differ only in the case of ASCII letters have the same length,
the same dots, and the same lower case once blanks around them are gone. So whatever is made
of the lower case of a text is the same for both.
-/

import DnsReconcile.Proofs.Text.Casing
import DnsReconcile.Proofs.Text.Trimming

namespace DnsReconcile.Text

variable {text first second : List Char} {c : Char}

theorem equalIgnoringAsciiCase_iff :
    equalIgnoringAsciiCase first second = true ↔ asciiLower first = asciiLower second :=
  beq_iff_eq

/-! ## Characters -/

/-- The letters that have another spelling. -/
def asciiCapitals : List Char :=
  (List.range' 65 26).map Char.ofNat

/-- A character that is no ASCII capital is spelled as it is. -/
theorem asciiLowerChar_eq_self_or (c : Char) : asciiLowerChar c = c ∨ c ∈ asciiCapitals := by
  unfold asciiLowerChar
  split
  · next capital =>
    refine Or.inr (List.mem_map.2 ⟨c.toNat, List.mem_range'_1.2 (by omega), ?_⟩)
    exact Char.ofNat_toNat c
  · exact Or.inl rfl

/-- What looks the same in both spellings of every capital does so for any character. -/
theorem eq_of_asciiCapitals {α : Type} [DecidableEq α] (view : Char → α)
    (letters : (asciiCapitals.all fun c => view (asciiLowerChar c) == view c) = true) (c : Char) :
    view (asciiLowerChar c) = view c := by
  cases asciiLowerChar_eq_self_or c with
  | inl same => rw [same]
  | inr capital => exact eq_of_beq (List.all_eq_true.1 letters c capital)

/-- What lower-casing and trimming ask of a character. -/
structure Traits where
  blank : Bool
  dot : Bool
  sigma : Bool
  ignorable : Bool
  cased : Bool
  lower : List Char
deriving DecidableEq

def traits (c : Char) : Traits where
  blank := isBlank c
  dot := c == '.'
  sigma := c == 'Σ'
  ignorable := isCaseIgnorable c
  cased := isCased c
  lower := lowerChar c

/-- Both spellings of a letter are treated alike. -/
theorem traits_asciiLowerChar (c : Char) : traits (asciiLowerChar c) = traits c :=
  eq_of_asciiCapitals traits (by decide +kernel) c

theorem isBlank_asciiLowerChar (c : Char) : isBlank (asciiLowerChar c) = isBlank c :=
  congrArg Traits.blank (traits_asciiLowerChar c)

theorem isDot_asciiLowerChar (c : Char) : (asciiLowerChar c == '.') = (c == '.') :=
  congrArg Traits.dot (traits_asciiLowerChar c)

theorem isCaseIgnorable_asciiLowerChar (c : Char) :
    isCaseIgnorable (asciiLowerChar c) = isCaseIgnorable c :=
  congrArg Traits.ignorable (traits_asciiLowerChar c)

theorem isCased_asciiLowerChar (c : Char) : isCased (asciiLowerChar c) = isCased c :=
  congrArg Traits.cased (traits_asciiLowerChar c)

theorem lowerChar_asciiLowerChar (c : Char) : lowerChar (asciiLowerChar c) = lowerChar c :=
  congrArg Traits.lower (traits_asciiLowerChar c)

theorem asciiLowerChar_eq_dot_iff : asciiLowerChar c = '.' ↔ c = '.' := by
  rw [← beq_iff_eq, isDot_asciiLowerChar, beq_iff_eq]

theorem asciiLowerChar_eq_sigma_iff : asciiLowerChar c = 'Σ' ↔ c = 'Σ' := by
  have same : (asciiLowerChar c == 'Σ') = (c == 'Σ') :=
    congrArg Traits.sigma (traits_asciiLowerChar c)
  rw [← beq_iff_eq, same, beq_iff_eq]

theorem upperChar_asciiLowerChar (c : Char) : upperChar (asciiLowerChar c) = upperChar c :=
  eq_of_asciiCapitals upperChar (by decide +kernel) c

/-! ## Text -/

theorem length_eq_of_asciiLower_eq (same : asciiLower first = asciiLower second) :
    first.length = second.length := by
  have lengths := congrArg List.length same
  rwa [asciiLower, asciiLower, List.length_map, List.length_map] at lengths

/-- A text that ends in a dot does so in every spelling. -/
theorem getLast?_asciiLower_eq_dot_iff :
    (asciiLower text).getLast? = some '.' ↔ text.getLast? = some '.' := by
  rw [asciiLower, List.getLast?_map, Option.map_eq_some_iff]
  apply Iff.intro
  · rintro ⟨c, last, dot⟩
    rwa [asciiLowerChar_eq_dot_iff.1 dot] at last
  · intro last
    exact ⟨'.', last, rfl⟩

theorem getLast?_eq_dot_congr (same : asciiLower first = asciiLower second) :
    first.getLast? = some '.' ↔ second.getLast? = some '.' := by
  rw [← getLast?_asciiLower_eq_dot_iff, same, getLast?_asciiLower_eq_dot_iff]

theorem trim_asciiLower (text : List Char) : trim (asciiLower text) = asciiLower (trim text) := by
  have same : isBlank ∘ asciiLowerChar = isBlank := funext isBlank_asciiLowerChar
  simp only [trim_eq, asciiLower, List.rdropWhile, List.dropWhile_map, ← List.map_reverse, same]

theorem trimEndDots_asciiLower (text : List Char) :
    trimEndDots (asciiLower text) = asciiLower (trimEndDots text) := by
  have same : (· == '.') ∘ asciiLowerChar = (· == '.') := funext isDot_asciiLowerChar
  simp only [trimEndDots, dropEndWhile_eq_rdropWhile, asciiLower, List.rdropWhile,
    List.dropWhile_map, ← List.map_reverse, same]

theorem casedFollows_asciiLower (text : List Char) :
    casedFollows (asciiLower text) = casedFollows text := by
  have ignorable : isCaseIgnorable ∘ asciiLowerChar = isCaseIgnorable :=
    funext isCaseIgnorable_asciiLowerChar
  unfold casedFollows
  rw [asciiLower, List.dropWhile_map, ignorable]
  cases text.dropWhile isCaseIgnorable with
  | nil => rfl
  | cons c rest => exact isCased_asciiLowerChar c

/-- The case of ASCII letters does not matter for the lower case of a text. -/
theorem lower_asciiLower (text : List Char) : lower (asciiLower text) = lower text := by
  unfold lower
  generalize false = afterCased
  induction text generalizing afterCased with
  | nil => rfl
  | cons c rest ih =>
      show lowerAfter afterCased (asciiLowerChar c :: asciiLower rest) = _
      unfold lowerAfter
      simp only [asciiLowerChar_eq_sigma_iff, casedFollows_asciiLower, lowerChar_asciiLowerChar,
        isCaseIgnorable_asciiLowerChar, isCased_asciiLowerChar, ih]

theorem upper_asciiLower (text : List Char) : upper (asciiLower text) = upper text := by
  rw [upper, asciiLower, List.flatMap_map]
  exact List.flatMap_congr fun c _ => upperChar_asciiLowerChar c

theorem trim_congr (same : asciiLower first = asciiLower second) :
    asciiLower (trim first) = asciiLower (trim second) := by
  rw [← trim_asciiLower, same, trim_asciiLower]

/-- Nor does it when blanks around the text are dropped first. -/
theorem lower_trim_congr (same : asciiLower first = asciiLower second) :
    lower (trim first) = lower (trim second) := by
  rw [← lower_asciiLower (trim first), trim_congr same, lower_asciiLower]

end DnsReconcile.Text
