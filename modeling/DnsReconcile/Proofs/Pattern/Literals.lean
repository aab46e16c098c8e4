/-
# Patterns without wildcards

A pattern without wildcards, classes and groups is meant to describe itself, in either case. But
globs see slashes where a label has dots, and a slash that a label or a pattern has of its own is
the same to them. So such a pattern describes all texts that are spelled like it but for the case of
ASCII letters and but for which of the two dividers stands where.
-/

import DnsReconcile.Proofs.Pattern.Language

namespace DnsReconcile

namespace Pattern

open Text

variable {c d : Char} {text label : List Char}

/-- A text in which no character has a meaning of its own. -/
def IsLiteral (text : List Char) : Prop :=
  ∀ c ∈ text, c ∉ ['*', '?', '[', ']', '\x7b', '\x7d']

instance : Decidable (IsLiteral text) :=
  List.decidableBAll _ text

/-- A character that divides segments, in labels or in globs. -/
def IsDivider (c : Char) : Prop :=
  c = '.' ∨ c = separator

/-- Two characters are the same but for their case, or both of them divide segments. -/
def Alike (c d : Char) : Prop :=
  asciiLowerChar c = asciiLowerChar d ∨ IsDivider c ∧ IsDivider d

/-! ## Characters -/

/-- To globs, characters are the same if they are alike. -/
theorem asciiLowerChar_slash_eq_iff :
    asciiLowerChar (slash c) = asciiLowerChar (slash d) ↔ Alike c d := by
  have apart : '.' ≠ separator := by decide
  have dot_of_lower {c : Char} (other : c ≠ '.') : asciiLowerChar '.' ≠ asciiLowerChar c := by
    rw [asciiLowerChar_dot, ne_comm, Ne, asciiLowerChar_eq_dot_iff]
    exact other
  simp only [Alike, IsDivider, slash]
  split
  · next first =>
      subst first
      split
      · next second => simp [second]
      · next second =>
          rw [asciiLowerChar_separator, eq_comm, asciiLowerChar_eq_separator_iff]
          simp [dot_of_lower second, second]
  · next first =>
      split
      · next second =>
          subst second
          rw [asciiLowerChar_separator, asciiLowerChar_eq_separator_iff]
          simp [(dot_of_lower first).symm, first]
      · next second =>
          simp only [first, second, false_or, iff_self_or]
          rintro ⟨rfl, rfl⟩
          rfl

/-- Characters that are alike are the same but for their case if both or neither of them is a
dot. -/
theorem alike_and_dot_iff :
    Alike c d ∧ (c = '.' ↔ d = '.') ↔ asciiLowerChar c = asciiLowerChar d := by
  apply Iff.intro
  · rintro ⟨same | ⟨first, second⟩, dots⟩
    · exact same
    · by_cases dot : c = '.'
      · rw [dot, dots.1 dot]
      · rw [first.resolve_left dot, second.resolve_left (mt dots.2 dot)]
  · intro same
    refine ⟨Or.inl same, ?_⟩
    rw [← asciiLowerChar_eq_dot_iff, same, asciiLowerChar_eq_dot_iff]

/-- The other divider in place of each divider. -/
def otherDivider (c : Char) : Char :=
  if c = '.' then separator else if c = separator then '.' else c

theorem alike_otherDivider (c : Char) : Alike c (otherDivider c) := by
  unfold otherDivider
  split
  · next dot => exact Or.inr ⟨Or.inl dot, Or.inr rfl⟩
  · split
    · next slash => exact Or.inr ⟨Or.inr slash, Or.inl rfl⟩
    · exact Or.inl rfl

theorem asciiLowerChar_otherDivider_eq_iff :
    asciiLowerChar c = asciiLowerChar (otherDivider c) ↔ ¬ IsDivider c := by
  have apart : asciiLowerChar '.' ≠ asciiLowerChar separator := by decide
  unfold IsDivider otherDivider
  split
  · next dot => simp [dot, apart]
  · split
    · next dotless slash => simp [slash, apart.symm]
    · next dotless slashless => simp [dotless, slashless]

/-! ## Texts -/

theorem equalIgnoringAsciiCase_iff_forall₂ :
    equalIgnoringAsciiCase text label = true ↔
      List.Forall₂ (fun c d => asciiLowerChar c = asciiLowerChar d) text label := by
  rw [equalIgnoringAsciiCase_iff, ← List.forall₂_eq_eq_eq]
  simp only [asciiLower, List.forall₂_map_left_iff, List.forall₂_map_right_iff]

theorem forall₂_alike_and_dot_iff :
    List.Forall₂ Alike text label ∧ List.Forall₂ (fun c d => c = '.' ↔ d = '.') text label ↔
      equalIgnoringAsciiCase text label = true := by
  simp only [equalIgnoringAsciiCase_iff_forall₂, ← alike_and_dot_iff]
  induction text generalizing label with
  | nil => cases label <;> simp
  | cons c text ih =>
      cases label with
      | nil => simp
      | cons d label =>
          rw [List.forall₂_cons, List.forall₂_cons, and_and_and_comm, ih, List.forall₂_cons]

/-- A text without dividers is like no other one but for case. -/
theorem equalIgnoringAsciiCase_of_alike (undivided : ∀ c ∈ text, ¬ IsDivider c)
    (alike : List.Forall₂ Alike text label) : equalIgnoringAsciiCase text label = true := by
  rw [equalIgnoringAsciiCase_iff_forall₂]
  induction alike with
  | nil => exact .nil
  | cons own _ ih =>
      obtain ⟨first, others⟩ := List.forall_mem_cons.1 undivided
      exact .cons (own.resolve_right fun both => first both.1) (ih others)

/-- With the other dividers in it, a text is the same only if it has none. -/
theorem equalIgnoringAsciiCase_otherDivider_iff :
    equalIgnoringAsciiCase text (text.map otherDivider) = true ↔ ∀ c ∈ text, ¬ IsDivider c := by
  rw [equalIgnoringAsciiCase_iff_forall₂, List.forall₂_map_right_iff, List.forall₂_same]
  exact forall₂_congr fun c _ => asciiLowerChar_otherDivider_eq_iff

/-! ## Literal texts -/

section Literal

variable (literal : IsLiteral text)
include literal

theorem IsLiteral.classless : '[' ∉ text :=
  fun member => literal '[' member (by decide)

theorem IsLiteral.plain : Plain text :=
  fun c member => ⟨fun same => literal c member (by simp [same]),
    fun same => literal c member (by simp [same])⟩

theorem IsLiteral.expand_eq : expand text = .ok [text] := by
  have groupless : findGroup false text = .ok none := by
    rw [findGroup_eq_none_iff, outline_of_classless literal.classless]
    exact literal.plain
  rw [expand, expandWithin, groupless]

/-- A literal text has one glob, and it describes what is like the text. -/
theorem IsLiteral.coversWithGaps_globsOf_iff :
    coversWithGaps (globsOf text) (label.map slash) = true ↔ List.Forall₂ Alike text label := by
  induction text generalizing label with
  | nil => exact coversWithGaps_empty_iff.trans (by simp)
  | cons c text ih =>
      obtain ⟨own, others⟩ := List.forall_mem_cons.1 literal
      simp only [List.mem_cons, List.not_mem_nil, or_false, not_or] at own
      obtain ⟨starless, definite, unopened, -⟩ := own
      have lone : c = '*' → text.head? ≠ some '*' := fun star => absurd star starless
      obtain ⟨glob, globs, tail_globs, whole_globs⟩ := exists_globsOf_cons unopened lone
      have token : tokenOf c = .literal (slash c) := by
        simp only [tokenOf, slash, if_neg definite, if_neg starless]
        split <;> rfl
      rw [whole_globs, token, coversWithGaps_token_iff (by simp), ← tail_globs]
      simp only [Token.covers, beq_iff_eq]
      cases label with
      | nil => simp
      | cons d label =>
          rw [List.forall₂_cons, ← ih others, ← asciiLowerChar_slash_eq_iff,
            @eq_comm _ (asciiLowerChar (slash c))]
          simp

end Literal

end Pattern

namespace LabelMatcher

open Pattern Text

/-- A literal pattern is accepted and describes what is spelled like it, dots and slashes being
alike. What it describes is the pattern itself in either case exactly if the dots stand at the same
places. So a literal pattern describes nothing but itself exactly if it has neither dots nor
slashes. -/
theorem literal_up_to_dividers {pattern : String} (literal : IsLiteral pattern.toList) :
    glob.check pattern = .ok () ∧
      (∀ label : String,
        (glob.covers pattern label = true ↔ List.Forall₂ Alike pattern.toList label.toList) ∧
        (glob.covers pattern label = true ∧
            List.Forall₂ (fun c d => c = '.' ↔ d = '.') pattern.toList label.toList ↔
          equalIgnoringAsciiCase pattern.toList label.toList = true)) ∧
      ((∀ label : String, glob.covers pattern label = true ↔
          equalIgnoringAsciiCase pattern.toList label.toList = true) ↔
        ∀ c ∈ pattern.toList, ¬ IsDivider c) := by
  have described (label : String) :
      glob.covers pattern label = true ↔ List.Forall₂ Alike pattern.toList label.toList := by
    rw [covers_of_expand literal.classless literal.expand_eq]
    simp only [List.mem_singleton, exists_eq_left]
    exact literal.coversWithGaps_globsOf_iff
  refine ⟨(check_eq_ok_iff literal.classless).2 literal.plain.nested.balanced,
    fun label => ⟨described label, ?_⟩, ?_⟩
  · rw [described, forall₂_alike_and_dot_iff]
  · apply Iff.intro
    · intro exactly
      have other := exactly (String.ofList (pattern.toList.map otherDivider))
      rw [described, String.toList_ofList, equalIgnoringAsciiCase_otherDivider_iff] at other
      exact other.1 (List.forall₂_map_right_iff.2
        (List.forall₂_same.2 fun c _ => alike_otherDivider c))
    · intro undivided label
      rw [described]
      exact ⟨equalIgnoringAsciiCase_of_alike undivided,
        fun same => (forall₂_alike_and_dot_iff.2 same).1⟩

/-- The label of a delegated network, which is also spelled with a dot. -/
theorem literal_up_to_dividers_of_network :
    IsLiteral "0/25".toList ∧ glob.check "0/25" = .ok () ∧ glob.covers "0/25" "0/25" = true ∧
      glob.covers "0/25" "0.25" = true ∧ glob.covers "0/25" "0-25" = false := by
  have literal : IsLiteral "0/25".toList := by decide +kernel
  obtain ⟨accepted, described, -⟩ := literal_up_to_dividers literal
  refine ⟨literal, accepted, (described "0/25").1.2 ?_, (described "0.25").1.2 ?_, ?_⟩
  · exact List.forall₂_same.2 fun c _ => Or.inl rfl
  · exact .cons (Or.inl rfl) (.cons (Or.inr ⟨Or.inr rfl, Or.inl rfl⟩)
      (.cons (Or.inl rfl) (.cons (Or.inl rfl) .nil)))
  · decide +kernel

/-- A literal pattern does describe another label than its own. -/
theorem literal_not_only_itself :
    ¬ ∀ pattern : String, IsLiteral pattern.toList → ∀ label : String,
      (glob.covers pattern label = true ↔
        equalIgnoringAsciiCase pattern.toList label.toList = true) := by
  intro itself
  have same := (itself "0/25" (by decide +kernel) "0.25").1 (by decide +kernel)
  exact absurd same (by decide +kernel)

end LabelMatcher

end DnsReconcile
