/-
# Trimming

What is left of a text when the blanks around it are gone: a part of it that neither
begins nor ends with a blank, and all of it if it did not before.
-/

import DnsReconcile.Text.Blank
import Mathlib.Data.List.DropRight
import Mathlib.Data.List.Infix

namespace DnsReconcile.Text

variable {text ending : List Char}

/-- Dropping from the end is dropping from the beginning, backwards. -/
theorem dropEndWhile_eq_rdropWhile (belongs : Char → Bool) (text : List Char) :
    dropEndWhile belongs text = text.rdropWhile belongs := by
  induction text with
  | nil => rfl
  | cons c rest ih =>
      rw [dropEndWhile, ih, List.rdropWhile, List.rdropWhile, List.reverse_cons,
        List.dropWhile_append]
      cases rest.reverse.dropWhile belongs with
      | nil =>
          by_cases own : belongs c = true
          · simp [own]
          · simp [own]
      | cons d others => simp

theorem trim_eq (text : List Char) : trim text = (text.dropWhile isBlank).rdropWhile isBlank :=
  dropEndWhile_eq_rdropWhile _ _

theorem trim_sublist (text : List Char) : (trim text).Sublist text := by
  rw [trim_eq]
  exact (List.rdropWhile_prefix _ _).sublist.trans (List.dropWhile_sublist _)

/-- A trimmed text is the text itself or shorter. -/
theorem trim_eq_self_or_lt (text : List Char) :
    trim text = text ∨ (trim text).length < text.length :=
  (Nat.lt_or_eq_of_le (trim_sublist text).length_le).symm.imp
    (trim_sublist text).eq_of_length id

theorem isBlank_of_head?_trim (c : Char) (head : (trim text).head? = some c) :
    isBlank c = false := by
  rw [trim_eq] at head
  obtain ⟨dropped, whole⟩ := List.rdropWhile_prefix isBlank (text.dropWhile isBlank)
  have first : (text.dropWhile isBlank).head? = some c := by
    rw [← whole, List.head?_append, head]
    rfl
  have visible := List.head?_dropWhile_not isBlank text
  rw [first] at visible
  exact visible

theorem isBlank_of_getLast?_trim (c : Char) (last : (trim text).getLast? = some c) :
    isBlank c = false := by
  rw [trim_eq] at last
  have present : (text.dropWhile isBlank).rdropWhile isBlank ≠ [] := by
    intro empty
    rw [empty] at last
    cases last
  rw [List.getLast?_eq_some_getLast present, Option.some.injEq] at last
  rw [← last]
  exact Bool.eq_false_iff.2 (List.rdropWhile_last_not _ _ present)

/-- A text with something visible in it is not trimmed away. -/
theorem trim_ne_nil {c : Char} (member : c ∈ text) (visible : isBlank c = false) :
    trim text ≠ [] := by
  rw [trim_eq, Ne, List.rdropWhile_eq_nil_iff]
  intro blank
  have inside : c ∈ text.dropWhile isBlank := by
    rw [← text.takeWhile_append_dropWhile (p := isBlank)] at member
    refine (List.mem_append.1 member).resolve_left fun front => ?_
    exact Bool.false_ne_true (visible.symm.trans (List.mem_takeWhile_imp front))
  exact Bool.false_ne_true (visible.symm.trans (blank c inside))

/-- Trimming does nothing to a text without blanks around it. -/
theorem trim_eq_self (front : ∀ c, text.head? = some c → isBlank c = false)
    (back : ∀ c, text.getLast? = some c → isBlank c = false) : trim text = text := by
  have whole : text.dropWhile isBlank = text := by
    cases text with
    | nil => rfl
    | cons c rest => exact List.dropWhile_cons_of_neg (Bool.eq_false_iff.1 (front c rfl))
  rw [trim_eq, whole, List.rdropWhile_eq_self_iff]
  intro present
  exact Bool.eq_false_iff.1 (back _ (List.getLast?_eq_some_getLast present))

theorem trim_trim (text : List Char) : trim (trim text) = trim text :=
  trim_eq_self isBlank_of_head?_trim isBlank_of_getLast?_trim

theorem dropWhile_of_trim_eq (trimmed : trim text = text) : text.dropWhile isBlank = text := by
  refine (List.dropWhile_sublist isBlank).antisymm ?_
  have front := (List.rdropWhile_prefix isBlank (text.dropWhile isBlank)).sublist
  rwa [← trim_eq, trimmed] at front

/-- Trimming leaves something visible at the end of a text where it is. -/
theorem trim_concat {c : Char} (visible : isBlank c = false) (text : List Char) :
    trim (text ++ [c]) = text.dropWhile isBlank ++ [c] := by
  have kept : (text ++ [c]).dropWhile isBlank = text.dropWhile isBlank ++ [c] := by
    rw [List.dropWhile_append]
    split
    · next blank =>
      rw [List.isEmpty_iff.1 blank, List.dropWhile_cons_of_neg (Bool.eq_false_iff.1 visible)]
      rfl
    · rfl
  rw [trim_eq, kept, List.rdropWhile_concat_neg _ _ _ (Bool.eq_false_iff.1 visible)]

/-- What comes before a given ending. -/
theorem stripSuffix?_eq_some_iff {rest : List Char} :
    stripSuffix? ending text = some rest ↔ text = rest ++ ending := by
  simp only [stripSuffix?]
  rw [Option.ite_none_right_eq_some, Option.some.injEq, List.isSuffixOf_iff_suffix]
  apply Iff.intro
  · rintro ⟨⟨front, rfl⟩, rfl⟩
    simp
  · rintro rfl
    exact ⟨List.suffix_append _ _, by simp⟩

theorem stripSuffix?_append (rest ending : List Char) :
    stripSuffix? ending (rest ++ ending) = some rest :=
  stripSuffix?_eq_some_iff.2 rfl

theorem stripSuffix?_eq_none (other : ¬ ending <:+ text) : stripSuffix? ending text = none := by
  rw [stripSuffix?, if_neg (mt List.isSuffixOf_iff_suffix.1 other)]

/-! ## Dots at the end -/

theorem trimEndDots_eq_self (last : text.getLast? ≠ some '.') : trimEndDots text = text := by
  rw [trimEndDots, dropEndWhile_eq_rdropWhile, List.rdropWhile_eq_self_iff]
  intro present dot
  rw [List.getLast?_eq_some_getLast present] at last
  exact last (congrArg some (beq_iff_eq.1 dot))

theorem getLast?_trimEndDots (text : List Char) : (trimEndDots text).getLast? ≠ some '.' := by
  rw [trimEndDots, dropEndWhile_eq_rdropWhile]
  intro last
  have present : text.rdropWhile (· == '.') ≠ [] := by
    intro empty
    rw [empty] at last
    cases last
  rw [List.getLast?_eq_some_getLast present, Option.some.injEq] at last
  exact List.rdropWhile_last_not _ _ present (beq_iff_eq.2 last)

theorem trimEndDots_append_dot (text : List Char) :
    trimEndDots (text ++ ['.']) = trimEndDots text := by
  rw [trimEndDots, trimEndDots, dropEndWhile_eq_rdropWhile, dropEndWhile_eq_rdropWhile,
    List.rdropWhile_concat_pos _ _ _ rfl]

end DnsReconcile.Text
