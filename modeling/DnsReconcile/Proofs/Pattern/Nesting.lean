/-
# Braces that close

When the braces of a text close, said by counting, and what follows from it for the shape of the
text: it is made of characters that are no braces and of groups, whose insides are such texts again.
A group that was opened ends at one place only.
-/

import DnsReconcile.Pattern.Braces
import Mathlib.Data.List.Basic

namespace DnsReconcile.Pattern

variable {c : Char} {text rest others inner inner' : List Char} {depth : Nat} {apart : Bool}

/-- The text closes `depth` groups that were opened before it, and all groups of its own: no part of
it from its beginning closes more groups than are open there, and in the end none is left open. -/
structure Closes (depth : Nat) (text : List Char) : Prop where
  opened : ∀ front, front <+: text → front.count '\x7d' ≤ depth + front.count '\x7b'
  even : depth + text.count '\x7b' = text.count '\x7d'

/-- No part of the text from its beginning closes more groups than it opens, and as many are closed
as are opened in all. -/
abbrev Balanced (text : List Char) : Prop :=
  Closes 0 text

/-- How many groups are open behind a character. -/
def depthAfter (depth : Nat) (c : Char) : Nat :=
  if c = '\x7b' then depth + 1 else if c = '\x7d' then depth - 1 else depth

theorem closes_nil : Closes depth [] ↔ depth = 0 := by
  refine ⟨fun closes => closes.even, ?_⟩
  rintro rfl
  exact ⟨fun front within => by rw [List.prefix_nil.1 within]; exact Nat.le_refl _, rfl⟩

theorem closes_cons_iff :
    Closes depth (c :: rest) ↔ (c = '\x7d' → 0 < depth) ∧ Closes (depthAfter depth c) rest := by
  have step (part : List Char) (fits : c = '\x7d' → 0 < depth) :
      depthAfter depth c + part.count '\x7b' + (c :: part).count '\x7d' =
        depth + (c :: part).count '\x7b' + part.count '\x7d' := by
    simp only [depthAfter, List.count_cons, beq_iff_eq]
    grind
  apply Iff.intro
  · intro closes
    have fits : c = '\x7d' → 0 < depth := by
      rintro rfl
      have first : 1 ≤ depth := by simpa using closes.opened ['\x7d'] ⟨rest, rfl⟩
      exact first
    refine ⟨fits, fun front within => ?_, ?_⟩
    · have whole := closes.opened (c :: front) (List.cons_prefix_cons.2 ⟨rfl, within⟩)
      have moved := step front fits
      omega
    · have whole := closes.even
      have moved := step rest fits
      omega
  · rintro ⟨fits, closes⟩
    refine ⟨fun front within => ?_, ?_⟩
    · rcases List.prefix_cons_iff.1 within with rfl | ⟨part, rfl, tail⟩
      · exact Nat.zero_le _
      · have later := closes.opened part tail
        have moved := step part fits
        omega
    · have later := closes.even
      have moved := step rest fits
      omega

@[simp] theorem closes_open : Closes depth ('\x7b' :: rest) ↔ Closes (depth + 1) rest := by
  simp [closes_cons_iff, depthAfter]

@[simp] theorem closes_close : Closes (depth + 1) ('\x7d' :: rest) ↔ Closes depth rest := by
  simp [closes_cons_iff, depthAfter]

theorem not_balanced_close : ¬ Balanced ('\x7d' :: rest) := by
  simp [Balanced, closes_cons_iff]

theorem closes_plain (unopened : c ≠ '\x7b') (unclosed : c ≠ '\x7d') :
    Closes depth (c :: rest) ↔ Closes depth rest := by
  simp [closes_cons_iff, depthAfter, unopened, unclosed]

/-- Of several open groups, the one inside `depth` others is closed somewhere. -/
theorem Closes.split (inside depth : Nat) (closes : Closes (inside + depth + 1) text) :
    ∃ inner rest, text = inner ++ '\x7d' :: rest ∧ Closes inside inner ∧ Closes depth rest := by
  induction text generalizing inside with
  | nil => exact absurd (closes_nil.1 closes) (Nat.succ_ne_zero _)
  | cons c text ih =>
      by_cases unopened : c = '\x7b'
      · subst unopened
        rw [closes_open, Nat.add_right_comm inside depth 1] at closes
        obtain ⟨inner, rest, rfl, within, after⟩ := ih _ closes
        exact ⟨'\x7b' :: inner, rest, rfl, closes_open.2 within, after⟩
      · by_cases unclosed : c = '\x7d'
        · subst unclosed
          rw [closes_close] at closes
          cases inside with
          | zero => exact ⟨[], text, rfl, closes_nil.2 rfl, by rwa [Nat.zero_add] at closes⟩
          | succ inside =>
              rw [Nat.add_right_comm inside 1 depth] at closes
              obtain ⟨inner, rest, rfl, within, after⟩ := ih _ closes
              exact ⟨'\x7d' :: inner, rest, rfl, closes_close.2 within, after⟩
        · rw [closes_plain unopened unclosed] at closes
          obtain ⟨inner, rest, rfl, within, after⟩ := ih _ closes
          exact ⟨c :: inner, rest, rfl, (closes_plain unopened unclosed).2 within, after⟩

/-- A group ends at one place only. -/
theorem group_inj (closes : Balanced inner) (closes' : Balanced inner')
    (same : inner ++ '\x7d' :: rest = inner' ++ '\x7d' :: others) :
    inner = inner' ∧ rest = others := by
  -- If one inside were longer, the brace that ends the other would close too much in it.
  have short {first between more more' : List Char} (closes : Balanced first)
      (closes' : Balanced (first ++ between))
      (ends : '\x7d' :: more = between ++ '\x7d' :: more') : between = [] := by
    cases between with
    | nil => rfl
    | cons c between =>
        obtain ⟨rfl, -⟩ := List.cons.inj ends
        have even := closes.even
        have opened := closes'.opened (first ++ ['\x7d'])
          ⟨between, by rw [List.append_assoc, List.singleton_append]⟩
        simp only [List.count_append, List.count_singleton, beq_self_eq_true, if_true,
          (by decide : ('\x7d' == '\x7b') = false), Bool.false_eq_true, if_false] at opened
        omega
  rcases List.append_eq_append_iff.1 same with ⟨between, rfl, ends⟩ | ⟨between, rfl, ends⟩
  · obtain rfl := short closes closes' ends
    exact ⟨(List.append_nil _).symm, (List.cons.inj ends).2⟩
  · obtain rfl := short closes' closes ends
    exact ⟨List.append_nil _, (List.cons.inj ends).2.symm⟩

/-! ## Nested groups -/

/-- A text whose braces are the ends of groups. If it is `apart`, no comma stands outside its
groups, so it is one alternative of a group. -/
inductive Nested : (apart : Bool) → List Char → Prop
  | nil {apart : Bool} : Nested apart []
  | char {apart : Bool} {c : Char} {rest : List Char} (unopened : c ≠ '\x7b')
      (unclosed : c ≠ '\x7d') (undivided : apart = true → c ≠ ',') (after : Nested apart rest) :
      Nested apart (c :: rest)
  | group {apart : Bool} {inner rest : List Char} (inside : Nested false inner)
      (after : Nested apart rest) : Nested apart ('\x7b' :: (inner ++ '\x7d' :: rest))

theorem Nested.append (nested : Nested apart text) (after : Nested false rest) :
    Nested false (text ++ rest) := by
  induction nested with
  | nil => exact after
  | char unopened unclosed _ _ ih =>
      exact .char unopened unclosed (fun apart => nomatch apart) ih
  | group inside _ _ ih =>
      rw [List.cons_append, List.append_assoc]
      exact .group inside ih

theorem Nested.closes_append (nested : Nested apart text) :
    Closes depth (text ++ rest) ↔ Closes depth rest := by
  induction nested generalizing depth rest with
  | nil => rfl
  | char unopened unclosed _ _ ih => rw [List.cons_append, closes_plain unopened unclosed, ih]
  | group _ _ inside ih =>
      rw [List.cons_append, closes_open, List.append_assoc, inside, List.cons_append, closes_close,
        ih]

theorem Nested.balanced (nested : Nested apart text) : Balanced text := by
  rw [← List.append_nil text, Balanced, nested.closes_append, closes_nil]

/-- The braces of a text are balanced exactly if they are the ends of groups. -/
theorem nested_iff_balanced : Nested false text ↔ Balanced text := by
  refine ⟨Nested.balanced, fun balanced => ?_⟩
  induction length : text.length using Nat.strongRecOn generalizing text with
  | ind size ih =>
      subst length
      cases text with
      | nil => exact .nil
      | cons c text =>
          by_cases unopened : c = '\x7b'
          · subst unopened
            obtain ⟨inner, rest, rfl, within, after⟩ := Closes.split 0 0 (closes_open.1 balanced)
            refine .group (ih inner.length ?_ within rfl) (ih rest.length ?_ after rfl) <;>
              simp only [List.length_cons, List.length_append] <;> omega
          · by_cases unclosed : c = '\x7d'
            · subst unclosed
              exact absurd balanced not_balanced_close
            · have after := (closes_plain unopened unclosed).1 balanced
              exact .char unopened unclosed (fun apart => nomatch apart)
                (ih text.length (Nat.lt_succ_self _) after rfl)

/-- A text without braces. -/
def Plain (text : List Char) : Prop :=
  ∀ c ∈ text, c ≠ '\x7b' ∧ c ≠ '\x7d'

instance : Decidable (Plain text) :=
  List.decidableBAll _ text

theorem Plain.nested (plain : Plain text) : Nested false text := by
  induction text with
  | nil => exact .nil
  | cons c text ih =>
      obtain ⟨own, others⟩ := List.forall_mem_cons.1 plain
      exact .char own.1 own.2 (fun apart => nomatch apart) (ih others)

end DnsReconcile.Pattern
