/-
# What patterns expand to

Said part by part: a character that is no brace stands for itself, a group stands for what one of
its alternatives stands for, and what comes after either is expanded for itself. Patterns are
expanded otherwise, by rewriting the whole pattern at its first group again and again. Main
statement: that comes to the same, and it ends well exactly for patterns whose braces are balanced.
-/

import DnsReconcile.Proofs.Pattern.Groups
import DnsReconcile.Proofs.Refusals

namespace DnsReconcile.Pattern

variable {c : Char} {pattern text rest front back inner after : List Char} {apart : Bool}

/-- A text without groups is one that the pattern stands for. -/
inductive Expands : (pattern text : List Char) → Prop
  | nil : Expands [] []
  | char {c : Char} {rest text : List Char} (unopened : c ≠ '\x7b') (unclosed : c ≠ '\x7d')
      (tail : Expands rest text) : Expands (c :: rest) (c :: text)
  | group {alts : List (List Char)} {alt rest front back : List Char}
      (each : ∀ alt ∈ alts, Nested true alt) (member : alt ∈ alts) (own : Expands alt front)
      (tail : Expands rest back) :
      Expands ('\x7b' :: (separated alts ++ '\x7d' :: rest)) (front ++ back)

/-! ## Parts of a pattern -/

theorem expands_nil : Expands [] text ↔ text = [] := by
  refine ⟨fun expands => ?_, ?_⟩
  · cases expands
    rfl
  · rintro rfl
    exact .nil

theorem expands_char (unopened : c ≠ '\x7b') (unclosed : c ≠ '\x7d') :
    Expands (c :: rest) text ↔ ∃ tail, text = c :: tail ∧ Expands rest tail := by
  apply Iff.intro
  · intro expands
    cases expands with
    | char _ _ tail => exact ⟨_, rfl, tail⟩
    | group => exact absurd rfl unopened
  · rintro ⟨tail, rfl, expands⟩
    exact .char unopened unclosed expands

/-- A group stands for what its alternatives stand for. -/
theorem expands_group (nested : Nested false inner) :
    Expands ('\x7b' :: (inner ++ '\x7d' :: after)) text ↔
      ∃ alt ∈ alternatives 0 inner, ∃ front back, text = front ++ back ∧ Expands alt front ∧
        Expands after back := by
  obtain ⟨-, each, joins⟩ := nested.alternatives
  apply Iff.intro
  · intro expands
    generalize whole : '\x7b' :: (inner ++ '\x7d' :: after) = pattern at expands
    cases expands with
    | nil => exact nomatch whole
    | char unopened => exact absurd (List.cons.inj whole).1.symm unopened
    | @group alts alt rest front back each' member own tail =>
        obtain ⟨rfl, rfl⟩ := group_inj nested.balanced (nested_separated each').balanced
          (List.cons.inj whole).2
        rw [alternatives_separated (List.ne_nil_of_mem member) each']
        exact ⟨alt, member, front, back, rfl, own, tail⟩
  · rintro ⟨alt, member, front, back, rfl, own, tail⟩
    have expands := Expands.group each member own tail
    rwa [joins] at expands

theorem expands_plain_append (plain : Plain front) :
    Expands (front ++ rest) text ↔ ∃ tail, text = front ++ tail ∧ Expands rest tail := by
  induction front generalizing text with
  | nil => simp
  | cons c front ih =>
      obtain ⟨⟨unopened, unclosed⟩, plain⟩ := List.forall_mem_cons.1 plain
      rw [List.cons_append, expands_char unopened unclosed]
      simp only [ih plain]
      apply Iff.intro
      · rintro ⟨-, rfl, tail, rfl, expands⟩
        exact ⟨tail, rfl, expands⟩
      · rintro ⟨tail, rfl, expands⟩
        exact ⟨front ++ tail, rfl, tail, rfl, expands⟩

/-- Neighbours are expanded each for itself. -/
theorem expands_append (nested : Nested apart pattern) :
    Expands (pattern ++ rest) text ↔
      ∃ front back, text = front ++ back ∧ Expands pattern front ∧ Expands rest back := by
  induction nested generalizing text with
  | nil => simp [expands_nil]
  | @char apart c pattern unopened unclosed _ _ ih =>
      rw [List.cons_append, expands_char unopened unclosed]
      simp only [ih, expands_char unopened unclosed]
      apply Iff.intro
      · rintro ⟨-, rfl, front, back, rfl, own, tail⟩
        exact ⟨c :: front, back, rfl, ⟨front, rfl, own⟩, tail⟩
      · rintro ⟨-, back, rfl, ⟨front, rfl, own⟩, tail⟩
        exact ⟨front ++ back, rfl, front, back, rfl, own, tail⟩
  | @group apart inner pattern inside _ _ ih =>
      rw [List.cons_append, List.append_assoc, List.cons_append, expands_group inside]
      simp only [ih, expands_group inside]
      apply Iff.intro
      · rintro ⟨alt, member, first, -, rfl, own, front, back, rfl, next, tail⟩
        exact ⟨first ++ front, back, (List.append_assoc ..).symm,
          ⟨alt, member, first, front, rfl, own, next⟩, tail⟩
      · rintro ⟨-, back, rfl, ⟨alt, member, first, front, rfl, own, next⟩, tail⟩
        exact ⟨alt, member, first, front ++ back, List.append_assoc .., own, front, back, rfl, next,
          tail⟩

/-- All characters come from the pattern. -/
theorem Expands.mem (expands : Expands pattern text) (member : c ∈ text) : c ∈ pattern := by
  induction expands with
  | nil => exact member
  | char _ _ _ ih =>
      rcases List.mem_cons.1 member with rfl | later
      · exact List.mem_cons_self
      · exact List.mem_cons_of_mem _ (ih later)
  | group _ known _ _ first later =>
      refine List.mem_cons_of_mem _ (List.mem_append.2 ?_)
      rcases List.mem_append.1 member with own | behind
      · exact Or.inl ((sublist_separated known).subset (first own))
      · exact Or.inr (List.mem_cons_of_mem _ (later behind))

theorem Expands.balanced (expands : Expands pattern text) : Balanced pattern := by
  induction expands with
  | nil => exact closes_nil.2 rfl
  | char unopened unclosed _ ih => exact (closes_plain unopened unclosed).2 ih
  | group each _ _ _ _ ih =>
      exact closes_open.2 ((nested_separated each).closes_append.2 (closes_close.2 ih))

/-! ## Expansion by rewriting -/

/-- Rewriting a pattern at its first group leads to the same. -/
theorem expands_rewritten_iff (plain : Plain front) (nested : Nested false inner) :
    Expands (front ++ '\x7b' :: (inner ++ '\x7d' :: after)) text ↔
      ∃ alt ∈ alternatives 0 inner, Expands (front ++ alt ++ after) text := by
  have each := nested.alternatives.2.1
  simp only [List.append_assoc, expands_plain_append plain, expands_group nested]
  apply Iff.intro
  · rintro ⟨tail, rfl, alt, member, own, back, rfl, expands, behind⟩
    exact ⟨alt, member, own ++ back, rfl,
      (expands_append (each alt member)).2 ⟨own, back, rfl, expands, behind⟩⟩
  · rintro ⟨alt, member, tail, rfl, expands⟩
    exact ⟨tail, rfl, alt, member, (expands_append (each alt member)).1 expands⟩

section Rewritten

variable {alt : List Char} (member : alt ∈ alternatives 0 inner)
include member

/-- With an alternative in place of its group, nothing comes into the pattern. -/
theorem rewritten_sublist (front after : List Char) :
    (front ++ alt ++ after).Sublist (front ++ (inner ++ after)) := by
  rw [List.append_assoc]
  exact (((cutInto_alternatives 0 inner).sublist member).append_right after).append_left front

theorem mem_of_mem_rewritten (present : c ∈ front ++ alt ++ after) :
    c ∈ front ++ '\x7b' :: (inner ++ '\x7d' :: after) := by
  have present := (rewritten_sublist member front after).subset present
  simp only [List.mem_append, List.mem_cons] at present ⊢
  tauto

/-- With an alternative in place of its group, there are fewer groups. -/
theorem count_rewritten_lt :
    (front ++ alt ++ after).count '\x7b' <
      (front ++ '\x7b' :: (inner ++ '\x7d' :: after)).count '\x7b' := by
  have most := (rewritten_sublist member front after).count_le '\x7b'
  simp only [List.count_append, List.count_cons] at most ⊢
  simp
  omega

theorem balanced_rewritten_iff (nested : Nested false inner) (plain : Plain front) :
    Balanced (front ++ alt ++ after) ↔
      Balanced (front ++ '\x7b' :: (inner ++ '\x7d' :: after)) := by
  simp only [Balanced, List.append_assoc, plain.nested.closes_append, closes_open,
    nested.closes_append, closes_close, (nested.alternatives.2.1 alt member).closes_append]

end Rewritten

/-- An outcome of the expansion of a pattern is right: there are texts if the braces of the pattern
are balanced, and they are all that it stands for. -/
structure ExpandsTo (pattern : List Char) (outcome : Except BraceProblem (List (List Char))) :
    Prop where
  exists_iff : (∃ texts, outcome = .ok texts) ↔ Balanced pattern
  mem_iff : ∀ texts, outcome = .ok texts → ∀ text, text ∈ texts ↔ Expands pattern text

theorem Plain.expandsTo (plain : Plain pattern) : ExpandsTo pattern (.ok [pattern]) where
  exists_iff := iff_of_true ⟨_, rfl⟩ plain.nested.balanced
  mem_iff texts same text := by
    rw [← Except.ok.inj same, List.mem_singleton, ← List.append_nil pattern,
      expands_plain_append plain]
    simp [expands_nil]

/-- If the outcomes are right with each alternative in place of its group, then all of them together
are right for the pattern with the group. -/
theorem expandsTo_of_rewritten (plain : Plain front) (nested : Nested false inner)
    {outcome : List Char → Except BraceProblem (List (List Char))}
    (each : ∀ alt ∈ alternatives 0 inner, ExpandsTo (front ++ alt ++ after) (outcome alt)) :
    ExpandsTo (front ++ '\x7b' :: (inner ++ '\x7d' :: after))
      (((alternatives 0 inner).mapM outcome).map List.flatten) where
  exists_iff := by
    rw [exists_map_flatten_eq_ok_iff]
    apply Iff.intro
    · intro expanded
      obtain ⟨alt, member⟩ := List.exists_mem_of_ne_nil _ nested.alternatives.1
      exact (balanced_rewritten_iff member nested plain).1
        ((each alt member).exists_iff.1 (expanded alt member))
    · intro balanced alt member
      exact (each alt member).exists_iff.2
        ((balanced_rewritten_iff member nested plain).2 balanced)
  mem_iff texts whole text := by
    rw [expands_rewritten_iff plain nested, mem_iff_of_map_flatten_eq_ok whole]
    refine exists_congr fun alt => and_congr_right fun member => ?_
    apply Iff.intro
    · rintro ⟨texts, expanded, known⟩
      exact ((each alt member).mem_iff texts expanded text).1 known
    · intro expands
      obtain ⟨texts, expanded⟩ := exists_map_flatten_eq_ok_iff.1 ⟨_, whole⟩ alt member
      exact ⟨texts, expanded, ((each alt member).mem_iff texts expanded text).2 expands⟩

/-- More rounds than there are groups lead to the right outcome. -/
theorem expandsTo_expandWithin {steps : Nat} (enough : pattern.count '\x7b' < steps)
    (classless : '[' ∉ pattern) : ExpandsTo pattern (expandWithin steps pattern) := by
  induction steps generalizing pattern with
  | zero => exact absurd enough (Nat.not_lt_zero _)
  | succ steps ih =>
      rw [expandWithin]
      rcases findGroup_cases classless with ⟨found, plain⟩ | ⟨⟨problem, failed⟩, unbalanced⟩ |
        ⟨before, inner, after, found, rfl, plain, nested⟩
      · rw [found]
        exact plain.expandsTo
      · rw [failed]
        exact ⟨iff_of_false (fun ⟨_, impossible⟩ => nomatch impossible) unbalanced,
          fun _ impossible => nomatch impossible⟩
      · rw [found]
        refine expandsTo_of_rewritten plain nested fun alt member => ih ?_ ?_
        · exact Nat.lt_of_lt_of_le (count_rewritten_lt member) (Nat.le_of_lt_succ enough)
        · exact fun bracket => classless (mem_of_mem_rewritten member bracket)

theorem expandsTo_expand (classless : '[' ∉ pattern) : ExpandsTo pattern (expand pattern) :=
  expandsTo_expandWithin (Nat.lt_succ_of_le List.count_le_length) classless

/-- A pattern is expanded to the texts that it stands for. -/
theorem mem_expand_iff (classless : '[' ∉ pattern) :
    (∃ texts, expand pattern = .ok texts ∧ text ∈ texts) ↔ Expands pattern text := by
  have right := expandsTo_expand classless
  apply Iff.intro
  · rintro ⟨texts, expanded, member⟩
    exact (right.mem_iff texts expanded text).1 member
  · intro expands
    obtain ⟨texts, expanded⟩ := right.exists_iff.2 expands.balanced
    exact ⟨texts, expanded, (right.mem_iff texts expanded text).2 expands⟩

end DnsReconcile.Pattern
