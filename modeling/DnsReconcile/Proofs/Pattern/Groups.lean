/-
# Groups found and cut

Where patterns have no character classes, the search for the first outermost group finds it, or it
finds a brace without a partner; and a group is cut into just the alternatives it was joined from.
-/

import DnsReconcile.Proofs.Pattern.Classes

namespace DnsReconcile.Pattern

variable {c : Char} {text rest inner : List Char} {depth : Nat} {apart : Bool}

/-! ## Finding a group -/

/-- A text with nested groups has no braces, or a first group. -/
theorem Nested.cases_first (nested : Nested apart text) :
    Plain text ∨ ∃ before inner after, text = before ++ '\x7b' :: (inner ++ '\x7d' :: after) ∧
      Plain before ∧ Nested false inner := by
  induction nested with
  | nil => exact Or.inl (List.forall_mem_nil _)
  | @char apart c text unopened unclosed _ _ ih =>
      rcases ih with plain | ⟨before, inner, after, rfl, plain, inside⟩
      · exact Or.inl (List.forall_mem_cons.2 ⟨⟨unopened, unclosed⟩, plain⟩)
      · exact Or.inr ⟨c :: before, inner, after, rfl,
          List.forall_mem_cons.2 ⟨⟨unopened, unclosed⟩, plain⟩, inside⟩
  | @group apart inner text inside _ _ _ =>
      exact Or.inr ⟨[], inner, text, rfl, List.forall_mem_nil _, inside⟩

/-- The search for a group ends in one of three ways: there are no braces, there is a brace without
a partner, or the first group is found. -/
theorem findGroup_cases (classless : '[' ∉ text) :
    findGroup false text = .ok none ∧ Plain text ∨
      (∃ problem, findGroup false text = .error problem) ∧ ¬ Balanced text ∨
      ∃ before inner after, findGroup false text = .ok (some (before, inner, after)) ∧
        text = before ++ '\x7b' :: (inner ++ '\x7d' :: after) ∧ Plain before ∧
        Nested false inner := by
  have none_iff : findGroup false text = .ok none ↔ Plain text := by
    rw [findGroup_eq_none_iff, outline_of_classless classless]
  have some_iff (before inner after : List Char)
      (whole : text = before ++ '\x7b' :: (inner ++ '\x7d' :: after)) :
      findGroup false text = .ok (some (before, inner, after)) ↔
        Plain before ∧ Nested false inner := by
    rw [whole] at classless
    simp only [List.mem_append, List.mem_cons, not_or] at classless
    obtain ⟨front, -, inside, -⟩ := classless
    rw [findGroup_eq_some_iff, outline_of_classless front, outline_of_classless inside,
      endsInClass_of_classless front, endsInClass_of_classless inside, ← nested_iff_balanced]
    simp only [whole, true_and, and_true]
  cases found : findGroup false text with
  | error problem =>
      refine Or.inr (Or.inl ⟨⟨problem, rfl⟩, fun balanced => ?_⟩)
      rcases (nested_iff_balanced.2 balanced).cases_first with plain |
        ⟨before, inner, after, whole, plain, inside⟩
      · cases found.symm.trans (none_iff.2 plain)
      · cases found.symm.trans ((some_iff before inner after whole).2 ⟨plain, inside⟩)
  | ok division =>
      cases division with
      | none => exact Or.inl ⟨rfl, none_iff.1 found⟩
      | some parts =>
          obtain ⟨before, inner, after⟩ := parts
          have whole := (findGroup_eq_some_iff.1 found).1
          exact Or.inr (Or.inr ⟨before, inner, after, rfl, whole,
            (some_iff before inner after whole).1 found⟩)

/-! ## Cutting a group -/

/-- The alternatives of a group, as they stand between its braces. -/
def separated (alts : List (List Char)) : List Char :=
  [','].intercalate alts

theorem separated_singleton (alt : List Char) : separated [alt] = alt :=
  List.intercalate_singleton ..

theorem separated_cons_cons (alt next : List Char) (others : List (List Char)) :
    separated (alt :: next :: others) = alt ++ ',' :: separated (next :: others) := by
  rw [separated, List.intercalate_cons_cons, List.append_assoc]
  rfl

theorem sublist_separated {alt : List Char} {alts : List (List Char)} (member : alt ∈ alts) :
    alt.Sublist (separated alts) := by
  induction alts with
  | nil => exact absurd member List.not_mem_nil
  | cons first others ih =>
      cases others with
      | nil =>
          rw [separated_singleton, List.mem_singleton.1 member]
      | cons next others =>
          rw [separated_cons_cons]
          rcases List.mem_cons.1 member with rfl | later
          · exact List.sublist_append_left _ _
          · exact ((ih later).cons ',').trans (List.sublist_append_right _ _)

theorem nested_separated {alts : List (List Char)} (each : ∀ alt ∈ alts, Nested true alt) :
    Nested false (separated alts) := by
  induction alts with
  | nil => exact .nil
  | cons first others ih =>
      obtain ⟨own, each⟩ := List.forall_mem_cons.1 each
      cases others with
      | nil =>
          rw [separated_singleton, ← List.append_nil first]
          exact own.append .nil
      | cons next others =>
          rw [separated_cons_cons]
          exact own.append (.char (by decide) (by decide) (fun apart => nomatch apart) (ih each))

theorem foldr_consHead (text first : List Char) (others : List (List Char)) :
    text.foldr consHead (first :: others) = (text ++ first) :: others := by
  induction text with
  | nil => rfl
  | cons c text ih => rw [List.foldr_cons, ih, consHead, List.cons_append]

/-- A text is cut in front of its first alternative's comma, or not at all. -/
theorem alternatives_cases (depth : Nat) (text : List Char) :
    alternatives depth text = [text] ∨
      ∃ first others, text = first ++ ',' :: others ∧
        alternatives depth text = first :: alternatives 0 others := by
  induction text generalizing depth with
  | nil => exact Or.inl rfl
  | cons c text ih =>
      by_cases cut : c = ',' ∧ depth = 0
      · obtain ⟨rfl, rfl⟩ := cut
        exact Or.inr ⟨[], text, rfl, rfl⟩
      · rw [alternatives, if_neg cut]
        rcases ih _ with whole | ⟨first, others, rfl, parts⟩
        · rw [whole]
          exact Or.inl rfl
        · rw [parts]
          exact Or.inr ⟨c :: first, others, rfl, rfl⟩

/-- The parts are what a text is cut into at some of its commas. -/
inductive CutInto : (text : List Char) → (parts : List (List Char)) → Prop
  | whole {text : List Char} : CutInto text [text]
  | cut {first others : List Char} {parts : List (List Char)} (later : CutInto others parts) :
      CutInto (first ++ ',' :: others) (first :: parts)

theorem cutInto_alternatives (depth : Nat) (text : List Char) :
    CutInto text (alternatives depth text) := by
  induction length : text.length using Nat.strongRecOn generalizing text depth with
  | ind size ih =>
      subst length
      rcases alternatives_cases depth text with whole | ⟨first, others, rfl, parts⟩
      · rw [whole]
        exact .whole
      · rw [parts]
        refine .cut (ih others.length ?_ 0 others rfl)
        simp only [List.length_append, List.length_cons]
        omega

/-- What a text is cut into stands in it. -/
theorem CutInto.sublist {parts : List (List Char)} (cut : CutInto text parts) {part : List Char}
    (member : part ∈ parts) : part.Sublist text := by
  induction cut with
  | whole => rw [List.mem_singleton.1 member]
  | cut _ ih =>
      rcases List.mem_cons.1 member with rfl | later
      · exact List.sublist_append_left _ _
      · exact ((ih later).cons ',').trans (List.sublist_append_right _ _)

/-- A text ends with one of the parts it is cut into. -/
theorem CutInto.exists_suffix {parts : List (List Char)} (cut : CutInto text parts) :
    ∃ part ∈ parts, part <:+ text := by
  induction cut with
  | @whole text => exact ⟨text, List.mem_singleton_self text, List.suffix_refl text⟩
  | @cut first others parts _ ih =>
      obtain ⟨part, member, ends⟩ := ih
      exact ⟨part, List.mem_cons_of_mem _ member,
        ends.trans ((List.suffix_cons ',' others).trans (List.suffix_append first _))⟩

/-- A text is not cut inside of groups, and outside of them only if it may have commas there. -/
theorem alternatives_append (nested : Nested apart text) (outermost : depth = 0 → apart = true)
    (rest : List Char) :
    alternatives depth (text ++ rest) = text.foldr consHead (alternatives depth rest) := by
  induction nested generalizing depth rest with
  | nil => rfl
  | @char apart c text unopened unclosed undivided _ ih =>
      have whole : ¬ (c = ',' ∧ depth = 0) := fun cut => undivided (outermost cut.2) cut.1
      rw [List.cons_append, alternatives, if_neg whole, if_neg unopened, if_neg unclosed,
        ih outermost, List.foldr_cons]
  | @group apart inner text _ _ inside ih =>
      rw [List.cons_append, alternatives, if_neg (by simp), if_pos rfl, List.append_assoc,
        inside (fun impossible => absurd impossible (Nat.succ_ne_zero _)), List.cons_append,
        alternatives, if_neg (by simp), if_neg (by decide), if_pos rfl, Nat.succ_sub_one,
        ih outermost, List.foldr_cons, List.foldr_append, List.foldr_cons]

/-- A group is cut into the alternatives it was joined from. -/
theorem alternatives_separated {alts : List (List Char)} (present : alts ≠ [])
    (each : ∀ alt ∈ alts, Nested true alt) : alternatives 0 (separated alts) = alts := by
  induction alts with
  | nil => exact absurd rfl present
  | cons alt others ih =>
      obtain ⟨own, each⟩ := List.forall_mem_cons.1 each
      cases others with
      | nil =>
          have whole := alternatives_append own (fun _ : 0 = 0 => rfl) []
          rw [List.append_nil, alternatives, foldr_consHead, List.append_nil] at whole
          rw [separated_singleton, whole]
      | cons next others =>
          rw [separated_cons_cons, alternatives_append own fun _ => rfl, alternatives,
            if_pos ⟨rfl, rfl⟩, foldr_consHead, List.append_nil, ih (List.cons_ne_nil _ _) each]

theorem separated_cons_append (text alt : List Char) (others : List (List Char)) :
    separated ((text ++ alt) :: others) = text ++ separated (alt :: others) := by
  cases others with
  | nil => rw [separated_singleton, separated_singleton]
  | cons next others => rw [separated_cons_cons, separated_cons_cons, List.append_assoc]

/-- The inside of a group is joined from the alternatives it is cut into, and each of them is a text
with nested groups that has no comma outside. -/
theorem Nested.alternatives (nested : Nested apart text) :
    alternatives 0 text ≠ [] ∧ (∀ alt ∈ alternatives 0 text, Nested true alt) ∧
      separated (alternatives 0 text) = text := by
  have joins : ∃ alt others, (∀ part ∈ alt :: others, Nested true part) ∧
      separated (alt :: others) = text := by
    induction nested with
    | nil => exact ⟨[], [], List.forall_mem_singleton.2 .nil, rfl⟩
    | @char apart c text unopened unclosed _ _ ih =>
        obtain ⟨alt, others, each, rfl⟩ := ih
        by_cases comma : c = ','
        · subst comma
          exact ⟨[], alt :: others, List.forall_mem_cons.2 ⟨.nil, each⟩,
            separated_cons_cons [] alt others⟩
        · obtain ⟨own, each⟩ := List.forall_mem_cons.1 each
          exact ⟨c :: alt, others,
            List.forall_mem_cons.2 ⟨.char unopened unclosed (fun _ => comma) own, each⟩,
            separated_cons_append [c] alt others⟩
    | @group apart inner text inside _ _ ih =>
        obtain ⟨alt, others, each, rfl⟩ := ih
        obtain ⟨own, each⟩ := List.forall_mem_cons.1 each
        have whole := separated_cons_append ('\x7b' :: (inner ++ ['\x7d'])) alt others
        simp only [List.cons_append, List.append_assoc, List.nil_append] at whole
        exact ⟨_, others, List.forall_mem_cons.2 ⟨.group inside own, each⟩, whole⟩
  obtain ⟨alt, others, each, rfl⟩ := joins
  rw [alternatives_separated (List.cons_ne_nil _ _) each]
  exact ⟨List.cons_ne_nil _ _, each, rfl⟩

end DnsReconcile.Pattern
