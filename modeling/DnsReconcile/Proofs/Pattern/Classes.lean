/-
# Groups around classes

A brace in a character class is an ordinary character to those who look for groups. What they see
of a text is its outline, which has blanks in place of the braces and commas in classes. Said with
it, where a group ends and which group is the first one.
-/

import DnsReconcile.Proofs.Pattern.Nesting
import DnsReconcile.Proofs.Refusals

namespace DnsReconcile.Pattern

variable {c : Char} {text rest front back before inner after : List Char} {inClass : Bool}
variable {depth : Nat}

theorem classAfter_of_ne (other : c ≠ '[') : classAfter false c = false := by
  simp [classAfter, other]

/-- Whether a text ends in a character class. -/
def endsInClass (inClass : Bool) (text : List Char) : Bool :=
  text.foldl classAfter inClass

@[simp] theorem endsInClass_nil : endsInClass inClass [] = inClass := rfl

@[simp] theorem endsInClass_cons :
    endsInClass inClass (c :: text) = endsInClass (classAfter inClass c) text := rfl

@[simp] theorem endsInClass_append :
    endsInClass inClass (front ++ back) = endsInClass (endsInClass inClass front) back :=
  List.foldl_append

/-- A character as those see it who look for groups and their alternatives. -/
def seen (inClass : Bool) (c : Char) : Char :=
  if inClass ∧ c ∈ ['\x7b', '\x7d', ','] then ' ' else c

@[simp] theorem seen_outside : seen false c = c :=
  if_neg (fun inside => nomatch inside.1)

/-- A text as those see it who look for groups and their alternatives: with blanks in place of the
braces and commas in classes. -/
def outline (inClass : Bool) : List Char → List Char
  | [] => []
  | c :: rest => seen inClass c :: outline (classAfter inClass c) rest

@[simp] theorem outline_nil : outline inClass [] = [] := rfl

@[simp] theorem outline_cons :
    outline inClass (c :: text) = seen inClass c :: outline (classAfter inClass c) text := rfl

@[simp] theorem outline_append :
    outline inClass (front ++ back) =
      outline inClass front ++ outline (endsInClass inClass front) back := by
  induction front generalizing inClass with
  | nil => rfl
  | cons c front ih => simp [ih]

/-- What is seen as a brace or a comma is one, outside of classes. -/
theorem seen_eq_iff {mark : Char} (marks : mark ∈ ['\x7b', '\x7d', ',']) :
    seen inClass c = mark ↔ inClass = false ∧ c = mark := by
  have blank : ' ' ∉ ['\x7b', '\x7d', ','] := by decide
  cases inClass with
  | false => simp
  | true =>
      apply iff_of_false
      · intro same
        unfold seen at same
        split at same
        · exact blank (same ▸ marks)
        · next other => exact other ⟨rfl, same ▸ marks⟩
      · exact fun inside => nomatch inside.1

theorem outline_of_classless (classless : '[' ∉ text) : outline false text = text := by
  induction text with
  | nil => rfl
  | cons c text ih =>
      rw [outline_cons, classAfter_of_ne (List.ne_of_not_mem_cons classless).symm,
        ih (List.not_mem_of_not_mem_cons classless), seen_outside]

theorem endsInClass_of_classless (classless : '[' ∉ text) : endsInClass false text = false := by
  induction text with
  | nil => rfl
  | cons c text ih =>
      rw [endsInClass_cons, classAfter_of_ne (List.ne_of_not_mem_cons classless).symm]
      exact ih (List.not_mem_of_not_mem_cons classless)

/-! ## The end of a group -/

theorem map_consFirst_eq_ok_iff {β : Type} {outcome : Except BraceProblem (List Char × β)}
    {first : List Char} {other : β} :
    outcome.map (consFirst c) = .ok (first, other) ↔
      ∃ others, first = c :: others ∧ outcome = .ok (others, other) := by
  rw [map_eq_ok_iff]
  apply Iff.intro
  · rintro ⟨⟨others, other⟩, given, same⟩
    cases same
    exact ⟨others, rfl, given⟩
  · rintro ⟨others, rfl, given⟩
    exact ⟨_, given, rfl⟩

theorem closeGroup_cons (inside : ¬ (seen inClass c = '\x7d' ∧ depth = 0)) :
    closeGroup inClass depth (c :: text) =
      (closeGroup (classAfter inClass c) (depthAfter depth (seen inClass c)) text).map
        (consFirst c) := by
  cases inClass with
  | true =>
      have plain (mark : Char) (marks : mark ∈ ['\x7b', '\x7d', ',']) : seen true c ≠ mark :=
        fun same => nomatch ((seen_eq_iff marks).1 same).1
      rw [depthAfter, if_neg (plain _ (by decide)), if_neg (plain _ (by decide))]
      rfl
  | false =>
      rw [seen_outside] at inside ⊢
      by_cases opens : c = '\x7b'
      · subst opens
        rfl
      · by_cases ends : c = '\x7d'
        · subst ends
          cases depth with
          | zero => exact absurd ⟨rfl, rfl⟩ inside
          | succ depth => rfl
        · simp [closeGroup, depthAfter, opens, ends]

/-- A group that is open ends at the brace up to which the groups inside are closed. -/
theorem closeGroup_eq_ok_iff :
    closeGroup inClass depth text = .ok (inner, rest) ↔
      text = inner ++ '\x7d' :: rest ∧ Closes depth (outline inClass inner) ∧
        endsInClass inClass inner = false := by
  induction text generalizing inClass depth inner with
  | nil => simp [closeGroup]
  | cons c text ih =>
      by_cases ends : seen inClass c = '\x7d' ∧ depth = 0
      · obtain ⟨brace, rfl⟩ := ends
        obtain ⟨rfl, rfl⟩ := (seen_eq_iff (by decide)).1 brace
        have found : closeGroup false 0 ('\x7d' :: text) = .ok ([], text) := rfl
        rw [found]
        cases inner with
        | nil => simp [closes_nil]
        | cons d inner =>
            apply iff_of_false
            · simp
            · rintro ⟨same, closes, -⟩
              obtain ⟨rfl, -⟩ := List.cons.inj same
              exact not_balanced_close closes
      · rw [closeGroup_cons ends, map_consFirst_eq_ok_iff]
        simp only [ih]
        cases inner with
        | nil =>
            apply iff_of_false
            · exact fun ⟨_, impossible, _⟩ => nomatch impossible
            · rintro ⟨same, closes, outside⟩
              obtain ⟨rfl, -⟩ := List.cons.inj same
              exact ends ⟨(seen_eq_iff (by decide)).2 ⟨outside, rfl⟩, closes_nil.1 closes⟩
        | cons d inner =>
            have fits : seen inClass c = '\x7d' → 0 < depth :=
              fun brace => Nat.pos_of_ne_zero fun outermost => ends ⟨brace, outermost⟩
            simp only [List.cons_append, List.cons.injEq, outline_cons, endsInClass_cons,
              closes_cons_iff]
            apply Iff.intro
            · rintro ⟨_, ⟨rfl, rfl⟩, rfl, closes, outside⟩
              exact ⟨⟨rfl, rfl⟩, ⟨fits, closes⟩, outside⟩
            · rintro ⟨⟨rfl, rfl⟩, ⟨-, closes⟩, outside⟩
              exact ⟨_, ⟨rfl, rfl⟩, rfl, closes, outside⟩

/-! ## The first group -/

theorem findGroup_open : findGroup false ('\x7b' :: text) =
    (closeGroup false 0 text).map fun parts => some ([], parts) := rfl

theorem findGroup_cons (unopened : seen inClass c ≠ '\x7b') (unclosed : seen inClass c ≠ '\x7d') :
    findGroup inClass (c :: text) =
      (findGroup (classAfter inClass c) text).map (Option.map (consFirst c)) := by
  cases inClass with
  | true => rfl
  | false =>
      rw [seen_outside] at unopened unclosed
      simp [findGroup, unopened, unclosed]

theorem map_map_consFirst_eq_ok_iff {β : Type} {first : List Char} {other : β}
    {outcome : Except BraceProblem (Option (List Char × β))} :
    outcome.map (Option.map (consFirst c)) = .ok (some (first, other)) ↔
      ∃ others, first = c :: others ∧ outcome = .ok (some (others, other)) := by
  rw [map_eq_ok_iff]
  simp only [Option.map_eq_some_iff]
  apply Iff.intro
  · rintro ⟨-, given, ⟨others, other⟩, rfl, same⟩
    cases same
    exact ⟨others, rfl, given⟩
  · rintro ⟨others, rfl, given⟩
    exact ⟨_, given, _, rfl, rfl⟩

/-- There is no group if no brace is seen. -/
theorem findGroup_eq_none_iff :
    findGroup inClass text = .ok none ↔ Plain (outline inClass text) := by
  induction text generalizing inClass with
  | nil => exact iff_of_true rfl (List.forall_mem_nil _)
  | cons c text ih =>
      rw [outline_cons, Plain, List.forall_mem_cons]
      by_cases opens : seen inClass c = '\x7b'
      · obtain ⟨rfl, rfl⟩ := (seen_eq_iff (by decide)).1 opens
        refine iff_of_false (fun none => ?_) (fun plain => plain.1.1 opens)
        rw [findGroup_open, map_eq_ok_iff] at none
        obtain ⟨_, -, impossible⟩ := none
        exact nomatch impossible
      · by_cases ends : seen inClass c = '\x7d'
        · obtain ⟨rfl, rfl⟩ := (seen_eq_iff (by decide)).1 ends
          exact iff_of_false nofun (fun plain => plain.1.2 ends)
        · rw [findGroup_cons opens ends, map_eq_ok_iff]
          simp only [Option.map_eq_none_iff, exists_eq_right, ih]
          exact (and_iff_right ⟨opens, ends⟩).symm

/-- The first group is found around what stands in it. -/
theorem findGroup_eq_some_iff :
    findGroup inClass text = .ok (some (before, inner, after)) ↔
      text = before ++ '\x7b' :: (inner ++ '\x7d' :: after) ∧ Plain (outline inClass before) ∧
        endsInClass inClass before = false ∧ Balanced (outline false inner) ∧
        endsInClass false inner = false := by
  induction text generalizing inClass before with
  | nil => simp [findGroup]
  | cons c text ih =>
      by_cases opens : seen inClass c = '\x7b'
      · obtain ⟨rfl, rfl⟩ := (seen_eq_iff (by decide)).1 opens
        rw [findGroup_open, map_eq_ok_iff]
        cases before with
        | nil =>
            simp [closeGroup_eq_ok_iff, Plain]
        | cons d before =>
            apply iff_of_false
            · rintro ⟨_, -, same⟩
              simp at same
            · rintro ⟨same, plain, -⟩
              obtain ⟨rfl, -⟩ := List.cons.inj same
              exact (plain _ List.mem_cons_self).1 rfl
      · by_cases ends : seen inClass c = '\x7d'
        · obtain ⟨rfl, rfl⟩ := (seen_eq_iff (by decide)).1 ends
          refine iff_of_false nofun ?_
          rintro ⟨same, plain, -⟩
          cases before with
          | nil => simp at same
          | cons d before =>
              obtain ⟨rfl, -⟩ := List.cons.inj same
              exact (plain _ List.mem_cons_self).2 rfl
        · rw [findGroup_cons opens ends, map_map_consFirst_eq_ok_iff]
          simp only [ih]
          cases before with
          | nil =>
              apply iff_of_false
              · exact fun ⟨_, impossible, _⟩ => nomatch impossible
              · rintro ⟨same, -, outside, -⟩
                obtain ⟨rfl, -⟩ := List.cons.inj same
                exact opens ((seen_eq_iff (by decide)).2 ⟨outside, rfl⟩)
          | cons d before =>
              simp only [List.cons_append, List.cons.injEq, outline_cons, endsInClass_cons, Plain,
                List.forall_mem_cons]
              apply Iff.intro
              · rintro ⟨_, ⟨rfl, rfl⟩, rfl, plain, outside⟩
                exact ⟨⟨rfl, rfl⟩, ⟨⟨opens, ends⟩, plain⟩, outside⟩
              · rintro ⟨⟨rfl, rfl⟩, ⟨-, plain⟩, outside⟩
                exact ⟨_, ⟨rfl, rfl⟩, rfl, plain, outside⟩

end DnsReconcile.Pattern
