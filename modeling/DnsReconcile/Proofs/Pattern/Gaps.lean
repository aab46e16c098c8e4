/-
# Globs with gaps between them

When a sequence of globs describes a text with gaps, read off the first token of the first glob:
what that token takes from the front of the text, and that the rest describes the rest.
-/

import DnsReconcile.Pattern.Basic

namespace DnsReconcile.Pattern

variable {glob : Glob} {globs : List Glob} {text : List Char}

theorem mem_cuts {parts : List Char × List Char} :
    parts ∈ cuts text ↔ text = parts.1 ++ parts.2 := by
  induction text generalizing parts with
  | nil =>
      obtain ⟨front, back⟩ := parts
      simp [cuts]
  | cons c text ih =>
      obtain ⟨front, back⟩ := parts
      simp only [cuts, List.mem_cons, List.mem_map, ih, Prod.exists, Prod.mk.injEq,
        List.cons_eq_append_iff]
      apply or_congr_right
      apply Iff.intro
      · rintro ⟨front, -, rfl, rfl, rfl⟩
        exact ⟨front, rfl, rfl⟩
      · rintro ⟨front, rfl, rfl⟩
        exact ⟨front, back, rfl, rfl, rfl⟩

theorem afterRun_iff {goal : List Char → Bool} :
    afterRun goal text = true ↔
      ∃ run back, text = run ++ back ∧ separator ∉ run ∧ goal back = true := by
  induction text with
  | nil =>
      simp only [afterRun, List.nil_eq_append_iff]
      apply Iff.intro
      · exact fun reached => ⟨[], [], ⟨rfl, rfl⟩, List.not_mem_nil, reached⟩
      · rintro ⟨-, -, ⟨rfl, rfl⟩, -, reached⟩
        exact reached
  | cons c text ih =>
      simp only [afterRun, Bool.or_eq_true, Bool.and_eq_true, bne_iff_ne, ih,
        List.cons_eq_append_iff]
      apply Iff.intro
      · rintro (reached | ⟨own, run, back, rfl, within, reached⟩)
        · exact ⟨[], c :: text, Or.inl ⟨rfl, rfl⟩, List.not_mem_nil, reached⟩
        · refine ⟨c :: run, back, Or.inr ⟨run, rfl, rfl⟩, ?_, reached⟩
          exact List.not_mem_cons_of_ne_of_not_mem own.symm within
      · rintro ⟨-, back, ⟨rfl, rfl⟩ | ⟨run, rfl, rfl⟩, within, reached⟩
        · exact Or.inl reached
        · exact Or.inr ⟨(List.ne_of_not_mem_cons within).symm, run, back, rfl,
            List.not_mem_of_not_mem_cons within, reached⟩

/-! ## By the first glob -/

/-- The globs describe what is left behind another one: nothing, if there are none, and otherwise
what comes behind a gap. -/
def DescribesRest : List Glob → List Char → Prop
  | [], text => text = []
  | next :: others, text =>
      ∃ gap back, text = gap ++ back ∧ coversWithGaps (next :: others) back = true

theorem describesRest_iff (present : globs ≠ []) :
    DescribesRest globs text ↔
      ∃ gap back, text = gap ++ back ∧ coversWithGaps globs back = true := by
  cases globs with
  | nil => exact absurd rfl present
  | cons next others => rfl

theorem coversWithGaps_cons_iff :
    coversWithGaps (glob :: globs) text = true ↔
      ∃ front back, text = front ++ back ∧ glob.covers front = true ∧ DescribesRest globs back := by
  cases globs with
  | nil => simp [coversWithGaps, DescribesRest]
  | cons next others =>
      simp only [coversWithGaps, List.any_eq_true, Bool.and_eq_true, mem_cuts, DescribesRest,
        Prod.exists]

/-! ## By the first token -/

theorem coversWithGaps_empty_iff : coversWithGaps [[]] text = true ↔ text = [] := by
  simp [coversWithGaps, Glob.covers]

theorem coversWithGaps_gap_iff {next : Glob} :
    coversWithGaps ([] :: next :: globs) text = true ↔
      ∃ gap back, text = gap ++ back ∧ coversWithGaps (next :: globs) back = true := by
  simp only [@coversWithGaps_cons_iff [], Glob.covers, List.isEmpty_iff, DescribesRest]
  apply Iff.intro
  · rintro ⟨-, -, rfl, rfl, gap, back, rfl, behind⟩
    exact ⟨gap, back, rfl, behind⟩
  · rintro ⟨gap, back, rfl, behind⟩
    exact ⟨[], gap ++ back, rfl, rfl, gap, back, rfl, behind⟩

/-- Unlike a run of characters, a token takes one character. -/
theorem coversWithGaps_token_iff {token : Token} (single : token ≠ .anyRun) :
    coversWithGaps ((token :: glob) :: globs) text = true ↔
      ∃ c back, text = c :: back ∧ token.covers c = true ∧
        coversWithGaps (glob :: globs) back = true := by
  have taken (front : List Char) : Glob.covers (token :: glob) front = true ↔
      ∃ c rest, front = c :: rest ∧ token.covers c = true ∧ Glob.covers glob rest = true := by
    cases front with
    | nil => simp [Glob.covers]
    | cons d front =>
        simp only [Glob.covers, Bool.and_eq_true, List.cons.injEq]
        apply Iff.intro
        · exact fun described => ⟨d, front, ⟨rfl, rfl⟩, described⟩
        · rintro ⟨c, rest, ⟨rfl, rfl⟩, described⟩
          exact described
  simp only [coversWithGaps_cons_iff, taken]
  apply Iff.intro
  · rintro ⟨-, back, rfl, ⟨c, front, rfl, own, within⟩, behind⟩
    exact ⟨c, front ++ back, rfl, own, front, back, rfl, within, behind⟩
  · rintro ⟨c, -, rfl, own, front, back, rfl, within, behind⟩
    exact ⟨c :: front, back, rfl, ⟨c, front, rfl, own, within⟩, behind⟩

theorem coversWithGaps_anyRun_iff :
    coversWithGaps ((.anyRun :: glob) :: globs) text = true ↔
      ∃ run back, text = run ++ back ∧ separator ∉ run ∧
        coversWithGaps (glob :: globs) back = true := by
  simp only [coversWithGaps_cons_iff, Glob.covers, afterRun_iff]
  apply Iff.intro
  · rintro ⟨-, back, rfl, ⟨run, front, rfl, within, own⟩, behind⟩
    exact ⟨run, front ++ back, List.append_assoc .., within, front, back, rfl, own, behind⟩
  · rintro ⟨run, -, rfl, within, front, back, rfl, own, behind⟩
    exact ⟨run ++ front, back, (List.append_assoc ..).symm, ⟨run, front, rfl, within, own⟩, behind⟩

end DnsReconcile.Pattern
