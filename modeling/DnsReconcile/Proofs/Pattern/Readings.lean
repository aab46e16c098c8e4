/-
# What patterns are read as

Said without rounds: a pattern without groups is read as its globs, and one with groups as whatever
it is read as with an alternative in place of its first group. It makes sense if all of that can be
read. Main statement: those are the patterns that are accepted, and they describe what one of their
readings describes.
-/

import DnsReconcile.Proofs.Pattern.Classes
import DnsReconcile.Proofs.Pattern.Expansion
import DnsReconcile.Proofs.Pattern.Gaps

namespace DnsReconcile

namespace Pattern

variable {pattern text before inner after : List Char} {globs : List Glob} {steps : Nat}

/-- A pattern can be read, whichever alternatives are put in place of its groups. -/
inductive MakesSense : List Char → Prop
  | text {pattern : List Char} {globs : List Glob} (groupless : findGroup false pattern = .ok none)
      (reads : globs? pattern = some globs) : MakesSense pattern
  | group {pattern before inner after : List Char}
      (found : findGroup false pattern = .ok (some (before, inner, after)))
      (each : ∀ alt ∈ alternatives 0 inner, MakesSense (before ++ alt ++ after)) :
      MakesSense pattern

/-- A pattern is read as these globs, with some alternatives in place of its groups. -/
inductive ReadsAs : List Char → List Glob → Prop
  | text {pattern : List Char} {globs : List Glob} (groupless : findGroup false pattern = .ok none)
      (reads : globs? pattern = some globs) : ReadsAs pattern globs
  | group {pattern before inner after alt : List Char} {globs : List Glob}
      (found : findGroup false pattern = .ok (some (before, inner, after)))
      (member : alt ∈ alternatives 0 inner) (reads : ReadsAs (before ++ alt ++ after) globs) :
      ReadsAs pattern globs

/-! ## By the first group -/

section Groupless

variable (groupless : findGroup false pattern = .ok none)
include groupless

theorem makesSense_text : MakesSense pattern ↔ ∃ globs, globs? pattern = some globs := by
  apply Iff.intro
  · intro sense
    cases sense with
    | text _ reads => exact ⟨_, reads⟩
    | group found => cases groupless.symm.trans found
  · rintro ⟨globs, reads⟩
    exact .text groupless reads

theorem readsAs_text : ReadsAs pattern globs ↔ globs? pattern = some globs := by
  apply Iff.intro
  · intro reads
    cases reads with
    | text _ reads => exact reads
    | group found => cases groupless.symm.trans found
  · exact .text groupless

end Groupless

section Group

variable (found : findGroup false pattern = .ok (some (before, inner, after)))
include found

theorem makesSense_group :
    MakesSense pattern ↔ ∀ alt ∈ alternatives 0 inner, MakesSense (before ++ alt ++ after) := by
  apply Iff.intro
  · intro sense
    cases sense with
    | text groupless => cases groupless.symm.trans found
    | group found' each =>
        cases found.symm.trans found'
        exact each
  · exact .group found

theorem readsAs_group :
    ReadsAs pattern globs ↔
      ∃ alt ∈ alternatives 0 inner, ReadsAs (before ++ alt ++ after) globs := by
  apply Iff.intro
  · intro reads
    cases reads with
    | text groupless => cases groupless.symm.trans found
    | group found' member reads =>
        cases found.symm.trans found'
        exact ⟨_, member, reads⟩
  · rintro ⟨alt, member, reads⟩
    exact .group found member reads

end Group

/-! ## By rounds -/

/-- An outcome of the expansion of a pattern has the same readings as the pattern. -/
structure ReadsLike (pattern : List Char) (outcome : Except BraceProblem (List (List Char))) :
    Prop where
  makesSense_iff : MakesSense pattern ↔
    ∃ texts, outcome = .ok texts ∧ ∀ text ∈ texts, ∃ globs, globs? text = some globs
  readsAs_iff : ∀ texts, outcome = .ok texts →
    ∀ globs, ReadsAs pattern globs ↔ ∃ text ∈ texts, globs? text = some globs

theorem readsLike_text (groupless : findGroup false pattern = .ok none) :
    ReadsLike pattern (.ok [pattern]) where
  makesSense_iff := by simp [makesSense_text groupless]
  readsAs_iff texts same globs := by
    rw [← Except.ok.inj same, readsAs_text groupless]
    simp

theorem readsLike_error {problem : BraceProblem}
    (failed : findGroup false pattern = .error problem) :
    ReadsLike pattern (.error problem) where
  makesSense_iff := by
    refine iff_of_false (fun sense => ?_) (fun ⟨_, impossible, _⟩ => nomatch impossible)
    cases sense with
    | text groupless => cases groupless.symm.trans failed
    | group found => cases found.symm.trans failed
  readsAs_iff := nofun

/-- If the outcomes have the readings with each alternative in place of the first group, all of them
together have those of the pattern. -/
theorem readsLike_group (found : findGroup false pattern = .ok (some (before, inner, after)))
    {outcome : List Char → Except BraceProblem (List (List Char))}
    (each : ∀ alt ∈ alternatives 0 inner, ReadsLike (before ++ alt ++ after) (outcome alt)) :
    ReadsLike pattern (((alternatives 0 inner).mapM outcome).map List.flatten) where
  makesSense_iff := by
    rw [makesSense_group found]
    apply Iff.intro
    · intro sense
      have expanded (alt) (member : alt ∈ alternatives 0 inner) :=
        (each alt member).makesSense_iff.1 (sense alt member)
      obtain ⟨texts, whole⟩ := exists_map_flatten_eq_ok_iff.2 fun alt member =>
        (expanded alt member).imp fun _ given => given.1
      refine ⟨texts, whole, fun text known => ?_⟩
      obtain ⟨alt, member, part, given, own⟩ := (mem_iff_of_map_flatten_eq_ok whole).1 known
      obtain ⟨part', given', reads⟩ := expanded alt member
      cases given.symm.trans given'
      exact reads text own
    · rintro ⟨texts, whole, reads⟩ alt member
      obtain ⟨part, given⟩ := exists_map_flatten_eq_ok_iff.1 ⟨texts, whole⟩ alt member
      refine (each alt member).makesSense_iff.2 ⟨part, given, fun text own => reads text ?_⟩
      exact (mem_iff_of_map_flatten_eq_ok whole).2 ⟨alt, member, part, given, own⟩
  readsAs_iff texts whole globs := by
    rw [readsAs_group found]
    simp only [mem_iff_of_map_flatten_eq_ok whole]
    apply Iff.intro
    · rintro ⟨alt, member, reads⟩
      obtain ⟨part, given⟩ := exists_map_flatten_eq_ok_iff.1 ⟨texts, whole⟩ alt member
      obtain ⟨text, own, reads⟩ := ((each alt member).readsAs_iff part given globs).1 reads
      exact ⟨text, ⟨alt, member, part, given, own⟩, reads⟩
    · rintro ⟨text, ⟨alt, member, part, given, own⟩, reads⟩
      exact ⟨alt, member, ((each alt member).readsAs_iff part given globs).2 ⟨text, own, reads⟩⟩

/-- More rounds than there are braces lead to the readings of a pattern. -/
theorem readsLike_expandWithin (enough : pattern.count '\x7b' < steps) :
    ReadsLike pattern (expandWithin steps pattern) := by
  induction steps generalizing pattern with
  | zero => exact absurd enough (Nat.not_lt_zero _)
  | succ steps ih =>
      rw [expandWithin]
      split
      · next problem failed => exact readsLike_error failed
      · next groupless => exact readsLike_text groupless
      · next before inner after found =>
          obtain ⟨rfl, -⟩ := findGroup_eq_some_iff.1 found
          exact readsLike_group found fun alt member =>
            ih (Nat.lt_of_lt_of_le (count_rewritten_lt member) (Nat.le_of_lt_succ enough))

theorem readsLike_expand (pattern : List Char) : ReadsLike pattern (expand pattern) :=
  readsLike_expandWithin (Nat.lt_succ_of_le List.count_le_length)

/-! ## Patterns -/

/-- Either there is an element that has no result, or the results are those of the elements. -/
theorem mapM_option_cases {α β : Type} (step? : α → Option β) (list : List α) :
    list.mapM step? = none ∧ (∃ x ∈ list, step? x = none) ∨
      ∃ results, list.mapM step? = some results ∧ (∀ x ∈ list, ∃ y, step? x = some y) ∧
        ∀ y, y ∈ results ↔ ∃ x ∈ list, step? x = some y := by
  induction list with
  | nil => exact Or.inr ⟨[], rfl, List.forall_mem_nil _, by simp⟩
  | cons x rest ih =>
      rw [List.mapM_cons]
      cases own : step? x with
      | none => exact Or.inl ⟨rfl, x, List.mem_cons_self, own⟩
      | some y =>
          rcases ih with ⟨failed, other, member, missing⟩ | ⟨results, made, each, known⟩
          · rw [failed]
            exact Or.inl ⟨rfl, other, List.mem_cons_of_mem _ member, missing⟩
          · rw [made]
            refine Or.inr ⟨y :: results, rfl, List.forall_mem_cons.2 ⟨⟨y, own⟩, each⟩, fun z => ?_⟩
            simp [known, own, eq_comm]

section Pattern

variable {pattern : String}

/-- A pattern that is read has the readings that are possible. -/
theorem read_cases (pattern : String) :
    (∃ problem, Pattern.read pattern = .error problem) ∧ ¬ MakesSense pattern.toList ∨
      ∃ choices, Pattern.read pattern = .ok ⟨choices⟩ ∧ MakesSense pattern.toList ∧
        ∀ globs, globs ∈ choices ↔ ReadsAs pattern.toList globs := by
  have readings := readsLike_expand pattern.toList
  unfold Pattern.read
  cases expanded : expand pattern.toList with
  | error problem =>
      refine Or.inl ⟨⟨_, rfl⟩, fun sense => ?_⟩
      obtain ⟨texts, impossible, -⟩ := readings.makesSense_iff.1 sense
      cases expanded.symm.trans impossible
  | ok texts =>
      rcases mapM_option_cases globs? texts with ⟨failed, text, member, missing⟩ |
        ⟨choices, made, each, known⟩
      · simp only [failed]
        refine Or.inl ⟨⟨_, rfl⟩, fun sense => ?_⟩
        obtain ⟨texts', given, reads⟩ := readings.makesSense_iff.1 sense
        cases expanded.symm.trans given
        obtain ⟨globs, present⟩ := reads text member
        cases missing.symm.trans present
      · simp only [made]
        refine Or.inr ⟨choices, rfl, readings.makesSense_iff.2 ⟨texts, expanded, each⟩,
          fun globs => ?_⟩
        rw [known, readings.readsAs_iff texts expanded]

/-- A pattern is accepted if it makes sense. -/
theorem check_eq_ok_iff_makesSense :
    LabelMatcher.glob.check pattern = .ok () ↔ MakesSense pattern.toList := by
  rcases read_cases pattern with ⟨⟨problem, failed⟩, senseless⟩ |
    ⟨choices, read, sense, -⟩
  · exact iff_of_false (by simp [LabelMatcher.glob, failed, Except.map]) senseless
  · exact iff_of_true (by simp [LabelMatcher.glob, read, Except.map]) sense

/-- A pattern that makes sense describes what one of its readings describes. -/
theorem covers_iff_readsAs (sense : MakesSense pattern.toList) {label : String} :
    LabelMatcher.glob.covers pattern label = true ↔
      ∃ globs, ReadsAs pattern.toList globs ∧ coversWithGaps globs (path label) = true := by
  rcases read_cases pattern with ⟨-, senseless⟩ | ⟨choices, read, -, known⟩
  · exact absurd sense senseless
  · simp [LabelMatcher.glob, read, covers, known]

end Pattern

end Pattern

end DnsReconcile
