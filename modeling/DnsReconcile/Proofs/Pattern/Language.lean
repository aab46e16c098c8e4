/-
# The language of a pattern

Which labels a pattern describes, said without reference to how it is matched: a label belongs to
one of the texts the pattern stands for, and in such a text two or more stars take any characters,
one star takes characters up to a dot, a question mark takes one character but no dot, and any other
character takes itself, in either case if it is an ASCII letter. Main statement: a pattern without
character classes makes sense if its braces are balanced, and it then describes the labels of its
language and no others.
-/

import DnsReconcile.Proofs.Pattern.Expansion
import DnsReconcile.Proofs.Pattern.Gaps
import DnsReconcile.Proofs.Text.AsciiCase

namespace DnsReconcile

namespace Pattern

open Text

variable {c : Char} {text rest label : List Char}

/-- The characters behind those stars that a text begins with. -/
def behindStars (text : List Char) : List Char :=
  text.dropWhile (· == '*')

/-- The label belongs to a text without groups. -/
inductive Describes : (text label : List Char) → Prop
  | nil : Describes [] []
  | stars {rest gap label : List Char} (tail : Describes (behindStars rest) label) :
      Describes ('*' :: '*' :: rest) (gap ++ label)
  | star {rest run label : List Char} (lone : rest.head? ≠ some '*') (within : '.' ∉ run)
      (tail : Describes rest label) : Describes ('*' :: rest) (run ++ label)
  | any {c : Char} {rest label : List Char} (within : c ≠ '.') (tail : Describes rest label) :
      Describes ('?' :: rest) (c :: label)
  | char {c d : Char} {rest label : List Char} (starless : c ≠ '*') (definite : c ≠ '?')
      (same : asciiLowerChar d = asciiLowerChar c) (tail : Describes rest label) :
      Describes (c :: rest) (d :: label)

/-! ## By the first character -/

theorem describes_nil : Describes [] label ↔ label = [] := by
  refine ⟨fun describes => ?_, ?_⟩
  · cases describes
    rfl
  · rintro rfl
    exact .nil

theorem describes_stars :
    Describes ('*' :: '*' :: rest) label ↔
      ∃ gap tail, label = gap ++ tail ∧ Describes (behindStars rest) tail := by
  apply Iff.intro
  · intro describes
    cases describes with
    | stars tail => exact ⟨_, _, rfl, tail⟩
    | star lone => exact absurd rfl lone
    | char starless => exact absurd rfl starless
  · rintro ⟨gap, tail, rfl, describes⟩
    exact .stars describes

theorem describes_star (lone : rest.head? ≠ some '*') :
    Describes ('*' :: rest) label ↔
      ∃ run tail, label = run ++ tail ∧ '.' ∉ run ∧ Describes rest tail := by
  apply Iff.intro
  · intro describes
    cases describes with
    | stars => exact absurd rfl lone
    | star _ within tail => exact ⟨_, _, rfl, within, tail⟩
    | char starless => exact absurd rfl starless
  · rintro ⟨run, tail, rfl, within, describes⟩
    exact .star lone within describes

theorem describes_any :
    Describes ('?' :: rest) label ↔
      ∃ c tail, label = c :: tail ∧ c ≠ '.' ∧ Describes rest tail := by
  apply Iff.intro
  · intro describes
    cases describes with
    | any within tail => exact ⟨_, _, rfl, within, tail⟩
    | char _ definite => exact absurd rfl definite
  · rintro ⟨c, tail, rfl, within, describes⟩
    exact .any within describes

theorem describes_char (starless : c ≠ '*') (definite : c ≠ '?') :
    Describes (c :: rest) label ↔
      ∃ d tail, label = d :: tail ∧ asciiLowerChar d = asciiLowerChar c ∧ Describes rest tail := by
  apply Iff.intro
  · intro describes
    cases describes with
    | stars => exact absurd rfl starless
    | star => exact absurd rfl starless
    | any => exact absurd rfl definite
    | char _ _ same tail => exact ⟨_, _, rfl, same, tail⟩
  · rintro ⟨d, tail, rfl, same, describes⟩
    exact .char starless definite same describes

/-! ## Globs of a text -/

/-- The part of a glob that a character is. -/
def tokenOf (c : Char) : Token :=
  if c = '.' then .literal separator
  else if c = '?' then .anyChar
  else if c = '*' then .anyRun
  else .literal c

/-- The globs of a text without groups and classes. -/
def globsOf (text : List Char) : List Glob :=
  (divide false false text).map (List.map tokenOf)

theorem read?_slashed (classless : '[' ∉ text) :
    Glob.read? (slashed false text) = some (text.map tokenOf) := by
  rw [Glob.read?]
  induction text with
  | nil => rfl
  | cons c text ih =>
      have own : c ≠ '[' := (List.ne_of_not_mem_cons classless).symm
      rw [slashed, classAfter_of_ne own]
      by_cases dot : c = '.'
      · subst dot
        simp [Glob.readFrom?, ih (List.not_mem_of_not_mem_cons classless), tokenOf, separator]
      · simp [Glob.readFrom?, ih (List.not_mem_of_not_mem_cons classless), tokenOf, own, dot]

theorem mem_of_mem_consHead {c d : Char} {piece : List Char} {pieces : List (List Char)}
    (part : piece ∈ consHead d pieces) (member : c ∈ piece) :
    c = d ∨ ∃ other ∈ pieces, c ∈ other := by
  cases pieces with
  | nil =>
      rw [consHead, List.mem_singleton] at part
      subst part
      exact Or.inl (List.mem_singleton.1 member)
  | cons first others =>
      rcases List.mem_cons.1 part with rfl | later
      · exact (List.mem_cons.1 member).imp_right fun own => ⟨first, List.mem_cons_self, own⟩
      · exact Or.inr ⟨piece, List.mem_cons_of_mem _ later, member⟩

/-- Division adds no characters. -/
theorem mem_of_mem_divide {skipStars inClass : Bool} {piece : List Char}
    (part : piece ∈ divide skipStars inClass text) (member : c ∈ piece) : c ∈ text := by
  fun_induction divide skipStars inClass text generalizing piece with
  | case1 =>
      rw [List.mem_singleton.1 part] at member
      exact member
  | case2 skipStars inClass d rest stars ih => exact List.mem_cons_of_mem _ (ih part member)
  | case3 skipStars inClass d rest _ gap ih =>
      rcases List.mem_cons.1 part with rfl | later
      · exact absurd member List.not_mem_nil
      · exact List.mem_cons_of_mem _ (ih later member)
  | case4 skipStars inClass d rest _ _ ih =>
      rcases mem_of_mem_consHead part member with rfl | ⟨other, known, within⟩
      · exact List.mem_cons_self
      · exact List.mem_cons_of_mem _ (ih known within)

theorem mapM_eq_some_map {α β : Type} {read? : α → Option β} {read : α → β} {list : List α}
    (each : ∀ x ∈ list, read? x = some (read x)) : list.mapM read? = some (list.map read) := by
  induction list with
  | nil => rfl
  | cons x rest ih =>
      obtain ⟨own, others⟩ := List.forall_mem_cons.1 each
      rw [List.mapM_cons, own, ih others]
      rfl

theorem globs?_eq (classless : '[' ∉ text) : globs? text = some (globsOf text) :=
  mapM_eq_some_map fun _ part =>
    read?_slashed fun bracket => classless (mem_of_mem_divide part bracket)

/-! ## Division at stars -/

theorem divide_skipping (text : List Char) :
    divide true false text = divide false false (behindStars text) := by
  induction text with
  | nil => rfl
  | cons c text ih =>
      by_cases star : c = '*'
      · subst star
        exact ih
      · have front : behindStars (c :: text) = c :: text :=
          List.dropWhile_cons_of_neg (by simpa using star)
        rw [front]
        simp [divide, star]

theorem globsOf_stars (rest : List Char) :
    globsOf ('*' :: '*' :: rest) = [] :: globsOf (behindStars rest) := by
  rw [globsOf, globsOf, ← divide_skipping]
  rfl

theorem divide_ne_nil (skipStars inClass : Bool) (text : List Char) :
    divide skipStars inClass text ≠ [] := by
  fun_induction divide skipStars inClass text with
  | case1 => exact List.cons_ne_nil _ _
  | case2 _ _ _ _ _ ih => exact ih
  | case3 => exact List.cons_ne_nil _ _
  | case4 skipStars inClass d rest =>
      cases divide false (classAfter inClass d) rest <;> exact List.cons_ne_nil _ _

theorem exists_globsOf_cons (other : c ≠ '[') (lone : c = '*' → rest.head? ≠ some '*') :
    ∃ glob globs, globsOf rest = glob :: globs ∧
      globsOf (c :: rest) = (tokenOf c :: glob) :: globs := by
  have whole : divide false false (c :: rest) = consHead c (divide false false rest) := by
    rw [divide, if_neg (fun skip => Bool.false_ne_true skip.2),
      if_neg (fun gap => lone gap.1 gap.2.2), classAfter_of_ne other]
  rw [globsOf, globsOf, whole]
  cases pieces : divide false false rest with
  | nil => exact absurd pieces (divide_ne_nil _ _ _)
  | cons piece pieces => exact ⟨_, _, rfl, rfl⟩

/-! ## Labels -/

/-- A character of a label as globs see it. -/
def slash (c : Char) : Char :=
  if c = '.' then separator else c

theorem slash_eq_separator_iff (slashless : c ≠ separator) : slash c = separator ↔ c = '.' := by
  simp only [slash]
  split
  · next dot => exact iff_of_true rfl dot
  · next other => exact iff_of_false slashless other

theorem separator_mem_map_slash_iff (slashless : separator ∉ text) :
    separator ∈ text.map slash ↔ '.' ∈ text := by
  rw [List.mem_map]
  apply Iff.intro
  · rintro ⟨c, member, same⟩
    have own : c ≠ separator := fun bracket => slashless (bracket ▸ member)
    exact (slash_eq_separator_iff own).1 same ▸ member
  · exact fun member => ⟨'.', member, rfl⟩

theorem asciiLowerChar_eq_separator_iff : asciiLowerChar c = separator ↔ c = separator := by
  have letters :
      (asciiCapitals.all fun c => asciiLowerChar c != separator && c != separator) = true := by
    decide
  rcases asciiLowerChar_eq_self_or c with same | capital
  · rw [same]
  · have own := List.all_eq_true.1 letters c capital
    simp only [Bool.and_eq_true, bne_iff_ne] at own
    exact iff_of_false own.1 own.2

theorem asciiLowerChar_dot : asciiLowerChar '.' = '.' := by decide

theorem asciiLowerChar_separator : asciiLowerChar separator = separator := by decide

/-- A character that is no wildcard takes itself in a label, in either case. -/
theorem covers_tokenOf_iff {d : Char} (starless : c ≠ '*') (definite : c ≠ '?')
    (slashless : c ≠ separator) (label_slashless : d ≠ separator) :
    (tokenOf c).covers (slash d) = true ↔ asciiLowerChar d = asciiLowerChar c := by
  by_cases dot : c = '.'
  · subst dot
    rw [asciiLowerChar_dot, asciiLowerChar_eq_dot_iff, ← slash_eq_separator_iff label_slashless,
      ← asciiLowerChar_eq_separator_iff, ← asciiLowerChar_separator]
    exact beq_iff_eq
  · simp only [tokenOf, if_neg dot, if_neg definite, if_neg starless, Token.covers, beq_iff_eq]
    by_cases label_dot : d = '.'
    · subst label_dot
      rw [slash, if_pos rfl, asciiLowerChar_separator, asciiLowerChar_dot, eq_comm,
        asciiLowerChar_eq_separator_iff, @eq_comm _ '.', asciiLowerChar_eq_dot_iff]
      exact iff_of_false slashless dot
    · rw [slash, if_neg label_dot]

section Step

variable {glob : Glob} {globs : List Glob}

theorem coversWithGaps_stars_iff (slashless : separator ∉ label)
    (ih : ∀ label, separator ∉ label →
      (coversWithGaps (glob :: globs) (label.map slash) = true ↔
        Describes (behindStars rest) label)) :
    coversWithGaps ([] :: glob :: globs) (label.map slash) = true ↔
      Describes ('*' :: '*' :: rest) label := by
  rw [coversWithGaps_gap_iff, describes_stars]
  apply Iff.intro
  · rintro ⟨front, back, whole, behind⟩
    obtain ⟨gap, tail, rfl, rfl, rfl⟩ := List.map_eq_append_iff.1 whole
    exact ⟨gap, tail, rfl,
      (ih tail fun bracket => slashless (List.mem_append_right _ bracket)).1 behind⟩
  · rintro ⟨gap, tail, rfl, describes⟩
    exact ⟨_, _, List.map_append,
      (ih tail fun bracket => slashless (List.mem_append_right _ bracket)).2 describes⟩

variable (ih : ∀ label, separator ∉ label →
  (coversWithGaps (glob :: globs) (label.map slash) = true ↔ Describes rest label))
include ih

theorem coversWithGaps_star_iff (slashless : separator ∉ label) (lone : rest.head? ≠ some '*') :
    coversWithGaps ((.anyRun :: glob) :: globs) (label.map slash) = true ↔
      Describes ('*' :: rest) label := by
  rw [coversWithGaps_anyRun_iff, describes_star lone]
  apply Iff.intro
  · rintro ⟨front, back, whole, within, behind⟩
    obtain ⟨run, tail, rfl, rfl, rfl⟩ := List.map_eq_append_iff.1 whole
    obtain ⟨run_slashless, tail_slashless⟩ := not_or.1 (List.mem_append.not.1 slashless)
    rw [separator_mem_map_slash_iff run_slashless] at within
    exact ⟨run, tail, rfl, within, (ih tail tail_slashless).1 behind⟩
  · rintro ⟨run, tail, rfl, within, describes⟩
    obtain ⟨run_slashless, tail_slashless⟩ := not_or.1 (List.mem_append.not.1 slashless)
    rw [← separator_mem_map_slash_iff run_slashless] at within
    exact ⟨_, _, List.map_append, within, (ih tail tail_slashless).2 describes⟩

theorem coversWithGaps_one_iff {token : Token} {takes : Char → Prop} (single : token ≠ .anyRun)
    (same : ∀ c, c ≠ separator → (token.covers (slash c) = true ↔ takes c))
    (slashless : separator ∉ label) :
    coversWithGaps ((token :: glob) :: globs) (label.map slash) = true ↔
      ∃ c tail, label = c :: tail ∧ takes c ∧ Describes rest tail := by
  rw [coversWithGaps_token_iff single]
  apply Iff.intro
  · rintro ⟨front, back, whole, own, behind⟩
    obtain ⟨c, tail, rfl, rfl, rfl⟩ := List.map_eq_cons_iff.1 whole
    exact ⟨c, tail, rfl, (same c (List.ne_of_not_mem_cons slashless).symm).1 own,
      (ih tail (List.not_mem_of_not_mem_cons slashless)).1 behind⟩
  · rintro ⟨c, tail, rfl, own, describes⟩
    exact ⟨_, _, List.map_cons, (same c (List.ne_of_not_mem_cons slashless).symm).2 own,
      (ih tail (List.not_mem_of_not_mem_cons slashless)).2 describes⟩

theorem coversWithGaps_any_iff (slashless : separator ∉ label) :
    coversWithGaps ((.anyChar :: glob) :: globs) (label.map slash) = true ↔
      Describes ('?' :: rest) label := by
  rw [describes_any]
  refine coversWithGaps_one_iff ih (fun impossible => nomatch impossible) (fun c own => ?_)
    slashless
  rw [Ne, ← slash_eq_separator_iff own]
  exact bne_iff_ne

theorem coversWithGaps_char_iff (slashless : separator ∉ label) (starless : c ≠ '*')
    (definite : c ≠ '?') (own : c ≠ separator) :
    coversWithGaps ((tokenOf c :: glob) :: globs) (label.map slash) = true ↔
      Describes (c :: rest) label := by
  rw [describes_char starless definite]
  refine coversWithGaps_one_iff ih ?_ (fun d => covers_tokenOf_iff starless definite own) slashless
  simp only [tokenOf, if_neg definite, if_neg starless]
  split <;> exact fun impossible => nomatch impossible

end Step

/-- A text without groups and classes describes a label if its globs describe the path. -/
theorem coversWithGaps_globsOf_iff (classless : '[' ∉ text) (slashless : separator ∉ text)
    (label_slashless : separator ∉ label) :
    coversWithGaps (globsOf text) (label.map slash) = true ↔ Describes text label := by
  induction length : text.length using Nat.strongRecOn generalizing text label with
  | ind size ih =>
      subst length
      cases text with
      | nil =>
          rw [describes_nil, ← List.map_eq_nil_iff (f := slash)]
          exact coversWithGaps_empty_iff
      | cons c rest =>
          have rest_classless := List.not_mem_of_not_mem_cons classless
          have rest_slashless := List.not_mem_of_not_mem_cons slashless
          by_cases double : c = '*' ∧ rest.head? = some '*'
          · obtain ⟨rfl, second⟩ := double
            obtain ⟨more, rfl⟩ := List.head?_eq_some_iff.1 second
            rw [globsOf_stars]
            cases globs_eq : globsOf (behindStars more) with
            | nil => exact absurd (List.map_eq_nil_iff.1 globs_eq) (divide_ne_nil _ _ _)
            | cons glob globs =>
                refine coversWithGaps_stars_iff label_slashless fun label label_slashless => ?_
                have fewer : (behindStars more).Sublist more := List.dropWhile_sublist _
                rw [← globs_eq]
                refine ih _ ?_ ?_ ?_ label_slashless rfl
                · exact Nat.lt_of_le_of_lt fewer.length_le (by simp only [List.length_cons]; omega)
                · intro bracket
                  exact rest_classless (List.mem_cons_of_mem _ (fewer.subset bracket))
                · intro bracket
                  exact rest_slashless (List.mem_cons_of_mem _ (fewer.subset bracket))
          · have lone : c = '*' → rest.head? ≠ some '*' := fun star next => double ⟨star, next⟩
            obtain ⟨glob, globs, tail_globs, whole_globs⟩ :=
              exists_globsOf_cons (List.ne_of_not_mem_cons classless).symm lone
            have tail (label : List Char) (label_slashless : separator ∉ label) :
                coversWithGaps (glob :: globs) (label.map slash) = true ↔ Describes rest label := by
              rw [← tail_globs]
              exact ih _ (Nat.lt_succ_self _) rest_classless rest_slashless label_slashless rfl
            rw [whole_globs]
            by_cases star : c = '*'
            · subst star
              exact coversWithGaps_star_iff tail label_slashless (lone rfl)
            · by_cases any : c = '?'
              · subst any
                exact coversWithGaps_any_iff tail label_slashless
              · exact coversWithGaps_char_iff tail label_slashless star any
                  (List.ne_of_not_mem_cons slashless).symm

/-! ## Patterns -/

section Pattern

variable {pattern : String} (classless : '[' ∉ pattern.toList)
include classless

theorem read_of_expand {texts : List (List Char)} (expanded : expand pattern.toList = .ok texts) :
    Pattern.read pattern = .ok ⟨texts.map globsOf⟩ := by
  have choices : texts.mapM globs? = some (texts.map globsOf) :=
    mapM_eq_some_map fun text member => globs?_eq fun bracket =>
      classless (((mem_expand_iff classless).1 ⟨texts, expanded, member⟩).mem bracket)
  simp only [Pattern.read, expanded, choices]

/-- A pattern makes sense if its braces are balanced. -/
theorem check_eq_ok_iff : LabelMatcher.glob.check pattern = .ok () ↔ Balanced pattern.toList := by
  rw [← (expandsTo_expand classless).exists_iff]
  cases expanded : expand pattern.toList with
  | error problem => simp [LabelMatcher.glob, Pattern.read, expanded, Except.map]
  | ok texts => simp [LabelMatcher.glob, read_of_expand classless expanded, Except.map]

theorem covers_of_expand {texts : List (List Char)} {label : String}
    (expanded : expand pattern.toList = .ok texts) :
    LabelMatcher.glob.covers pattern label = true ↔
      ∃ text ∈ texts, coversWithGaps (globsOf text) (label.toList.map slash) = true := by
  simp only [LabelMatcher.glob, read_of_expand classless expanded, covers, List.any_map,
    List.any_eq_true, Function.comp_apply]
  rfl

/-- A pattern describes the labels that belong to one of the texts it stands for. -/
theorem covers_iff {label : String} (slashless : separator ∉ pattern.toList)
    (label_slashless : separator ∉ label.toList) :
    LabelMatcher.glob.covers pattern label = true ↔
      ∃ text, Expands pattern.toList text ∧ Describes text label.toList := by
  have right := expandsTo_expand classless
  have described {text : List Char} (expands : Expands pattern.toList text) :
      coversWithGaps (globsOf text) (label.toList.map slash) = true ↔
        Describes text label.toList :=
    coversWithGaps_globsOf_iff (fun bracket => classless (expands.mem bracket))
      (fun bracket => slashless (expands.mem bracket)) label_slashless
  cases expanded : expand pattern.toList with
  | error problem =>
      apply iff_of_false
      · simp [LabelMatcher.glob, Pattern.read, expanded]
      · rintro ⟨text, expands, -⟩
        obtain ⟨texts, impossible, -⟩ := (mem_expand_iff classless).2 expands
        cases expanded.symm.trans impossible
  | ok texts =>
      rw [covers_of_expand classless expanded]
      apply Iff.intro
      · rintro ⟨text, member, covered⟩
        have expands := (right.mem_iff texts expanded text).1 member
        exact ⟨text, expands, (described expands).1 covered⟩
      · rintro ⟨text, expands, describes⟩
        exact ⟨text, (right.mem_iff texts expanded text).2 expands, (described expands).2 describes⟩

end Pattern

end Pattern

namespace LabelMatcher

open Pattern

/-- A pattern without character classes is accepted exactly if its braces are balanced. It is
expanded to what its parts stand for, and it describes just the labels that belong to one of the
texts it stands for. A pattern that is not accepted describes nothing. -/
theorem glob_language {pattern : String} (classless : '[' ∉ pattern.toList)
    (slashless : '/' ∉ pattern.toList) :
    (glob.check pattern = .ok () ↔ Balanced pattern.toList) ∧
      (∀ text, (∃ texts, expand pattern.toList = .ok texts ∧ text ∈ texts) ↔
        Expands pattern.toList text) ∧
      ∀ label : String, '/' ∉ label.toList →
        (glob.covers pattern label = true ↔
          ∃ text, Expands pattern.toList text ∧ Describes text label.toList) ∧
        (¬ Balanced pattern.toList → glob.covers pattern label = false) := by
  refine ⟨check_eq_ok_iff classless, fun text => mem_expand_iff classless,
    fun label label_slashless => ⟨covers_iff classless slashless label_slashless, ?_⟩⟩
  intro unbalanced
  refine Bool.eq_false_iff.2 fun covered => unbalanced ?_
  obtain ⟨text, expands, -⟩ := (covers_iff classless slashless label_slashless).1 covered
  exact expands.balanced

/-- Groups within groups, stars of each kind and letters in either case; and braces as many of which
close as open, but in the wrong order. -/
theorem glob_language_of_nested_groups :
    let pattern := "\x7bwww,ns\x7b1,2\x7d\x7d.*.**"
    ('[' ∉ pattern.toList ∧ '/' ∉ pattern.toList ∧ '/' ∉ "NS2.eu.a.b".toList) ∧
      glob.check pattern = .ok () ∧ Balanced pattern.toList ∧
      (∃ text, Expands pattern.toList text ∧ Describes text "NS2.eu.a.b".toList) ∧
      (¬ ∃ text, Expands pattern.toList text ∧ Describes text "ns3.eu.a".toList) ∧
      ¬ Balanced "a\x7db\x7bc".toList := by
  intro pattern
  have classless : '[' ∉ pattern.toList := by decide
  have slashless : '/' ∉ pattern.toList := by decide
  obtain ⟨accepted, -, labels⟩ := glob_language classless slashless
  have checked : glob.check pattern = .ok () := by decide +kernel
  have described : glob.covers pattern "NS2.eu.a.b" = true := by decide +kernel
  have other : glob.covers pattern "ns3.eu.a" = false := by decide +kernel
  have refused : glob.check "a\x7db\x7bc" ≠ .ok () := by decide +kernel
  refine ⟨⟨classless, slashless, by decide⟩, checked, accepted.1 checked,
    (labels "NS2.eu.a.b" (by decide)).1.1 described, ?_, ?_⟩
  · intro belongs
    exact absurd ((labels "ns3.eu.a" (by decide)).1.2 belongs) (by rw [other]; decide)
  · exact fun balanced => refused ((glob_language (by decide) (by decide)).1.2 balanced)

end LabelMatcher

end DnsReconcile
