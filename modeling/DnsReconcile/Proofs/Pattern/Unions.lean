/-
# Groups of two patterns

Two patterns in braces, with a comma between them, are meant to describe what either of them
describes. A group is cut at commas by those who count all braces and commas, also those in
character classes. So it depends on the cut: it may miss the comma in the middle, or find another
one.
-/

import DnsReconcile.Proofs.Pattern.Pieces
import DnsReconcile.Proofs.Pattern.Readings

namespace DnsReconcile

namespace Pattern

variable {c : Char} {pattern text rest front back before inner after : List Char}
variable {inClass apart : Bool} {depth : Nat} {globs : List Glob}

/-! ## Patterns that make sense -/

/-- Where a class ends, no class is open that began outside of it. -/
theorem endsInClass_outside (ends : endsInClass inClass text = false) :
    endsInClass false text = false := by
  cases inClass with
  | false => exact ends
  | true =>
      induction text with
      | nil => cases ends
      | cons c text ih =>
          rw [endsInClass_cons] at ends ⊢
          cases inside : classAfter true c with
          | true =>
              rw [inside] at ends
              cases classAfter false c with
              | true => exact ends
              | false => exact ih ends
          | false =>
              have closed : c = ']' := by simpa [classAfter] using inside
              subst closed
              exact ends

theorem Closes.exists_of_append (closes : Closes depth (front ++ back)) :
    ∃ outer, Closes outer back := by
  induction front generalizing depth with
  | nil => exact ⟨depth, closes⟩
  | cons c front ih => exact ih (closes_cons_iff.1 closes).2

/-- The outline of a pattern around a group. -/
theorem outline_group (outside : endsInClass false before = false)
    (closed : endsInClass false inner = false) :
    outline false (before ++ '\x7b' :: (inner ++ '\x7d' :: after)) =
      outline false before ++ '\x7b' :: (outline false inner ++ '\x7d' :: outline false after) := by
  have opens : classAfter false '\x7b' = false := by decide
  have ends : classAfter false '\x7d' = false := by decide
  simp [outside, closed, opens, ends]

theorem endsInClass_group (outside : endsInClass false before = false)
    (closed : endsInClass false inner = false) :
    endsInClass false (before ++ '\x7b' :: (inner ++ '\x7d' :: after)) =
      endsInClass false after := by
  have opens : classAfter false '\x7b' = false := by decide
  have ends : classAfter false '\x7d' = false := by decide
  simp [outside, closed, opens, ends]

/-- A pattern that makes sense ends outside of classes and leaves none of its groups open. -/
theorem MakesSense.closes (sense : MakesSense pattern) :
    endsInClass false pattern = false ∧ ∃ depth, Closes depth (outline false pattern) := by
  induction sense with
  | text groupless reads =>
      obtain ⟨-, -, -, outside, -⟩ := exists_globs?_comma reads
      exact ⟨outside, 0, (findGroup_eq_none_iff.1 groupless).nested.balanced⟩
  | @group pattern before inner after found each ih =>
      obtain ⟨rfl, plain, outside, balanced, closed⟩ := findGroup_eq_some_iff.1 found
      obtain ⟨alt, member, first, rfl⟩ := (cutInto_alternatives 0 inner).exists_suffix
      obtain ⟨ends, depth, closes⟩ := ih alt member
      have alt_outside : endsInClass false alt = false := by
        rw [endsInClass_append] at closed
        exact endsInClass_outside closed
      rw [outline_group outside closed, endsInClass_group outside closed]
      rw [endsInClass_append, endsInClass_append, outside, alt_outside] at ends
      rw [outline_append, endsInClass_append, outside, alt_outside] at closes
      obtain ⟨outer, closes⟩ := closes.exists_of_append
      refine ⟨ends, outer, ?_⟩
      rwa [plain.nested.closes_append, closes_open, (nested_iff_balanced.2 balanced).closes_append,
        closes_close]

/-- If it does not end a group that was open before it, its braces are balanced. -/
theorem MakesSense.balanced (sense : MakesSense front)
    (closes : Closes 0 (outline false front ++ rest)) : Balanced (outline false front) := by
  obtain ⟨-, depth, own⟩ := sense.closes
  have opened := closes.opened _ (List.prefix_append _ rest)
  have even := own.even
  obtain rfl : depth = 0 := by omega
  exact own

/-! ## Where two patterns are cut -/

/-- No comma stands outside of classes and groups. -/
def Undivided (text : List Char) : Prop :=
  alternatives 0 (outline false text) = [outline false text]

theorem Undivided.nested (undivided : Undivided text) (balanced : Balanced (outline false text)) :
    Nested true (outline false text) := by
  refine (nested_iff_balanced.2 balanced).alternatives.2.1 _ ?_
  rw [undivided]
  exact List.mem_singleton_self _

/-- If a text has no comma outside of groups, a group is open in front of each of its commas. -/
theorem Nested.not_balanced_of_comma (nested : Nested true (front ++ ',' :: back)) :
    ¬ Balanced front := by
  generalize whole : front ++ ',' :: back = text at nested
  generalize parted : true = apart at nested
  intro balanced
  induction nested generalizing front with
  | nil => simp at whole
  | @char apart c rest unopened unclosed undivided _ ih =>
      cases front with
      | nil => exact undivided parted.symm (List.cons.inj whole).1.symm
      | cons d front =>
          obtain ⟨rfl, later⟩ := List.cons.inj whole
          exact ih later parted ((closes_plain unopened unclosed).1 balanced)
  | @group apart inner rest inside _ _ ih =>
      cases front with
      | nil => exact absurd (List.cons.inj whole).1 (by decide)
      | cons d front =>
          rw [List.cons_append] at whole
          obtain ⟨rfl, later⟩ := List.cons.inj whole
          obtain ⟨inner', front, rfl, within, behind⟩ :=
            Closes.split 0 0 (closes_open.1 balanced)
          rw [List.append_assoc, List.cons_append] at later
          obtain ⟨-, behind_group⟩ := group_inj within inside.balanced later
          exact ih behind_group parted behind

theorem outline_comma (outside : endsInClass false front = false) :
    outline false (front ++ ',' :: back) = outline false front ++ ',' :: outline false back := by
  have comma : classAfter false ',' = false := by decide
  simp [outside, comma]

theorem endsInClass_comma (outside : endsInClass false front = false) :
    endsInClass false (front ++ ',' :: back) = endsInClass false back := by
  have comma : classAfter false ',' = false := by decide
  simp [outside, comma]

/-- Two marks in a text are the same one, or one of them stands behind the other. -/
theorem append_cons_cases {d : Char} {first last : List Char}
    (whole : front ++ c :: back = first ++ d :: last) :
    front = first ∧ c = d ∧ back = last ∨
      (∃ between, first = front ++ c :: between ∧ back = between ++ d :: last) ∨
      ∃ between, front = first ++ d :: between ∧ last = between ++ c :: back := by
  rcases List.append_eq_append_iff.1 whole with ⟨between, rfl, tail⟩ | ⟨between, rfl, tail⟩
  · cases between with
    | nil =>
        obtain ⟨rfl, rfl⟩ := List.cons.inj tail
        exact Or.inl ⟨(List.append_nil front).symm, rfl, rfl⟩
    | cons e between =>
        rw [List.cons_append] at tail
        obtain ⟨rfl, rfl⟩ := List.cons.inj tail
        exact Or.inr (Or.inl ⟨between, rfl, rfl⟩)
  · cases between with
    | nil =>
        obtain ⟨rfl, rfl⟩ := List.cons.inj tail
        exact Or.inl ⟨List.append_nil first, rfl, rfl⟩
    | cons e between =>
        rw [List.cons_append] at tail
        obtain ⟨rfl, rfl⟩ := List.cons.inj tail
        exact Or.inr (Or.inr ⟨between, rfl, rfl⟩)

section Cut

variable {one other : List Char}
variable (first : Nested true (outline false one)) (second : Nested true (outline false other))
variable (outside : endsInClass false one = false)
include first second outside

/-- The comma between two patterns is the only one with a balanced text in front of it. -/
theorem cut_eq (whole : one ++ ',' :: other = front ++ ',' :: back)
    (front_outside : endsInClass false front = false) (balanced : Balanced (outline false front)) :
    front = one ∧ back = other := by
  rcases append_cons_cases whole with ⟨rfl, -, rfl⟩ | ⟨between, rfl, rfl⟩ | ⟨between, rfl, rfl⟩
  · exact ⟨rfl, rfl⟩
  · rw [endsInClass_comma outside] at front_outside
    rw [outline_comma outside, Balanced, first.closes_append,
      closes_plain (by decide) (by decide)] at balanced
    rw [outline_comma front_outside] at second
    exact absurd balanced second.not_balanced_of_comma
  · rw [outline_comma front_outside] at first
    exact absurd balanced first.not_balanced_of_comma

/-- If all parts make sense, the two patterns are cut apart or not at all. -/
theorem alternatives_comma_cases
    (each : ∀ alt ∈ alternatives 0 (one ++ ',' :: other), MakesSense alt) :
    alternatives 0 (one ++ ',' :: other) = [one, other] ∨
      alternatives 0 (one ++ ',' :: other) = [one ++ ',' :: other] := by
  rcases alternatives_cases 0 (one ++ ',' :: other) with whole | ⟨front, back, same, parts⟩
  · exact Or.inr whole
  · left
    rw [parts] at each ⊢
    obtain ⟨own, later⟩ := List.forall_mem_cons.1 each
    have closes : Closes 0 (outline false (one ++ ',' :: other)) := by
      rw [outline_comma outside, first.closes_append, closes_plain (by decide) (by decide)]
      exact second.balanced
    rw [same, outline_comma own.closes.1] at closes
    obtain ⟨rfl, rfl⟩ := cut_eq first second outside same own.closes.1 (own.balanced closes)
    -- The second pattern is not cut, since the first part of it would be balanced again.
    rcases alternatives_cases 0 back with whole | ⟨front', back', rfl, parts'⟩
    · rw [whole]
    · have own' : MakesSense front' := later front' (parts' ▸ List.mem_cons_self)
      rw [outline_comma own'.closes.1] at second
      exact absurd (own'.balanced second.balanced) second.not_balanced_of_comma

end Cut

/-! ## Groups of two -/

theorem findGroup_braces (balanced : Balanced (outline false text))
    (outside : endsInClass false text = false) :
    findGroup false ('\x7b' :: (text ++ ['\x7d'])) = .ok (some ([], text, [])) :=
  findGroup_eq_some_iff.2 ⟨rfl, List.forall_mem_nil _, rfl, balanced, outside⟩

theorem findGroup_append (back : List Char)
    (found : findGroup inClass text = .ok (some (before, inner, after))) :
    findGroup inClass (text ++ back) = .ok (some (before, inner, after ++ back)) := by
  rw [findGroup_eq_some_iff] at found ⊢
  obtain ⟨rfl, parts⟩ := found
  refine ⟨?_, parts⟩
  simp only [List.append_assoc, List.cons_append]

/-- The first group of a text that has none in front of a comma stands behind the comma. -/
theorem exists_eq_of_findGroup_comma (groupless : findGroup false text = .ok none)
    (found : findGroup false (text ++ ',' :: back) = .ok (some (before, inner, after))) :
    ∃ between, before = text ++ ',' :: between := by
  obtain ⟨whole, -, outside, -⟩ := findGroup_eq_some_iff.1 found
  rcases append_cons_cases whole with ⟨-, same, -⟩ | ⟨between, rfl, -⟩ | ⟨between, rfl, -⟩
  · exact absurd same (by decide)
  · exact ⟨between, rfl⟩
  · have plain := findGroup_eq_none_iff.1 groupless
    rw [outline_append, outside, outline_cons, seen_outside] at plain
    exact absurd rfl (plain '\x7b' (by simp)).1

/-- In front of a comma, a pattern that makes sense is read for itself: whatever such a pattern
describes begins with what the pattern describes, and there is more. -/
theorem exists_readsAs_of_comma {path : List Char} (sense : MakesSense text)
    (reads : ReadsAs (text ++ ',' :: back) globs) (covered : coversWithGaps globs path = true) :
    ∃ own more, path = own ++ more ∧ more ≠ [] ∧
      ∃ globs, ReadsAs text globs ∧ coversWithGaps globs own = true := by
  generalize whole : text ++ ',' :: back = pattern at reads
  induction reads generalizing text back with
  | text groupless reads =>
      subst whole
      have plain := findGroup_eq_none_iff.1 groupless
      rw [outline_append] at plain
      have groupless : findGroup false text = .ok none :=
        findGroup_eq_none_iff.2 fun c member => plain c (List.mem_append_left _ member)
      obtain ⟨globs, own⟩ := (makesSense_text groupless).1 sense
      obtain ⟨front, glob, rfl, -, goes_on⟩ := exists_globs?_comma own
      obtain ⟨next, others, rfl⟩ := goes_on back _ reads
      obtain ⟨start, more, rfl, rest, described⟩ := exists_coversWithGaps_of_comma covered
      exact ⟨start, more, rfl, rest, _, .text groupless own, described⟩
  | @group pattern before inner after alt globs found member reads ih =>
      subst whole
      cases sense with
      | text groupless own =>
          -- The group stands behind the comma, since there is none in front of it.
          obtain ⟨before, rfl⟩ := exists_eq_of_findGroup_comma groupless found
          have moved : text ++ ',' :: (before ++ alt ++ after) =
              text ++ ',' :: before ++ alt ++ after := by
            simp only [List.append_assoc, List.cons_append]
          exact ih (.text groupless own) covered moved
      | group own each =>
          cases (findGroup_append (',' :: back) own).symm.trans found
          obtain ⟨start, more, rfl, rest, globs, reads, described⟩ :=
            ih (each alt member) covered (List.append_assoc ..)
          exact ⟨start, more, rfl, rest, globs, .group own member reads, described⟩

/-! ## Texts without marks in classes -/

/-- No brace and no comma stands in a class. -/
def Clear (text : List Char) : Prop :=
  outline false text = text

theorem length_outline : (outline inClass text).length = text.length := by
  induction text generalizing inClass with
  | nil => rfl
  | cons c text ih => simp [ih]

theorem clear_append_iff (outside : endsInClass false front = false) :
    Clear (front ++ back) ↔ Clear front ∧ Clear back := by
  rw [Clear, outline_append, outside]
  refine ⟨fun same => List.append_inj same length_outline, ?_⟩
  rintro ⟨first, second⟩
  rw [first, second]

/-- In front of a comma, a clear text is outside of classes. -/
theorem Clear.of_comma (clear : Clear (front ++ ',' :: back)) :
    Clear front ∧ endsInClass false front = false := by
  rw [Clear, outline_append] at clear
  obtain ⟨own, tail⟩ := List.append_inj clear length_outline
  rw [outline_cons] at tail
  exact ⟨own, ((seen_eq_iff (by decide)).1 (List.cons.inj tail).1).1⟩

theorem Clear.exists_mem_alternatives (clear : Clear inner)
    (closed : endsInClass false inner = false) :
    ∃ alt ∈ alternatives 0 inner, Clear alt ∧ endsInClass false alt = false := by
  rcases alternatives_cases 0 inner with whole | ⟨first, others, rfl, parts⟩
  · exact ⟨inner, by simp [whole], clear, closed⟩
  · exact ⟨first, by simp [parts], clear.of_comma⟩

/-- The braces of a clear pattern that makes sense are balanced. -/
theorem MakesSense.balanced_of_clear (sense : MakesSense pattern) (clear : Clear pattern) :
    Balanced pattern := by
  induction sense with
  | text groupless _ =>
      have plain := findGroup_eq_none_iff.1 groupless
      rw [clear] at plain
      exact plain.nested.balanced
  | @group pattern before inner after found each ih =>
      obtain ⟨rfl, plain, outside, balanced, closed⟩ := findGroup_eq_some_iff.1 found
      rw [Clear, outline_group outside closed] at clear
      obtain ⟨before_clear, tail⟩ := List.append_inj clear length_outline
      obtain ⟨inner_clear, tail⟩ := List.append_inj (List.cons.inj tail).2 length_outline
      have after_clear := (List.cons.inj tail).2
      rw [before_clear] at plain
      rw [inner_clear] at balanced
      obtain ⟨alt, member, alt_clear, alt_outside⟩ :=
        Clear.exists_mem_alternatives inner_clear closed
      have rewritten : Clear (before ++ alt ++ after) := by
        rw [clear_append_iff (by rw [endsInClass_append, outside, alt_outside]),
          clear_append_iff outside]
        exact ⟨⟨before_clear, alt_clear⟩, after_clear⟩
      exact (balanced_rewritten_iff member (nested_iff_balanced.2 balanced) plain).1
        (ih alt member rewritten)

/-! ## Labels -/

theorem slash_slash (c : Char) : slash (slash c) = slash c := by
  have apart : separator ≠ '.' := by decide
  by_cases dot : c = '.'
  · simp [slash, dot, apart]
  · simp [slash, dot]

/-- What a path begins with is the path of a label. -/
theorem path_ofList {label : String} {own more : List Char} (whole : path label = own ++ more) :
    path (String.ofList own) = own := by
  have same : (path label).map slash = path label := by
    change (label.toList.map slash).map slash = label.toList.map slash
    rw [List.map_map]
    exact List.map_congr_left fun c _ => slash_slash c
  rw [whole, List.map_append] at same
  change (String.ofList own).toList.map slash = own
  rw [String.toList_ofList]
  exact List.append_inj_left same (List.length_map _)

/-- The two patterns in braces. -/
def grouped (one other : String) : String :=
  "\x7b" ++ one ++ "," ++ other ++ "\x7d"

theorem toList_grouped (one other : String) :
    (grouped one other).toList =
      '\x7b' :: ((one.toList ++ ',' :: other.toList) ++ ['\x7d']) := by
  simp [grouped]

/-- The two patterns in braces are accepted and describe what either of them describes. -/
structure IsUnion (one other : String) : Prop where
  accepted : LabelMatcher.glob.check (grouped one other) = .ok ()
  covers_iff : ∀ label : String, LabelMatcher.glob.covers (grouped one other) label = true ↔
    LabelMatcher.glob.covers one label = true ∨ LabelMatcher.glob.covers other label = true

section Union

variable {one other : String} (sense : MakesSense one.toList) (sense' : MakesSense other.toList)
include sense sense'

variable (balanced : Balanced (outline false one.toList))
variable (balanced' : Balanced (outline false other.toList))
include balanced balanced'

theorem findGroup_grouped :
    findGroup false (grouped one other).toList =
      .ok (some ([], one.toList ++ ',' :: other.toList, [])) := by
  rw [toList_grouped]
  have outside := sense.closes.1
  refine findGroup_braces ?_ ?_
  · rw [outline_comma outside, Balanced, (nested_iff_balanced.2 balanced).closes_append,
      closes_plain (by decide) (by decide)]
    exact balanced'
  · rw [endsInClass_comma outside]
    exact sense'.closes.1

/-- If they are cut apart, the two patterns in braces are their union. -/
theorem isUnion_of_cut
    (cut : alternatives 0 (one.toList ++ ',' :: other.toList) = [one.toList, other.toList]) :
    IsUnion one other := by
  have found := findGroup_grouped sense sense' balanced balanced'
  have group_sense : MakesSense (grouped one other).toList := by
    rw [makesSense_group found, cut]
    simpa using ⟨sense, sense'⟩
  refine ⟨check_eq_ok_iff_makesSense.2 group_sense, fun label => ?_⟩
  rw [covers_iff_readsAs group_sense, covers_iff_readsAs sense, covers_iff_readsAs sense']
  simp only [readsAs_group found, cut, List.mem_cons, List.not_mem_nil, or_false, exists_eq_left,
    List.nil_append, List.append_nil, or_and_right, exists_or]

/-- If they are not cut at all, the two patterns in braces describe no label as short as the
shortest one of either. -/
theorem not_isUnion_of_uncut
    (uncut : alternatives 0 (one.toList ++ ',' :: other.toList) =
      [one.toList ++ ',' :: other.toList]) {label : String}
    (covered : LabelMatcher.glob.covers one label = true ∨
      LabelMatcher.glob.covers other label = true) : ¬ IsUnion one other := by
  intro isUnion
  have found := findGroup_grouped sense sense' balanced balanced'
  have group_sense := check_eq_ok_iff_makesSense.1 isUnion.accepted
  induction length : (path label).length using Nat.strongRecOn generalizing label with
  | ind size ih =>
      subst length
      obtain ⟨globs, reads, described⟩ :=
        (covers_iff_readsAs group_sense).1 ((isUnion.covers_iff label).2 covered)
      rw [readsAs_group found, uncut] at reads
      simp only [List.mem_singleton, exists_eq_left, List.nil_append, List.append_nil] at reads
      obtain ⟨own, more, whole, rest, globs, reads, described⟩ :=
        exists_readsAs_of_comma sense reads described
      have shorter : own.length < (path label).length := by
        rw [whole, List.length_append]
        exact Nat.lt_add_of_pos_right (List.length_pos_of_ne_nil rest)
      have begins := path_ofList whole
      refine ih own.length shorter (Or.inl ((covers_iff_readsAs sense).2 ⟨globs, reads, ?_⟩))
        (congrArg List.length begins)
      rwa [begins]

end Union

end Pattern

namespace LabelMatcher

open Pattern

/-- Two patterns that are accepted on their own, without commas outside of their groups and classes,
are put into braces with a comma between them. If no class of them has braces or commas, the group
is accepted and describes what either of them describes. If classes have some, but the braces
outside of them are balanced, that depends on the cut, which takes no notice of classes: it is so if
the two are cut apart, and only then if they describe any label at all. -/
theorem glob_union_if_cut_apart {one other : String} (accepted : glob.check one = .ok ())
    (accepted' : glob.check other = .ok ()) (undivided : Undivided one.toList)
    (undivided' : Undivided other.toList) :
    (Clear one.toList → Clear other.toList → IsUnion one other) ∧
      (Balanced (outline false one.toList) → Balanced (outline false other.toList) →
        let isCutApart :=
          alternatives 0 (one.toList ++ ',' :: other.toList) = [one.toList, other.toList]
        (isCutApart → IsUnion one other) ∧
          ((∃ label, glob.covers one label = true ∨ glob.covers other label = true) →
            IsUnion one other → isCutApart)) := by
  have sense := check_eq_ok_iff_makesSense.1 accepted
  have sense' := check_eq_ok_iff_makesSense.1 accepted'
  refine ⟨fun clear clear' => ?_, fun balanced balanced' =>
    ⟨isUnion_of_cut sense sense' balanced balanced', ?_⟩⟩
  · have balanced : Balanced (outline false one.toList) :=
      clear.symm ▸ sense.balanced_of_clear clear
    have balanced' : Balanced (outline false other.toList) :=
      clear'.symm ▸ sense'.balanced_of_clear clear'
    refine isUnion_of_cut sense sense' balanced balanced' ?_
    have nested : Nested true one.toList := clear ▸ undivided.nested balanced
    have nested' : Nested true other.toList := clear' ▸ undivided'.nested balanced'
    have cut := alternatives_separated (List.cons_ne_nil one.toList [other.toList])
      (List.forall_mem_cons.2 ⟨nested, List.forall_mem_singleton.2 nested'⟩)
    rwa [separated_cons_cons, separated_singleton] at cut
  · rintro ⟨label, covered⟩ isUnion
    have group_sense := check_eq_ok_iff_makesSense.1 isUnion.accepted
    rw [makesSense_group (findGroup_grouped sense sense' balanced balanced')] at group_sense
    simp only [List.nil_append, List.append_nil] at group_sense
    refine (alternatives_comma_cases (undivided.nested balanced) (undivided'.nested balanced')
      sense.closes.1 group_sense).resolve_right fun uncut => ?_
    exact not_isUnion_of_uncut sense sense' balanced balanced' uncut covered isUnion

/-- A class and a group; and a brace in a class, which hides the comma behind it. -/
theorem glob_union_if_cut_apart_of_classes :
    IsUnion "ns[0-9]" "\x7bwww,api\x7d.dev" ∧
      (glob.check "[\x7b]" = .ok () ∧ glob.check "b" = .ok () ∧ Undivided "[\x7b]".toList ∧
        Undivided "b".toList) ∧ ¬ IsUnion "[\x7b]" "b" := by
  have accepted : glob.check "[\x7b]" = .ok () := by decide +kernel
  have accepted' : glob.check "b" = .ok () := by decide +kernel
  have undivided : Undivided "[\x7b]".toList := rfl
  have undivided' : Undivided "b".toList := rfl
  have plain : Plain (outline false "[\x7b]".toList) := by decide +kernel
  have plain' : Plain (outline false "b".toList) := by decide +kernel
  have apart : IsUnion "ns[0-9]" "\x7bwww,api\x7d.dev" := by
    refine (glob_union_if_cut_apart ?_ ?_ ?_ ?_).1 ?_ ?_
    · decide +kernel
    · decide +kernel
    all_goals rfl
  refine ⟨apart, ⟨accepted, accepted', undivided, undivided'⟩, fun isUnion => ?_⟩
  have cut := ((glob_union_if_cut_apart accepted accepted' undivided undivided').2
    plain.nested.balanced plain'.nested.balanced).2 ⟨"b", Or.inr (by decide +kernel)⟩ isUnion
  exact absurd cut (by decide +kernel)

/-- Two patterns in braces are not always their union. -/
theorem glob_union_not_around_classes :
    ¬ ∀ one other : String, glob.check one = .ok () → glob.check other = .ok () →
      Undivided one.toList → Undivided other.toList → IsUnion one other := by
  intro always
  have isUnion := always "[\x7b]" "b" (by decide +kernel) (by decide +kernel) rfl rfl
  have covered := (isUnion.covers_iff "b").2 (Or.inr (by decide +kernel))
  exact absurd covered (by decide +kernel)

end LabelMatcher

end DnsReconcile
