/-
# Words and fields

A line is cut into its words at blanks. Fields that are joined by blanks are the words of the line
again, and each word stands where it can be cut off: in front of what is left of the line.
-/

import DnsReconcile.Proofs.Text.Trimming

namespace DnsReconcile.Text

variable {text word rest : List Char} {fields : List (List Char)} {c : Char}

/-- A text that can stand in a line of words as one of them. -/
structure IsField (word : List Char) : Prop where
  present : word ≠ []
  visible : ∀ c ∈ word, isBlank c = false

/-! ## Cutting -/

theorem words_append_blank (field : IsField word) (blank : isBlank c = true) (rest : List Char) :
    words (word ++ c :: rest) = word :: words rest := by
  simp [words, List.splitOnP_append_cons_of_forall_mem field.visible c blank, field.present]

theorem words_eq_singleton (field : IsField word) : words word = [word] := by
  simp [words, List.splitOnP_eq_singleton field.visible, field.present]

theorem words_cons_blank (blank : isBlank c = true) : words (c :: text) = words text := by
  rw [words, List.splitOnP_cons_eq_if_modifyHead, if_pos blank, List.filter_cons_of_neg (by simp)]
  rfl

theorem words_trimStart (text : List Char) : words (trimStart text) = words text := by
  induction text with
  | nil => rfl
  | cons c rest ih =>
      cases blank : isBlank c with
      | true =>
          rw [words_cons_blank blank, ← ih, trimStart, List.dropWhile_cons_of_pos blank]
          rfl
      | false => rw [trimStart, List.dropWhile_cons_of_neg (Bool.eq_false_iff.1 blank)]

/-- The beginning of a line up to the next blank. -/
def firstWord (text : List Char) : List Char :=
  text.takeWhile fun c => !isBlank c

/-- What a line goes on with after its first word. -/
def afterWord (text : List Char) : List Char :=
  text.dropWhile fun c => !isBlank c

theorem isField_firstWord (visible : isBlank c = false) : IsField (firstWord (c :: text)) where
  present := by
    rw [firstWord, List.takeWhile_cons_of_pos (by rw [visible]; rfl)]
    exact List.cons_ne_nil _ _
  visible d member := by
    have kept := List.mem_takeWhile_imp (p := fun c => !isBlank c) member
    rwa [Bool.not_eq_true'] at kept

/-- A line that does not begin with a blank begins with its first word. -/
theorem words_of_visible (visible : isBlank c = false) :
    words (c :: text) = firstWord (c :: text) :: words (afterWord (c :: text)) := by
  have field : IsField (firstWord (c :: text)) := isField_firstWord visible
  have whole : firstWord (c :: text) ++ afterWord (c :: text) = c :: text :=
    List.takeWhile_append_dropWhile
  have behind := List.head?_dropWhile_not (fun c => !isBlank c) (c :: text)
  cases left : afterWord (c :: text) with
  | nil =>
      rw [left, List.append_nil] at whole
      rw [whole] at field ⊢
      exact words_eq_singleton field
  | cons d after =>
      rw [afterWord] at left
      rw [left] at behind
      have blank : isBlank d = true := by simpa using behind
      rw [afterWord, left] at whole
      conv_lhs => rw [← whole]
      rw [words_append_blank field blank, words_cons_blank blank]

/-- The first word stands in front of the others once the blanks before it are gone. -/
theorem exists_of_words_eq_cons {more : List (List Char)} (cut : words text = word :: more) :
    ∃ rest, trimStart text = word ++ rest ∧ IsField word ∧ words rest = more := by
  rw [← words_trimStart] at cut
  cases left : trimStart text with
  | nil =>
      rw [left] at cut
      cases cut
  | cons c others =>
      have visible := List.head?_dropWhile_not isBlank text
      rw [trimStart] at left
      rw [left] at visible
      rw [trimStart, left, words_of_visible visible] at cut
      obtain ⟨rfl, rfl⟩ := List.cons.inj cut
      exact ⟨_, List.takeWhile_append_dropWhile.symm, isField_firstWord visible, rfl⟩

theorem isField_of_mem_words (member : word ∈ words text) : IsField word := by
  induction cut : words text generalizing text with
  | nil =>
      rw [cut] at member
      cases member
  | cons first more ih =>
      obtain ⟨rest, -, field, others⟩ := exists_of_words_eq_cons cut
      rw [cut] at member
      rcases List.mem_cons.1 member with rfl | later
      · exact field
      · exact ih (others ▸ later) others

theorem words_ne_nil (member : c ∈ text) (visible : isBlank c = false) : words text ≠ [] := by
  intro none
  induction text with
  | nil => cases member
  | cons d rest ih =>
      cases blank : isBlank d with
      | true =>
          rw [words_cons_blank blank] at none
          rcases List.mem_cons.1 member with rfl | later
          · rw [visible] at blank
            cases blank
          · exact ih later none
      | false =>
          rw [words_of_visible blank] at none
          cases none

/-! ## Joining -/

/-- Fields with a blank between each two of them. -/
def joined (fields : List (List Char)) : List Char :=
  [' '].intercalate fields

theorem joined_cons_cons (first second : List Char) (rest : List (List Char)) :
    joined (first :: second :: rest) = first ++ ' ' :: joined (second :: rest) := by
  rw [joined, List.intercalate_cons_cons, List.append_assoc]
  rfl

theorem joined_singleton (field : List Char) : joined [field] = field :=
  List.intercalate_singleton ..

theorem joined_cons (field : List Char) (others : List (List Char)) :
    joined (field :: others) = field ++ others.flatMap (' ' :: ·) := by
  induction others generalizing field with
  | nil => rw [joined_singleton, List.flatMap_nil, List.append_nil]
  | cons next others ih => rw [joined_cons_cons, ih next, List.flatMap_cons, List.cons_append]

/-- Joined fields are found again as words. -/
theorem words_joined (each : ∀ field ∈ fields, IsField field) : words (joined fields) = fields := by
  induction fields with
  | nil => rfl
  | cons first rest ih =>
      obtain ⟨own, others⟩ := List.forall_mem_cons.1 each
      cases rest with
      | nil => rw [joined_singleton, words_eq_singleton own]
      | cons second rest => rw [joined_cons_cons, words_append_blank own rfl, ih others]

theorem IsField.isBlank_of_head? (field : IsField word) (c : Char)
    (head : (word ++ rest).head? = some c) : isBlank c = false := by
  obtain ⟨d, others, rfl⟩ := List.exists_cons_of_ne_nil field.present
  obtain rfl := Option.some.inj head
  exact field.visible d List.mem_cons_self

theorem isBlank_of_getLast?_joined (each : ∀ field ∈ fields, IsField field) (c : Char)
    (last : (joined fields).getLast? = some c) : isBlank c = false := by
  induction fields with
  | nil => cases last
  | cons first rest ih =>
      obtain ⟨own, others⟩ := List.forall_mem_cons.1 each
      cases rest with
      | nil =>
          rw [joined_singleton] at last
          exact own.visible c (List.mem_of_getLast? last)
      | cons second rest =>
          rw [joined_cons_cons, List.getLast?_append, List.getLast?_cons] at last
          cases found : (joined (second :: rest)).getLast? with
          | none =>
              rw [List.getLast?_eq_none_iff] at found
              have none := words_joined others
              rw [found] at none
              cases none
          | some d =>
              rw [found] at last
              exact ih others (found.trans last)

/-- Joined fields have no blanks around them. -/
theorem trim_joined (each : ∀ field ∈ fields, IsField field) :
    trim (joined fields) = joined fields := by
  refine trim_eq_self (fun c head => ?_) (isBlank_of_getLast?_joined each)
  cases fields with
  | nil => cases head
  | cons first rest =>
      obtain ⟨own, -⟩ := List.forall_mem_cons.1 each
      cases rest with
      | nil =>
          rw [joined_singleton, ← List.append_nil first] at head
          exact own.isBlank_of_head? c head
      | cons second rest =>
          rw [joined_cons_cons] at head
          exact own.isBlank_of_head? c head

/-! ## Places to cut -/

/-- A text begins with another one, and it may be cut after as many octets as that has: the place
lies inside the text and at the end of one of its characters. -/
structure CutsAfter (text front : List Char) : Prop where
  begins : front <+: text
  boundary : (String.ofList front).rawEndPos.IsValid (String.ofList text)

theorem cutsAfter_append (front rest : List Char) : CutsAfter (front ++ rest) front where
  begins := List.prefix_append front rest
  boundary := by
    rw [String.Pos.Raw.isValid_iff_exists_append]
    exact ⟨String.ofList front, String.ofList rest, String.ofList_append, rfl⟩

end DnsReconcile.Text
