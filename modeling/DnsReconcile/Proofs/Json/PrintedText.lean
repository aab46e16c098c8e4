/-
# Reading what was printed

The compact text of a value is recognised as that value. This needs two limits that readers
have: integers that fit into 64 bits, and arrays and objects that are not nested too deep.
Nothing is said of fractions, which are kept as their spelling, whatever that is.
-/

import DnsReconcile.Proofs.Json.PrintedScalars

namespace DnsReconcile.Json

variable {rest : List Char}

/-! ## Texts in quotes -/

theorem scanValue_quoted {steps level : Nat} {text chars : List Char}
    (found : scanQuoted none text = some ⟨some chars, rest⟩) :
    scanValue (steps + 1) level ('"' :: text) = (.string (String.ofList chars), rest) := by
  simp [scanValue, skipSpace, isSpace, found]

/-! ## Values -/

/-- A text that begins with a character that is neither space nor a closing bracket. -/
def Begins (text : List Char) : Prop :=
  ∃ c others, text = c :: others ∧ isSpace c = false ∧ c ≠ ']'

theorem Begins.append {text : List Char} (begins : Begins text) (rest : List Char) :
    Begins (text ++ rest) := by
  obtain ⟨c, others, rfl, visible, opens⟩ := begins
  exact ⟨c, others ++ rest, rfl, visible, opens⟩

theorem skipSpace_of_begins {text : List Char} (begins : Begins text) : skipSpace text = text := by
  obtain ⟨c, others, rfl, visible, -⟩ := begins
  exact List.dropWhile_cons_of_neg (Bool.eq_false_iff.1 visible)

mutual

/-- Whether a value at a level of arrays and objects can be read: nothing in it is a fraction,
too large or nested too deep. -/
def Readable (level : Nat) : Json → Prop
  | .null | .bool _ | .string _ => True
  | .number (.integer value) => FitsWord value
  | .number (.real _) => False
  | .array items => level ≤ depthLimit ∧ AllReadable (level + 1) items
  | .object members => level ≤ depthLimit ∧ MembersReadable (level + 1) members

/-- Whether the items of an array can be read. -/
def AllReadable (level : Nat) : List Json → Prop
  | [] => True
  | item :: rest => Readable level item ∧ AllReadable level rest

/-- Whether the values of the members of an object can be read. -/
def MembersReadable (level : Nat) : List (String × Json) → Prop
  | [] => True
  | (_, value) :: rest => Readable level value ∧ MembersReadable level rest

end

theorem allReadable_iff {level : Nat} {items : List Json} :
    AllReadable level items ↔ ∀ item ∈ items, Readable level item := by
  induction items with
  | nil => exact iff_of_true trivial fun _ member => absurd member List.not_mem_nil
  | cons item rest ih =>
      rw [List.forall_mem_cons, ← ih]
      rfl

theorem membersReadable_iff {level : Nat} {members : List (String × Json)} :
    MembersReadable level members ↔ ∀ member ∈ members, Readable level member.2 := by
  induction members with
  | nil => exact iff_of_true trivial fun _ member => absurd member List.not_mem_nil
  | cons member rest ih =>
      rw [List.forall_mem_cons, ← ih]
      rfl

/-- The text between the brackets of an array. -/
def itemsText (items : List Json) : List Char :=
  [','].intercalate ((printItems items).map String.toList)

/-- The text between the brackets of an object. -/
def membersText (members : List (String × Json)) : List Char :=
  [','].intercalate ((printMembers members).map String.toList)

theorem toList_quoted (text : String) :
    (quoted text).toList = '"' :: (text.toList.flatMap escapeChar ++ ['"']) := by
  rw [quoted, String.toList_ofList]
  rfl

theorem toList_print_array (items : List Json) :
    (print (.array items)).toList = '[' :: (itemsText items ++ [']']) := by
  rw [print, String.toList_append, String.toList_append, String.toList_intercalate]
  rfl

theorem toList_print_object (members : List (String × Json)) :
    (print (.object members)).toList = '\x7b' :: (membersText members ++ ['\x7d']) := by
  rw [print, String.toList_append, String.toList_append, String.toList_intercalate]
  rfl

/-- The text of a value that can be read is there and shows what it is. -/
theorem begins_print {value : Json} {level : Nat} (readable : Readable level value) :
    Begins (print value).toList := by
  cases value with
  | null => exact ⟨'n', _, rfl, rfl, by decide⟩
  | bool value => cases value <;> exact ⟨_, _, rfl, rfl, by decide⟩
  | string text => exact ⟨'"', _, toList_quoted text, rfl, by decide⟩
  | array items => exact ⟨'[', _, toList_print_array items, rfl, by decide⟩
  | object members => exact ⟨'\x7b', _, toList_print_object members, rfl, by decide⟩
  | number value =>
      cases value with
      | real spelling => exact readable.elim
      | integer value =>
          obtain ⟨c, others, text, start⟩ := exists_numeralStart value
          refine ⟨c, others, text, ?_, ?_⟩
          · refine Bool.eq_false_iff.2 fun space => ?_
            unfold isSpace at space
            simp only [Bool.or_eq_true, beq_iff_eq] at space
            rcases space with ((rfl | rfl) | rfl) | rfl <;> exact absurd start (by decide)
          · rintro rfl
            exact absurd start (by decide)

/-! ## Steps -/

section Steps

variable {steps level : Nat} {text : List Char}

theorem scanValue_numeral {numeral : Numeral} {c : Char} (start : isNumeralStart c = true)
    (found : scanNumeral (c :: text) = some (numeral, rest)) :
    scanValue (steps + 1) level (c :: text) = (numeral.toSource, rest) := by
  have other : ∀ d, isNumeralStart d = false → c ≠ d := by
    rintro d none rfl
    exact absurd (none.symm.trans start) Bool.false_ne_true
  have visible : ¬ isSpace c = true := by
    simp [isSpace, other ' ' rfl, other '\t' rfl, other '\n' rfl, other '\r' rfl]
  simp [scanValue, skipSpace, visible, found, other '"' rfl, other '[' rfl, other '\x7b' rfl,
    other 'n' rfl, other 't' rfl, other 'f' rfl]

theorem scanValue_emptyArray :
    scanValue (steps + 1) level ('[' :: ']' :: rest) =
      (atLevel level (.array [] .closed), rest) := by
  simp [scanValue, skipSpace, isSpace]

theorem scanValue_array {items : List Source} {ending : Ending} (begins : Begins text)
    (found : scanItems steps level text = (items, ending, rest)) :
    scanValue (steps + 1) level ('[' :: text) = (atLevel level (.array items ending), rest) := by
  have bracket : skipSpace ('[' :: text) = '[' :: text := rfl
  have kept := skipSpace_of_begins begins
  obtain ⟨c, others, rfl, -, opens⟩ := begins
  simp [scanValue, bracket, kept, opens, found]

theorem scanValue_emptyObject :
    scanValue (steps + 1) level ('\x7b' :: '\x7d' :: rest) =
      (atLevel level (.object [] .closed), rest) := by
  simp [scanValue, skipSpace, isSpace]

theorem scanValue_object {members : List (Option String × Source)} {ending : Ending}
    (found : scanMembers steps level ('"' :: text) = (members, ending, rest)) :
    scanValue (steps + 1) level ('\x7b' :: '"' :: text) =
      (atLevel level (.object members ending), rest) := by
  simp [scanValue, skipSpace, isSpace, found]

theorem scanItems_last {item : Source}
    (found : scanValue steps (level + 1) text = (item, ']' :: rest)) :
    scanItems (steps + 1) level text = ([item], .closed, rest) := by
  simp [scanItems, found, skipSpace, isSpace]

theorem scanItems_next {item : Source} {items : List Source} {ending : Ending}
    {others : List Char} (found : scanValue steps (level + 1) text = (item, ',' :: others))
    (following : scanItems steps level others = (items, ending, rest)) :
    scanItems (steps + 1) level text = (item :: items, ending, rest) := by
  simp [scanItems, found, following, skipSpace, isSpace]

section Member

variable {key behind : List Char} {value : Source}
variable (named : scanQuoted none text = some ⟨some key, ':' :: behind⟩)
include named

theorem scanMembers_last (found : scanValue steps (level + 1) behind = (value, '\x7d' :: rest)) :
    scanMembers (steps + 1) level ('"' :: text) =
      ([(some (String.ofList key), value)], .closed, rest) := by
  simp [scanMembers, named, found, skipSpace, isSpace]

theorem scanMembers_next {members : List (Option String × Source)} {ending : Ending}
    {others : List Char} (found : scanValue steps (level + 1) behind = (value, ',' :: others))
    (following : scanMembers steps level others = (members, ending, rest)) :
    scanMembers (steps + 1) level ('"' :: text) =
      ((some (String.ofList key), value) :: members, ending, rest) := by
  simp [scanMembers, named, found, following, skipSpace, isSpace]

end Member

end Steps

/-! ## Whole values -/

theorem itemsText_singleton (item : Json) : itemsText [item] = (print item).toList :=
  List.intercalate_singleton

theorem itemsText_cons (item next : Json) (others : List Json) :
    itemsText (item :: next :: others) =
      (print item).toList ++ ',' :: itemsText (next :: others) := by
  simp only [itemsText, printItems, List.map_cons]
  rw [List.intercalate_cons_cons, List.append_assoc]
  rfl

/-- The text of a member up to its value. -/
def keyText (key : String) : List Char :=
  (quoted key).toList ++ [':']

theorem membersText_singleton (key : String) (value : Json) :
    membersText [(key, value)] = keyText key ++ (print value).toList := by
  simp only [membersText, printMembers, List.map_cons, List.map_nil]
  rw [List.intercalate_singleton, String.toList_append, String.toList_append]
  rfl

theorem membersText_cons (key : String) (value : Json) (next : String × Json)
    (others : List (String × Json)) :
    membersText ((key, value) :: next :: others) =
      keyText key ++ (print value).toList ++ ',' :: membersText (next :: others) := by
  obtain ⟨key', value'⟩ := next
  simp only [membersText, printMembers, List.map_cons]
  rw [List.intercalate_cons_cons, List.append_assoc, String.toList_append, String.toList_append]
  rfl

theorem keyText_append (key : String) (text : List Char) :
    keyText key ++ text = '"' :: (key.toList.flatMap escapeChar ++ '"' :: ':' :: text) := by
  rw [keyText, toList_quoted, List.cons_append, List.cons_append, List.append_assoc,
    List.append_assoc]
  rfl

theorem exists_membersText (key : String) (value : Json) (others : List (String × Json)) :
    ∃ text, membersText ((key, value) :: others) = '"' :: text := by
  cases others with
  | nil => exact ⟨_, (membersText_singleton key value).trans (keyText_append key _)⟩
  | cons next others =>
      rw [membersText_cons, List.append_assoc]
      exact ⟨_, keyText_append key _⟩

theorem atLevel_of_le {level : Nat} (shallow : level ≤ depthLimit) (container : Source) :
    atLevel level container = container :=
  if_neg (Nat.not_lt.2 shallow)

section Parts

variable {steps level : Nat}

theorem scanValue_print_number {n : Int} (fits : FitsWord n) (ends : Delimits rest) :
    scanValue (steps + 1) level ((print (.number (.integer n))).toList ++ rest) =
      (.number (.integer n), rest) := by
  obtain ⟨c, others, text, start⟩ := exists_numeralStart n
  have numeral := scanNumeral_toDigits n.natAbs (decide (n < 0)) ends
  rw [← List.append_assoc, ← toList_print_integer, text, List.cons_append] at numeral
  rw [print, text, List.cons_append, scanValue_numeral start numeral, toSource_integer fits]

theorem scanValue_print_string (text : String) :
    scanValue (steps + 1) level ((print (.string text)).toList ++ rest) = (.string text, rest) := by
  have whole : (print (.string text)).toList ++ rest =
      '"' :: (text.toList.flatMap escapeChar ++ '"' :: rest) := by
    rw [print, toList_quoted, List.cons_append, List.append_assoc]
    rfl
  rw [whole, scanValue_quoted (scanQuoted_escaped _), String.ofList_toList]

theorem begins_itemsText {item : Json} {others : List Json}
    (readable : AllReadable level (item :: others)) : Begins (itemsText (item :: others)) := by
  cases others with
  | nil =>
      rw [itemsText_singleton]
      exact begins_print readable.1
  | cons next others =>
      rw [itemsText_cons]
      exact (begins_print readable.1).append _

/-- An array is recognised if its items are. -/
theorem scanValue_print_array {items : List Json} (readable : Readable level (.array items))
    (found : items ≠ [] → scanItems steps level (itemsText items ++ ']' :: rest) =
      (Source.ofValues items, .closed, rest)) :
    scanValue (steps + 1) level ((print (.array items)).toList ++ rest) =
      (Source.ofValue (.array items), rest) := by
  obtain ⟨shallow, all⟩ := readable
  rw [toList_print_array, List.cons_append, List.append_assoc, List.singleton_append]
  cases items with
  | nil =>
      show scanValue (steps + 1) level ('[' :: ']' :: rest) = _
      rw [scanValue_emptyArray, atLevel_of_le shallow]
      rfl
  | cons item others =>
      rw [scanValue_array ((begins_itemsText all).append _) (found (List.cons_ne_nil _ _)),
        atLevel_of_le shallow]
      rfl

/-- An object is recognised if its members are. -/
theorem scanValue_print_object {members : List (String × Json)} (shallow : level ≤ depthLimit)
    (found : members ≠ [] → scanMembers steps level (membersText members ++ '\x7d' :: rest) =
      (Source.ofMemberValues members, .closed, rest)) :
    scanValue (steps + 1) level ((print (.object members)).toList ++ rest) =
      (Source.ofValue (.object members), rest) := by
  rw [toList_print_object, List.cons_append, List.append_assoc, List.singleton_append]
  cases members with
  | nil =>
      show scanValue (steps + 1) level ('\x7b' :: '\x7d' :: rest) = _
      rw [scanValue_emptyObject, atLevel_of_le shallow]
      rfl
  | cons member others =>
      obtain ⟨key, value⟩ := member
      obtain ⟨text, opens⟩ := exists_membersText key value others
      have found := found (List.cons_ne_nil _ _)
      rw [opens, List.cons_append] at found ⊢
      rw [scanValue_object found, atLevel_of_le shallow]
      rfl

/-- A list of items is recognised if the first one and the others are. -/
theorem scanItems_print_cons {item : Json} {others : List Json}
    (found : ∀ rest, Delimits rest → scanValue steps (level + 1) ((print item).toList ++ rest) =
      (Source.ofValue item, rest))
    (following : others ≠ [] → scanItems steps level (itemsText others ++ ']' :: rest) =
      (Source.ofValues others, .closed, rest)) :
    scanItems (steps + 1) level (itemsText (item :: others) ++ ']' :: rest) =
      (Source.ofValues (item :: others), .closed, rest) := by
  cases others with
  | nil =>
      rw [itemsText_singleton]
      exact scanItems_last (found _ (delimits_cons (by decide)))
  | cons next others =>
      rw [itemsText_cons, List.append_assoc, List.cons_append]
      exact scanItems_next (found _ (delimits_cons (by decide))) (following (List.cons_ne_nil _ _))

/-- A list of members is recognised if the first one and the others are. -/
theorem scanMembers_print_cons {key : String} {value : Json} {others : List (String × Json)}
    (found : ∀ rest, Delimits rest → scanValue steps (level + 1) ((print value).toList ++ rest) =
      (Source.ofValue value, rest))
    (following : others ≠ [] → scanMembers steps level (membersText others ++ '\x7d' :: rest) =
      (Source.ofMemberValues others, .closed, rest)) :
    scanMembers (steps + 1) level (membersText ((key, value) :: others) ++ '\x7d' :: rest) =
      (Source.ofMemberValues ((key, value) :: others), .closed, rest) := by
  cases others with
  | nil =>
      rw [membersText_singleton, List.append_assoc, keyText_append,
        scanMembers_last (scanQuoted_escaped key.toList) (found _ (delimits_cons (by decide))),
        String.ofList_toList]
      rfl
  | cons next others =>
      rw [membersText_cons, List.append_assoc, List.append_assoc, List.cons_append,
        keyText_append, scanMembers_next (scanQuoted_escaped key.toList)
          (found _ (delimits_cons (by decide))) (following (List.cons_ne_nil _ _)),
        String.ofList_toList]
      rfl

theorem length_itemsText_cons (item : Json) (others : List Json) :
    (print item).toList.length ≤ (itemsText (item :: others)).length ∧
      (others ≠ [] → (itemsText others).length < (itemsText (item :: others)).length) := by
  cases others with
  | nil => simp [itemsText_singleton]
  | cons next others =>
      rw [itemsText_cons, List.length_append, List.length_cons]
      exact ⟨Nat.le_add_right _ _, fun _ => by omega⟩

theorem length_membersText_cons (key : String) (value : Json) (others : List (String × Json)) :
    (print value).toList.length ≤ (membersText ((key, value) :: others)).length ∧
      (others ≠ [] →
        (membersText others).length < (membersText ((key, value) :: others)).length) := by
  cases others with
  | nil => simp [membersText_singleton]
  | cons next others =>
      rw [membersText_cons, List.length_append, List.length_append, List.length_cons]
      exact ⟨by omega, fun _ => by omega⟩

end Parts

mutual

/-- A printed value is recognised as that value, up to what follows it. -/
theorem scanValue_print (value : Json) {steps level : Nat} {rest : List Char}
    (readable : Readable level value) (enough : (print value).toList.length < steps)
    (ends : Delimits rest) :
    scanValue steps level ((print value).toList ++ rest) = (Source.ofValue value, rest) := by
  obtain ⟨steps, rfl⟩ := Nat.exists_eq_succ_of_ne_zero (Nat.ne_zero_of_lt enough)
  cases value with
  | null => simp [scanValue, skipSpace, isSpace, scanWord, print, Source.ofValue]
  | bool value =>
      cases value <;> simp [scanValue, skipSpace, isSpace, scanWord, print, Source.ofValue]
  | string text => exact scanValue_print_string text
  | number n =>
      cases n with
      | integer n => exact scanValue_print_number readable ends
      | real _ => exact readable.elim
  | array items =>
      rw [toList_print_array, List.length_cons, List.length_append, List.length_singleton] at enough
      exact scanValue_print_array readable fun present =>
        scanItems_print items present readable.2 (by omega)
  | object members =>
      rw [toList_print_object, List.length_cons, List.length_append, List.length_singleton]
        at enough
      exact scanValue_print_object readable.1 fun present =>
        scanMembers_print members present readable.2 (by omega)
termination_by structural value

/-- So are the items of an array. -/
theorem scanItems_print (items : List Json) {steps level : Nat} {rest : List Char}
    (present : items ≠ []) (readable : AllReadable (level + 1) items)
    (enough : (itemsText items).length + 1 < steps) :
    scanItems steps level (itemsText items ++ ']' :: rest) =
      (Source.ofValues items, .closed, rest) := by
  obtain ⟨steps, rfl⟩ := Nat.exists_eq_succ_of_ne_zero (Nat.ne_zero_of_lt enough)
  cases items with
  | nil => exact absurd rfl present
  | cons item others =>
      obtain ⟨first, later⟩ := length_itemsText_cons item others
      refine scanItems_print_cons
        (fun _ ends => scanValue_print item readable.1 (by omega) ends) fun more => ?_
      have shorter := later more
      exact scanItems_print others more readable.2 (by omega)
termination_by structural items

/-- And so are the members of an object. -/
theorem scanMembers_print (members : List (String × Json)) {steps level : Nat} {rest : List Char}
    (present : members ≠ []) (readable : MembersReadable (level + 1) members)
    (enough : (membersText members).length + 1 < steps) :
    scanMembers steps level (membersText members ++ '\x7d' :: rest) =
      (Source.ofMemberValues members, .closed, rest) := by
  obtain ⟨steps, rfl⟩ := Nat.exists_eq_succ_of_ne_zero (Nat.ne_zero_of_lt enough)
  cases members with
  | nil => exact absurd rfl present
  | cons member others =>
      obtain ⟨key, value⟩ := member
      obtain ⟨first, later⟩ := length_membersText_cons key value others
      refine scanMembers_print_cons
        (fun _ ends => scanValue_print value readable.1 (by omega) ends) fun more => ?_
      have shorter := later more
      exact scanMembers_print others more readable.2 (by omega)
termination_by structural members

end

/-- A printed value is recognised as that value, with nothing after it. -/
theorem scan_print {value : Json} (readable : Readable 1 value) :
    scan (print value) = ⟨Source.ofValue value, .closed⟩ := by
  have whole : scanValue ((print value).toList.length + 2) 1 ((print value).toList ++ []) =
      (Source.ofValue value, []) :=
    scanValue_print value readable (by omega) delimits_nil
  rw [List.append_nil] at whole
  simp only [scan]
  rw [whole]
  rfl

end DnsReconcile.Json
