/-
# The written forms of addresses

Every address is read from the form in which it is written. Two things need an argument for
the longer addresses: the zero groups that are left out are those that are put back, and no
other place of the text looks as if groups were left out there.
-/

import DnsReconcile.Address.IPv6
import DnsReconcile.Proofs.Text.Digits
import DnsReconcile.Proofs.Text.Trimming

namespace DnsReconcile

open Text

/-- A character between joined pieces is the separator, or it is in one of the pieces. -/
theorem mem_intercalate {separator c : Char} {pieces : List (List Char)}
    (member : c ∈ [separator].intercalate pieces) :
    c = separator ∨ ∃ piece ∈ pieces, c ∈ piece := by
  induction pieces with
  | nil => exact absurd member List.not_mem_nil
  | cons piece rest ih =>
      cases rest with
      | nil =>
          rw [List.intercalate_singleton] at member
          exact Or.inr ⟨piece, List.mem_cons_self, member⟩
      | cons next rest =>
          rw [List.intercalate_cons_cons, List.mem_append, List.mem_append,
            List.mem_singleton] at member
          rcases member with (first | same) | later
          · exact Or.inr ⟨piece, List.mem_cons_self, first⟩
          · exact Or.inl same
          · obtain same | ⟨own, known, inside⟩ := ih later
            · exact Or.inl same
            · exact Or.inr ⟨own, List.mem_cons_of_mem _ known, inside⟩

theorem isBlank_of_hexDigit? {c : Char} (digit : (hexDigit? c).isSome = true) :
    isBlank c = false := by
  unfold hexDigit? at digit
  dsimp only at digit
  unfold isBlank
  simp only [Bool.or_eq_false_iff, Bool.and_eq_false_iff, decide_eq_false_iff_not,
    beq_eq_false_iff_ne]
  split at digit
  · omega
  · split at digit
    · omega
    · split at digit
      · omega
      · exact absurd digit Bool.false_ne_true

/-- A text without blanks is trimmed. -/
theorem trim_eq_self_of_visible {text : List Char} (visible : ∀ c ∈ text, isBlank c = false) :
    trim text = text :=
  trim_eq_self (fun c head => visible c (List.mem_of_mem_head? head))
    fun c last => visible c (List.mem_of_getLast? last)

/-! ## IPv4 -/

namespace IPv4

theorem readOctet?_toDigits (octet : UInt8) :
    readOctet? (Nat.toDigits 10 octet.toNat) = some octet := by
  have short : (Nat.toDigits 10 octet.toNat).length ≤ 3 :=
    (Nat.length_toDigits_le_iff (by decide) (by decide)).2
      (Nat.lt_trans octet.toNat_lt_size (by decide))
  have digits : (Nat.toDigits 10 octet.toNat).all Char.isDigit = true :=
    List.all_eq_true.2 fun _ member => isDigit_of_mem_toDigits member
  have plain : ¬ (3 < (Nat.toDigits 10 octet.toNat).length ||
      !(Nat.toDigits 10 octet.toNat).all Char.isDigit ||
      (1 < (Nat.toDigits 10 octet.toNat).length &&
        (Nat.toDigits 10 octet.toNat).head? == some '0')) = true := by
    have natural := head?_toDigits_of_long (n := octet.toNat)
    simp only [Bool.or_eq_true, decide_eq_true_eq, Bool.and_eq_true, beq_iff_eq, digits,
      Bool.not_true, Bool.false_eq_true, or_false]
    rintro (long | ⟨long, zero⟩)
    · omega
    · exact natural long zero
  rw [readOctet?, if_neg plain, readUInt8?_toDigits]

/-- The octets of an address as they are written. -/
def pieces (address : IPv4) : List (List Char) :=
  [address.first, address.second, address.third, address.fourth].map fun octet =>
    Nat.toDigits 10 octet.toNat

theorem toList_print (address : IPv4) :
    address.print.toList = ['.'].intercalate address.pieces := by
  rw [print, String.toList_intercalate]
  simp only [List.map_cons, List.map_nil, toList_uint8]
  rfl

theorem isDigit_of_mem_pieces {address : IPv4} {piece : List Char} {c : Char}
    (known : piece ∈ address.pieces) (member : c ∈ piece) : c.isDigit = true := by
  obtain ⟨octet, -, rfl⟩ := List.mem_map.1 known
  exact isDigit_of_mem_toDigits member

/-- An address is written with digits and dots, and there is a dot. -/
theorem mem_print {address : IPv4} {c : Char} (member : c ∈ address.print.toList) :
    c = '.' ∨ (hexDigit? c).isSome = true := by
  rw [toList_print] at member
  refine (mem_intercalate member).imp id fun ⟨piece, known, inside⟩ => ?_
  obtain ⟨octet, -, rfl⟩ := List.mem_map.1 known
  exact isSome_hexDigit?_of_mem_toDigits (by decide) (by decide) inside

theorem trim_print (address : IPv4) : trim address.print.toList = address.print.toList := by
  refine trim_eq_self_of_visible fun c member => ?_
  rcases mem_print member with rfl | digit
  · rfl
  · exact isBlank_of_hexDigit? digit

theorem dot_mem_print (address : IPv4) : '.' ∈ address.print.toList := by
  rw [toList_print, pieces, List.map_cons, List.map_cons, List.intercalate_cons_cons]
  simp

theorem read?_print (address : IPv4) : read? address.print.toList = some address := by
  have dotless : ∀ piece ∈ address.pieces, '.' ∉ piece := fun piece known dot =>
    absurd (isDigit_of_mem_pieces known dot) (by decide)
  rw [toList_print, read?, List.splitOn_intercalate '.' dotless (List.cons_ne_nil _ _)]
  simp [pieces, readOctet?_toDigits]

end IPv4

/-! ## IPv6 -/

namespace IPv6

/-- A group as it is written. -/
def groupText (group : UInt16) : List Char :=
  Nat.toDigits 16 group.toNat

/-- Groups with colons between them. -/
def groupsText (groups : List UInt16) : List Char :=
  [':'].intercalate (groups.map groupText)

theorem toList_printGroups (groups : List UInt16) :
    (printGroups groups).toList = groupsText groups := by
  rw [printGroups, String.toList_intercalate, List.map_map]
  refine congrArg _ (List.map_congr_left fun group _ => ?_)
  exact String.toList_ofList

theorem hexDigit_of_mem_groupText {group : UInt16} {c : Char} (member : c ∈ groupText group) :
    (hexDigit? c).isSome = true :=
  isSome_hexDigit?_of_mem_toDigits (by decide) (by decide) member

theorem colon_not_mem_groupText (group : UInt16) : ':' ∉ groupText group := fun member =>
  absurd (hexDigit_of_mem_groupText member) (by decide)

theorem dot_not_mem_groupText (group : UInt16) : '.' ∉ groupText group := fun member =>
  absurd (hexDigit_of_mem_groupText member) (by decide)

theorem readGroup?_groupText (group : UInt16) : readGroup? (groupText group) = some group := by
  have present : (groupText group).isEmpty = false :=
    List.isEmpty_eq_false_iff.2 Nat.toDigits_ne_nil
  have short : ¬ 4 < (groupText group).length := by
    rw [Nat.not_lt]
    exact (Nat.length_toDigits_le_iff (by decide) (by decide)).2
      (Nat.lt_of_lt_of_le group.toNat_lt_size (by decide))
  obtain ⟨digits, read, whole⟩ := mapM_hexDigit?_toDigits group.toNat
  have back : UInt16.ofNat group.toNat = group := UInt16.ofNat_toNat
  unfold readGroup?
  rw [present, if_neg (by simp [short])]
  simp [groupText, read, whole, back]

theorem readPieces?_map_groupText (dotted : Bool) (groups : List UInt16) :
    readPieces? dotted (groups.map groupText) = some groups := by
  induction groups with
  | nil => rfl
  | cons group rest ih =>
      cases rest with
      | nil => simp [readPieces?, dot_not_mem_groupText, readGroup?_groupText]
      | cons next rest =>
          simp only [List.map_cons] at ih ⊢
          simp [readPieces?, readGroup?_groupText, ih]

theorem groupsText_cons (group next : UInt16) (rest : List UInt16) :
    groupsText (group :: next :: rest) = groupText group ++ ':' :: groupsText (next :: rest) := by
  simp only [groupsText, List.map_cons]
  rw [List.intercalate_cons_cons, List.append_assoc]
  rfl

/-- Groups begin with a digit. -/
theorem exists_digit_groupsText (group : UInt16) (rest : List UInt16) :
    ∃ c text, groupsText (group :: rest) = c :: text ∧ (hexDigit? c).isSome = true := by
  obtain ⟨c, others, text⟩ := List.exists_cons_of_ne_nil
    (show groupText group ≠ [] from Nat.toDigits_ne_nil)
  have digit := hexDigit_of_mem_groupText (text ▸ List.mem_cons_self : c ∈ groupText group)
  cases rest with
  | nil =>
      refine ⟨c, others, ?_, digit⟩
      rw [← text]
      exact List.intercalate_singleton
  | cons next rest =>
      refine ⟨c, others ++ ':' :: groupsText (next :: rest), ?_, digit⟩
      rw [groupsText_cons, text]
      rfl

theorem readGroups?_groupsText (dotted : Bool) (groups : List UInt16) :
    readGroups? dotted (groupsText groups) = some groups := by
  cases groups with
  | nil => rfl
  | cons group rest =>
      obtain ⟨c, text, begins, -⟩ := exists_digit_groupsText group rest
      have present : ¬ (groupsText (group :: rest)).isEmpty = true := by
        rw [begins]
        exact Bool.false_ne_true
      have colonless : ∀ piece ∈ (group :: rest).map groupText, ':' ∉ piece := by
        intro piece member
        obtain ⟨group, -, rfl⟩ := List.mem_map.1 member
        exact colon_not_mem_groupText group
      rw [readGroups?, if_neg present, groupsText,
        List.splitOn_intercalate ':' colonless (by simp)]
      exact readPieces?_map_groupText dotted _

/-! ### Groups that are left out -/

theorem splitElision?_append {piece rest : List Char} (colonless : ':' ∉ piece) :
    splitElision? (piece ++ rest) =
      (splitElision? rest).map fun parts => (piece ++ parts.1, parts.2) := by
  induction piece with
  | nil => simp
  | cons c piece ih =>
      rw [List.mem_cons, not_or] at colonless
      rw [List.cons_append, splitElision?.eq_2, ih colonless.2, Option.map_map]
      · rfl
      · rintro - rfl
        exact absurd rfl colonless.1

/-- Nothing is left out between groups. -/
theorem splitElision?_groupsText (groups : List UInt16) (rest : List Char) :
    splitElision? (groupsText groups ++ rest) =
      (splitElision? rest).map fun parts => (groupsText groups ++ parts.1, parts.2) := by
  induction groups with
  | nil => simp [groupsText]
  | cons group others ih =>
      cases others with
      | nil =>
          have alone : groupsText [group] = groupText group := List.intercalate_singleton
          rw [alone, splitElision?_append (colon_not_mem_groupText group)]
      | cons next others =>
          obtain ⟨c, text, begins, digit⟩ := exists_digit_groupsText next others
          have colon : splitElision? (':' :: (groupsText (next :: others) ++ rest)) =
              (splitElision? (groupsText (next :: others) ++ rest)).map
                fun parts => (':' :: parts.1, parts.2) := by
            rw [begins, List.cons_append, splitElision?.eq_2]
            rintro others - same
            obtain ⟨rfl, -⟩ := List.cons_eq_cons.1 same
            exact absurd digit (by decide)
          rw [groupsText_cons, List.append_assoc, List.cons_append,
            splitElision?_append (colon_not_mem_groupText group), colon, ih]
          simp [Function.comp_def]

theorem leadingZeros_spec (groups : List UInt16) :
    List.replicate (leadingZeros groups) 0 ++ groups.drop (leadingZeros groups) = groups := by
  induction groups with
  | nil => rfl
  | cons group rest ih =>
      unfold leadingZeros at ih ⊢
      by_cases zero : group = 0
      · rw [zero, List.takeWhile_cons_of_pos (by rfl), List.length_cons, List.replicate_succ,
          List.drop_succ_cons, List.cons_append, ih]
      · rw [List.takeWhile_cons_of_neg (by simpa using zero)]
        rfl

/-- The longest run of zero groups is one. -/
theorem longestZeros_spec (groups : List UInt16) :
    groups.take (longestZeros groups).1 ++
      (List.replicate (longestZeros groups).2 0 ++
        groups.drop ((longestZeros groups).1 + (longestZeros groups).2)) = groups := by
  induction groups with
  | nil => rfl
  | cons group rest ih =>
      simp only [longestZeros]
      split
      · rw [List.take_zero, List.nil_append, Nat.zero_add]
        exact leadingZeros_spec (group :: rest)
      · rw [List.take_succ_cons, List.cons_append, Nat.add_right_comm, List.drop_succ_cons, ih]

/-! ### Whole addresses -/

theorem ofGroups?_groups (address : IPv6) : ofGroups? address.groups = some address := by
  rw [ofGroups?, dif_pos address.length_groups]

theorem read?_groupsText (address : IPv6) : read? (groupsText address.groups) = some address := by
  have whole := splitElision?_groupsText address.groups []
  rw [List.append_nil] at whole
  rw [read?, whole]
  show (readGroups? true (groupsText address.groups)).bind ofGroups? = _
  rw [readGroups?_groupsText]
  exact ofGroups?_groups address

/-- Groups that are left out are put back. -/
theorem read?_elided (address : IPv6) {front back : List UInt16} {zeros : Nat}
    (whole : front ++ (List.replicate zeros 0 ++ back) = address.groups) (some_zero : 0 < zeros) :
    read? (groupsText front ++ ':' :: ':' :: groupsText back) = some address := by
  have size := congrArg List.length whole
  rw [address.length_groups, List.length_append, List.length_append, List.length_replicate] at size
  have room : front.length + back.length ≤ 7 := by omega
  have left_out : 8 - front.length - back.length = zeros := by omega
  have here : splitElision? (groupsText front ++ ':' :: ':' :: groupsText back) =
      some (groupsText front, groupsText back) := by
    rw [splitElision?_groupsText]
    simp [splitElision?]
  rw [read?, here]
  simp only [readGroups?_groupsText]
  simp only [Option.bind_eq_bind, Option.bind_some, if_pos room, left_out, List.append_assoc, whole]
  exact ofGroups?_groups address

/-- The two last groups are written as one IPv4 address. -/
theorem groupsOfIPv4_tailAddress (high low : UInt16) :
    groupsOfIPv4 (tailAddress high low) = [high, low] := by
  have back (group : UInt16) :
      (group >>> 8).toUInt8.toUInt16 * 256 + group.toUInt8.toUInt16 = group := by
    have high : group.toNat / 256 < 256 := by
      have bound := group.toNat_lt_size
      simp only [UInt16.size] at bound
      omega
    rw [← UInt16.toNat_inj]
    simp only [UInt16.toNat_add, UInt16.toNat_mul, UInt8.toNat_toUInt16, UInt16.toNat_toUInt8,
      UInt16.toNat_shiftRight, UInt16.reduceToNat, Nat.shiftRight_eq_div_pow,
      Nat.reduceMod, Nat.reducePow]
    omega
  rw [groupsOfIPv4, tailAddress, back, back]

theorem readGroups?_mapped (high low : UInt16) :
    readGroups? true (['f', 'f', 'f', 'f'] ++ ':' :: (tailAddress high low).print.toList) =
      some [0xFFFF, high, low] := by
  have colonless : ':' ∉ (tailAddress high low).print.toList := fun member => by
    rcases IPv4.mem_print member with same | digit
    · exact absurd same (by decide)
    · exact absurd digit (by decide)
  have dotted := IPv4.dot_mem_print (tailAddress high low)
  have group : readGroup? ['f', 'f', 'f', 'f'] = some 0xFFFF := by decide
  rw [readGroups?, if_neg (by simp), List.splitOn_append_cons_self_of_not_mem (by decide),
    List.splitOn_eq_singleton colonless]
  simp [readPieces?, group, dotted, IPv4.read?_print, groupsOfIPv4_tailAddress]

theorem read?_mapped (address : IPv6) {high low : UInt16}
    (mapped : address.groups = [0, 0, 0, 0, 0, 0xFFFF, high, low]) :
    read? ("::ffff:" ++ (tailAddress high low).print).toList = some address := by
  have text : ("::ffff:" ++ (tailAddress high low).print).toList =
      ':' :: ':' :: (['f', 'f', 'f', 'f'] ++ ':' :: (tailAddress high low).print.toList) := by
    rw [String.toList_append]
    rfl
  have left_out : splitElision?
      (':' :: ':' :: (['f', 'f', 'f', 'f'] ++ ':' :: (tailAddress high low).print.toList)) =
      some ([], ['f', 'f', 'f', 'f'] ++ ':' :: (tailAddress high low).print.toList) := by
    rw [splitElision?]
  have front : readGroups? false [] = some [] := rfl
  rw [text, read?, left_out]
  simp only [front, readGroups?_mapped, Option.bind_eq_bind, Option.bind_some]
  rw [← ofGroups?_groups address, mapped]
  rfl

theorem read?_print (address : IPv6) : read? address.print.toList = some address := by
  unfold print
  split
  · next high low mapped => exact read?_mapped address mapped
  · dsimp only
    split
    · next long =>
      rw [String.toList_append, String.toList_append, toList_printGroups, toList_printGroups,
        List.append_assoc]
      exact read?_elided address (longestZeros_spec address.groups) (by omega)
    · rw [toList_printGroups]
      exact read?_groupsText address

/-- Hexadecimal digits, colons and dots. -/
def isAddressChar (c : Char) : Bool :=
  (hexDigit? c).isSome || c == ':' || c == '.'

theorem isAddressChar_of_mem_groupsText {groups : List UInt16} {c : Char}
    (member : c ∈ groupsText groups) : isAddressChar c = true := by
  rcases mem_intercalate member with rfl | ⟨piece, known, inside⟩
  · rfl
  · obtain ⟨group, -, rfl⟩ := List.mem_map.1 known
    rw [isAddressChar, hexDigit_of_mem_groupText inside, Bool.true_or, Bool.true_or]

theorem isAddressChar_of_mem_print {address : IPv6} {c : Char}
    (member : c ∈ address.print.toList) : isAddressChar c = true := by
  unfold print at member
  split at member
  · rw [String.toList_append, List.mem_append] at member
    rcases member with front | back
    · have each : [':', ':', 'f', 'f', 'f', 'f', ':'].all isAddressChar = true := rfl
      exact List.all_eq_true.1 each c front
    · rcases IPv4.mem_print back with rfl | digit
      · rfl
      · rw [isAddressChar, digit, Bool.true_or, Bool.true_or]
  · dsimp only at member
    split at member
    · rw [String.toList_append, String.toList_append, List.mem_append, List.mem_append,
        toList_printGroups, toList_printGroups] at member
      rcases member with (front | colons) | back
      · exact isAddressChar_of_mem_groupsText front
      · have each : [':', ':'].all isAddressChar = true := rfl
        exact List.all_eq_true.1 each c colons
      · exact isAddressChar_of_mem_groupsText back
    · rw [toList_printGroups] at member
      exact isAddressChar_of_mem_groupsText member

theorem trim_print (address : IPv6) : trim address.print.toList = address.print.toList := by
  refine trim_eq_self_of_visible fun c member => ?_
  have known := isAddressChar_of_mem_print member
  simp only [isAddressChar, Bool.or_eq_true, beq_iff_eq] at known
  rcases known with (digit | rfl) | rfl
  · exact isBlank_of_hexDigit? digit
  · rfl
  · rfl

end IPv6

end DnsReconcile
