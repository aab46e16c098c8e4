/-
# Digits of numbers

Numbers as they are written, in decimal without a leading zero or in hexadecimal, are read as
the numbers they were.
-/

import DnsReconcile.Text.Blank
import DnsReconcile.Text.Numeral
import Mathlib.Data.List.Basic
import Mathlib.Data.Nat.Digits.Defs

namespace DnsReconcile.Text

variable {n bound : Nat} {c : Char}

/-- A positive number does not begin with a zero. -/
theorem head?_toDigits (positive : 0 < n) : (Nat.toDigits 10 n).head? ≠ some '0' := by
  induction n using Nat.strongRecOn with
  | ind n ih =>
      by_cases small : n < 10
      · rw [Nat.toDigits_of_lt_base small, List.head?_cons, Ne, Option.some.injEq,
          Nat.digitChar_eq_zero]
        omega
      · rw [Nat.toDigits_of_base_le (by decide) (by omega),
          List.head?_append_of_ne_nil _ Nat.toDigits_ne_nil]
        exact ih (n / 10) (by omega) (by omega)

/-- A zero in front is the only digit. -/
theorem head?_toDigits_of_long (long : 1 < (Nat.toDigits 10 n).length) :
    (Nat.toDigits 10 n).head? ≠ some '0' := by
  have large : ¬ n < 10 := fun small => by
    rw [Nat.toDigits_of_lt_base small] at long
    exact absurd long (by simp)
  exact head?_toDigits (by omega)

theorem isDigit_of_mem_toDigits (member : c ∈ Nat.toDigits 10 n) : c.isDigit = true :=
  Nat.isDigit_of_mem_toDigits (by decide) (by decide) member

theorem isBlank_of_isDigit (digit : c.isDigit = true) : isBlank c = false := by
  have bounds : 48 ≤ c.toNat ∧ c.toNat ≤ 57 := Char.isDigit_iff_toNat.1 digit
  simp only [isBlank, Bool.or_eq_false_iff, Bool.and_eq_false_iff, decide_eq_false_iff_not,
    beq_eq_false_iff_ne]
  omega

/-- Plain digits are read as the number they stand for, if that is below the bound. -/
theorem readNat?_toDigits_eq (n bound : Nat) :
    readNat? bound (Nat.toDigits 10 n) = if n < bound then some n else none := by
  have digits : (Nat.toDigits 10 n).all Char.isDigit = true :=
    List.all_eq_true.2 fun _ member => isDigit_of_mem_toDigits member
  have present : (Nat.toDigits 10 n).isEmpty = false :=
    List.isEmpty_eq_false_iff.2 Nat.toDigits_ne_nil
  have plain : unsigned (Nat.toDigits 10 n) = Nat.toDigits 10 n := by
    unfold unsigned
    split
    · next rest signed =>
      have sign : '+' ∈ Nat.toDigits 10 n := signed ▸ List.mem_cons_self
      exact absurd (isDigit_of_mem_toDigits sign) (by decide)
    · rfl
  simp [readNat?, plain, digits, present, Nat.ofDigitChars_ten_toDigits]

theorem readNat?_toDigits (below : n < bound) : readNat? bound (Nat.toDigits 10 n) = some n := by
  rw [readNat?_toDigits_eq, if_pos below]

theorem eq_of_readNat?_toDigits {value : Nat}
    (read : readNat? bound (Nat.toDigits 10 n) = some value) : n = value ∧ n < bound := by
  rw [readNat?_toDigits_eq, Option.ite_none_right_eq_some] at read
  exact ⟨Option.some.inj read.2, read.1⟩

/-- A number ends at the space behind it. -/
theorem toDigits_append_space_inj {n m : Nat} {rest others : List Char} :
    Nat.toDigits 10 n ++ (" ".toList ++ rest) = Nat.toDigits 10 m ++ (" ".toList ++ others) ↔
      n = m ∧ rest = others := by
  apply Iff.intro
  · intro same
    have front (k : Nat) (text : List Char) :
        (Nat.toDigits 10 k ++ (" ".toList ++ text)).takeWhile Char.isDigit = Nat.toDigits 10 k := by
      rw [List.takeWhile_append_of_pos fun c member => isDigit_of_mem_toDigits member]
      exact List.append_nil _
    have digits : Nat.toDigits 10 n = Nat.toDigits 10 m := by
      rw [← front n rest, same, front]
    refine ⟨?_, ?_⟩
    · rw [← @Nat.ofDigitChars_ten_toDigits n, digits, Nat.ofDigitChars_ten_toDigits]
    · rw [digits] at same
      exact List.append_cancel_left (List.append_cancel_left same)
  · rintro ⟨rfl, rfl⟩
    rfl

/-! ## Numbers of some width -/

theorem toList_uint8 (n : UInt8) : (toString n).toList = Nat.toDigits 10 n.toNat := by
  show (toString n.toNat).toList = _
  rw [Nat.toString_eq_ofList_toDigits, String.toList_ofList]

theorem toList_uint16 (n : UInt16) : (toString n).toList = Nat.toDigits 10 n.toNat := by
  show (toString n.toNat).toList = _
  rw [Nat.toString_eq_ofList_toDigits, String.toList_ofList]

theorem toList_uint32 (n : UInt32) : (toString n).toList = Nat.toDigits 10 n.toNat := by
  show (toString n.toNat).toList = _
  rw [Nat.toString_eq_ofList_toDigits, String.toList_ofList]

theorem readUInt8?_toDigits (n : UInt8) : readUInt8? (Nat.toDigits 10 n.toNat) = some n := by
  rw [readUInt8?, readNat?_toDigits n.toNat_lt_size]
  exact congrArg some UInt8.ofNat_toNat

theorem readUInt16?_toDigits (n : UInt16) : readUInt16? (Nat.toDigits 10 n.toNat) = some n := by
  rw [readUInt16?, readNat?_toDigits n.toNat_lt_size]
  exact congrArg some UInt16.ofNat_toNat

theorem readUInt32?_toDigits (n : UInt32) : readUInt32? (Nat.toDigits 10 n.toNat) = some n := by
  rw [readUInt32?, readNat?_toDigits n.toNat_lt_size]
  exact congrArg some UInt32.ofNat_toNat

theorem eq_toNat_of_readUInt16? {value : UInt16}
    (read : readUInt16? (Nat.toDigits 10 n) = some value) : n = value.toNat := by
  obtain ⟨m, number, rfl⟩ := Option.map_eq_some_iff.1 read
  obtain ⟨rfl, below⟩ := eq_of_readNat?_toDigits number
  exact (UInt16.toNat_ofNat_of_lt below).symm

theorem eq_toNat_of_readUInt32? {value : UInt32}
    (read : readUInt32? (Nat.toDigits 10 n) = some value) : n = value.toNat := by
  obtain ⟨m, number, rfl⟩ := Option.map_eq_some_iff.1 read
  obtain ⟨rfl, below⟩ := eq_of_readNat?_toDigits number
  exact (UInt32.toNat_ofNat_of_lt below).symm

/-! ## Hexadecimal digits -/

theorem hexDigit?_digitChar {digit : Nat} (small : digit < 16) :
    hexDigit? digit.digitChar = some digit := by
  have each : ∀ digit < 16, hexDigit? digit.digitChar = some digit := by decide
  exact each digit small

/-- Hexadecimal digits are read one by one, and together they have the value of the number. -/
theorem mapM_hexDigit?_toDigits (n : Nat) :
    ∃ digits, (Nat.toDigits 16 n).mapM hexDigit? = some digits ∧
      digits.foldl (fun value digit => value * 16 + digit) 0 = n := by
  induction n using Nat.strongRecOn with
  | ind n ih =>
      by_cases small : n < 16
      · refine ⟨[n], ?_, by simp⟩
        rw [Nat.toDigits_of_lt_base small]
        simp [hexDigit?_digitChar small]
      · obtain ⟨digits, read, whole⟩ := ih (n / 16) (by omega)
        have last : hexDigit? (n % 16).digitChar = some (n % 16) :=
          hexDigit?_digitChar (Nat.mod_lt _ (by decide))
        refine ⟨digits ++ [n % 16], ?_, ?_⟩
        · rw [Nat.toDigits_of_base_le (by decide) (by omega), List.mapM_append, read]
          simp [last]
        · rw [List.foldl_append, whole]
          exact Nat.div_add_mod' n 16

theorem isSome_hexDigit?_of_mem_toDigits {base : Nat} (least : 1 < base) (greatest : base ≤ 16)
    (member : c ∈ Nat.toDigits base n) : (hexDigit? c).isSome = true := by
  induction n using Nat.strongRecOn with
  | ind n ih =>
      by_cases small : n < base
      · rw [Nat.toDigits_of_lt_base small, List.mem_singleton] at member
        rw [member, hexDigit?_digitChar (by omega)]
        rfl
      · rw [Nat.toDigits_of_base_le least (by omega), List.mem_append, List.mem_singleton] at member
        rcases member with earlier | last
        · exact ih (n / base) (Nat.div_lt_self (by omega) least) earlier
        · rw [last, hexDigit?_digitChar (Nat.lt_of_lt_of_le (Nat.mod_lt _ (by omega)) greatest)]
          rfl

end DnsReconcile.Text
