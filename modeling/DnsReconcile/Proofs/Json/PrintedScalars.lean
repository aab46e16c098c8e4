/-
# Reading scalars that were printed

A text between quotation marks is read up to the closing one, whatever it contains. A number
is read up to its last digit, whatever follows it in a JSON text, and stands for the integer
that was printed if that fits into 64 bits.
-/

import DnsReconcile.Json.Parser
import DnsReconcile.Json.Printer
import DnsReconcile.Proofs.Text.Digits
import Mathlib.Data.List.TakeWhile

namespace DnsReconcile.Json

variable {rest : List Char}

/-! ## Quoted text -/

theorem scanQuoted_short {c plain : Char} (escape : shortEscape? c = some plain) :
    scanQuoted none ('\\' :: c :: rest) = (scanQuoted none rest).map (·.cons plain) := by
  have other : c ≠ 'u' := by
    rintro rfl
    cases escape
  rw [scanQuoted.eq_6 _ _ _ fun _ _ _ _ _ same _ => other same, escape]
  rfl

theorem scanQuoted_controlEscape {c : Char} (control : c.toNat < 32) :
    scanQuoted none (controlEscape c ++ rest) = (scanQuoted none rest).map (·.cons c) := by
  have each : ∀ code < 32, hexUnit? '0' '0' (Nat.digitChar (code / 16))
      (Nat.digitChar (code % 16)) = some code := by
    decide
  have high : ¬ (0xD800 ≤ c.toNat ∧ c.toNat ≤ 0xDBFF) := by omega
  have low : ¬ (0xDC00 ≤ c.toNat ∧ c.toNat ≤ 0xDFFF) := by omega
  simp only [controlEscape, List.cons_append, List.nil_append]
  rw [scanQuoted.eq_5 _ _ _ _ _ _ (each _ control), if_neg high, if_neg low, Char.ofNat_toNat]

theorem scanQuoted_escapeChar (c : Char) :
    scanQuoted none (escapeChar c ++ rest) = (scanQuoted none rest).map (·.cons c) := by
  unfold escapeChar
  split
  · next same => exact scanQuoted_short (by rw [same]; rfl)
  split
  · next same => exact scanQuoted_short (by rw [same]; rfl)
  split
  · next same => exact scanQuoted_short (by rw [same]; rfl)
  split
  · next same => exact scanQuoted_short (by rw [same]; rfl)
  split
  · next same => exact scanQuoted_short (by rw [same]; rfl)
  split
  · next same => exact scanQuoted_short (by rw [same]; rfl)
  split
  · next same => exact scanQuoted_short (by rw [same]; rfl)
  split
  · next control => exact scanQuoted_controlEscape control
  · next mark slash _ _ _ _ _ visible =>
    show scanQuoted none (c :: rest) = _
    have plain : ¬ (decide (c.toNat < 32) || c == '\\') = true := by simp [visible, slash]
    rw [scanQuoted.eq_7 _ _ _ mark (fun _ _ _ _ _ same _ => slash same)
        fun _ _ same _ => slash same,
      if_neg plain]
    rfl

/-- A text between quotation marks is read up to the closing one. -/
theorem scanQuoted_escaped (text : List Char) :
    scanQuoted none (text.flatMap escapeChar ++ '"' :: rest) = some ⟨some text, rest⟩ := by
  induction text with
  | nil => rfl
  | cons c others ih =>
      rw [List.flatMap_cons, List.append_assoc, scanQuoted_escapeChar, ih]
      rfl

/-! ## Numbers -/

/-- What may stand after a value: nothing, a comma or a closing bracket. -/
def Delimits (rest : List Char) : Prop :=
  ∀ c, rest.head? = some c → c ∈ [',', ']', '\x7d']

theorem delimits_nil : Delimits [] :=
  nofun

theorem delimits_cons {c : Char} (known : c ∈ [',', ']', '\x7d']) : Delimits (c :: rest) := by
  intro d head
  rwa [← Option.some.inj head]

theorem spanDigits_append {digits : List Char} (each : ∀ c ∈ digits, c.isDigit = true)
    (ends : Delimits rest) : spanDigits (digits ++ rest) = (digits, rest) := by
  have stop : rest.takeWhile Char.isDigit = [] ∧ rest.dropWhile Char.isDigit = rest := by
    cases rest with
    | nil => exact ⟨rfl, rfl⟩
    | cons c others =>
        have other : c.isDigit = false := by
          have known := ends c rfl
          simp only [List.mem_cons, List.not_mem_nil, or_false] at known
          rcases known with rfl | rfl | rfl <;> rfl
        simp [other]
  unfold spanDigits
  rw [List.takeWhile_append_of_pos each, List.dropWhile_append_of_pos each, stop.1, stop.2,
    List.append_nil]

theorem scanFraction_of_delimits (ends : Delimits rest) :
    scanFraction rest = some (none, rest) := by
  unfold scanFraction
  split
  · exact absurd (ends '.' rfl) (by decide)
  · rfl

theorem scanExponent_of_delimits (ends : Delimits rest) :
    scanExponent rest = some (none, rest) := by
  unfold scanExponent
  split
  · exact absurd (ends 'e' rfl) (by decide)
  · exact absurd (ends 'E' rfl) (by decide)
  · rfl

/-- The sign in front of the digits of a number. -/
def signText (negative : Bool) : List Char :=
  if negative then ['-'] else []

/-- Digits are read up to their end, with or without a sign. -/
theorem scanNumeral_digits {digits : List Char} (negative : Bool) (present : digits ≠ [])
    (each : ∀ c ∈ digits, c.isDigit = true)
    (leading : 1 < digits.length → digits.head? ≠ some '0') (ends : Delimits rest) :
    scanNumeral (signText negative ++ (digits ++ rest)) =
      some (⟨negative, digits, none, none⟩, rest) := by
  cases digits with
  | nil => exact absurd rfl present
  | cons c others =>
      have spanned : spanDigits (c :: (others ++ rest)) = (c :: others, rest) :=
        spanDigits_append each ends
      have unsigned : c ≠ '-' := by
        rintro rfl
        exact absurd (each '-' List.mem_cons_self) (by decide)
      have natural : 0 < others.length → c ≠ '0' := fun long zero =>
        leading (by simpa using long) (by rw [zero]; rfl)
      unfold scanNumeral signText
      cases negative with
      | true =>
          simpa [spanned, scanFraction_of_delimits ends, scanExponent_of_delimits ends]
            using natural
      | false =>
          simpa [spanned, unsigned, scanFraction_of_delimits ends, scanExponent_of_delimits ends]
            using natural

/-- Numbers as they are printed are read as they were. -/
theorem scanNumeral_toDigits (n : Nat) (negative : Bool) (ends : Delimits rest) :
    scanNumeral (signText negative ++ (Nat.toDigits 10 n ++ rest)) =
      some (⟨negative, Nat.toDigits 10 n, none, none⟩, rest) := by
  exact scanNumeral_digits negative Nat.toDigits_ne_nil
    (fun _ member => Text.isDigit_of_mem_toDigits member) Text.head?_toDigits_of_long ends

/-- Whether an integer fits into 64 bits, with a sign or without one. -/
def FitsWord (value : Int) : Prop :=
  -(UInt64.size / 2 : Nat) ≤ value ∧ value < UInt64.size

theorem fitsWord_nat {n : Nat} (below : n < UInt64.size) : FitsWord n := by
  unfold FitsWord
  omega

theorem toList_print_integer (value : Int) :
    (Number.print (.integer value)).toList =
      signText (decide (value < 0)) ++ Nat.toDigits 10 value.natAbs := by
  cases value with
  | ofNat n =>
      have natural : ¬ (n : Int) < 0 := by omega
      show (toString n).toList = _
      rw [Nat.toString_eq_ofList_toDigits, String.toList_ofList, Int.ofNat_eq_natCast,
        decide_eq_false natural]
      rfl
  | negSucc n =>
      show ("-" ++ toString (n + 1)).toList = _
      rw [String.toList_append, Nat.toString_eq_ofList_toDigits, String.toList_ofList,
        String.toList_ofList, decide_eq_true (Int.negSucc_lt_zero n), Int.natAbs_negSucc]
      rfl

theorem toSource_integer {value : Int} (fits : FitsWord value) :
    (Numeral.mk (decide (value < 0)) (Nat.toDigits 10 value.natAbs) none none).toSource =
      .number (.integer value) := by
  obtain ⟨low, high⟩ := fits
  unfold Numeral.toSource Numeral.integer?
  simp only [Nat.ofDigitChars_ten_toDigits, decide_eq_true_eq]
  by_cases negative : value < 0
  · have size : 0 < value.natAbs ∧ value.natAbs ≤ UInt64.size / 2 := by omega
    have back : -(value.natAbs : Int) = value := by omega
    rw [if_pos negative, if_pos size, back]
  · have size : value.natAbs < UInt64.size := by omega
    have back : (value.natAbs : Int) = value := by omega
    rw [if_neg negative, if_pos size, back]

/-- What a number can begin with. -/
def isNumeralStart (c : Char) : Bool :=
  c == '-' || c.isDigit

theorem exists_numeralStart (value : Int) :
    ∃ c others, (Number.print (.integer value)).toList = c :: others ∧
      isNumeralStart c = true := by
  rw [toList_print_integer]
  cases decide (value < 0) with
  | true => exact ⟨'-', _, rfl, rfl⟩
  | false =>
      obtain ⟨c, others, digits⟩ :=
        List.exists_cons_of_ne_nil (Nat.toDigits_ne_nil (n := value.natAbs) (b := 10))
      have digit : c.isDigit = true :=
        Text.isDigit_of_mem_toDigits (digits ▸ List.mem_cons_self)
      exact ⟨c, others, digits, by rw [isNumeralStart, digit, Bool.or_true]⟩

end DnsReconcile.Json
