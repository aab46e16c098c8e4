/-
# Lower case, once and for all

Text in lower case does not change when it is lower-cased again, and neither does any
part of it: no character is left that has a lower-case counterpart, nor a capital sigma,
whose counterpart depends on its neighbours. Blanks are neither made nor unmade.
-/

import DnsReconcile.Text.Blank
import DnsReconcile.Text.Case
import Mathlib.Data.List.Basic

namespace DnsReconcile.Text

/-! ## The table -/

namespace CaseRun

variable {run other : CaseRun} {code image : Nat}

theorem image?_eq_some_iff :
    run.image? code = some image ↔
      (run.first ≤ code ∧ code ≤ run.last ∧ (code - run.first) % run.step = 0) ∧
        ((code : Int) + run.shift).toNat = image := by
  unfold image?
  rw [Option.ite_none_right_eq_some, Option.some.injEq]

/-- The counterpart of the first code point of a run. -/
def lowest (run : CaseRun) : Nat :=
  ((run.first : Int) + run.shift).toNat

/-- The counterpart of the last code point of a run. -/
def highest (run : CaseRun) : Nat :=
  ((run.last : Int) + run.shift).toNat

theorem image_bounds (found : run.image? code = some image) :
    run.lowest ≤ image ∧ image ≤ run.highest := by
  obtain ⟨⟨first, last, -⟩, same⟩ := image?_eq_some_iff.1 found
  unfold lowest highest
  omega

/-- No counterpart that a run gives belongs to the other run: they are apart, or they
alternate. -/
def leadsOutOf (run other : CaseRun) : Bool :=
  run.highest < other.first || other.last < run.lowest ||
    (0 ≤ (run.first : Int) + run.shift && (run.step == 2 || run.first == run.last) &&
      other.step == 2 && (run.lowest + other.first) % 2 == 1)

theorem image?_of_leadsOutOf (out : run.leadsOutOf other = true)
    (found : run.image? code = some image) : other.image? image = none := by
  obtain ⟨low, high⟩ := image_bounds found
  obtain ⟨⟨first, last, step⟩, same⟩ := image?_eq_some_iff.1 found
  unfold image?
  refine if_neg ?_
  rintro ⟨first', last', step'⟩
  simp only [leadsOutOf, Bool.or_eq_true, Bool.and_eq_true, decide_eq_true_eq, beq_iff_eq] at out
  rcases out with (below | above) | ⟨⟨⟨positive, stride⟩, stride'⟩, odd⟩
  · omega
  · omega
  · unfold lowest at low odd
    rw [stride'] at step'
    rcases stride with two | single
    · rw [two] at step
      omega
    · omega

end CaseRun

/-- Counterparts have no counterparts. -/
theorem lowerRuns_leadOut :
    (lowerRuns.all fun run => lowerRuns.all fun other => run.leadsOutOf other) = true := by
  decide +kernel

/-- Counterparts are characters, not blank, and not the dotted capital I. -/
def isPlainRange (low high : Nat) : Bool :=
  (high < 0xD800 || (0xDFFF < low && high < 0x110000)) &&
    (high < 0x130 || 0x130 < low) &&
    32 < low && (high < 0x85 || 0x85 < low) && (high < 0xA0 || 0xA0 < low) &&
    (high < 0x1680 || 0x1680 < low) && (high < 0x2000 || 0x200A < low) &&
    (high < 0x2028 || 0x2029 < low) && (high < 0x202F || 0x202F < low) &&
    (high < 0x205F || 0x205F < low) && (high < 0x3000 || 0x3000 < low)

theorem lowerRuns_plain :
    (lowerRuns.all fun run => isPlainRange run.lowest run.highest) = true := by
  decide

/-- Only the first run is about ASCII characters. -/
theorem lowerRuns_ascii :
    ∃ rest, lowerRuns = ⟨0x41, 0x5A, 1, 32⟩ :: rest ∧ ∀ run ∈ rest, 128 ≤ run.first :=
  ⟨lowerRuns.tail, rfl, by decide +kernel⟩

/-- The counterpart of a code point, if some run has one. -/
def lowerCode? (code : Nat) : Option Nat :=
  lowerRuns.findSome? (·.image? code)

theorem lowerCode?_ascii {code : Nat} (ascii : code < 128) :
    lowerCode? code = if 65 ≤ code ∧ code ≤ 90 then some (code + 32) else none := by
  obtain ⟨rest, runs, others⟩ := lowerRuns_ascii
  have others_silent : rest.findSome? (·.image? code) = none := by
    refine List.findSome?_eq_none_iff.2 fun run member => if_neg fun belongs => ?_
    have large := others run member
    omega
  unfold lowerCode?
  rw [runs, List.findSome?_cons, others_silent]
  unfold CaseRun.image?
  simp only [Nat.mod_one, and_true]
  by_cases capital : 65 ≤ code ∧ code ≤ 90
  · rw [if_pos capital, if_pos capital]
    rfl
  · rw [if_neg capital, if_neg capital]

/-- The lower case of a character, ASCII or not. -/
theorem lowerChar_eq (c : Char) :
    lowerChar c =
      if c.toNat = 0x130 then ['i', '\u0307']
      else
        match lowerCode? c.toNat with
        | some image => [Char.ofNat image]
        | none => [c] := by
  unfold lowerChar
  by_cases ascii : c.toNat < 128
  · have dotted : c.toNat ≠ 0x130 := by omega
    rw [if_pos ascii, if_neg dotted, lowerCode?_ascii ascii]
    split <;> rfl
  · rw [if_neg ascii]
    rfl

/-- What is known of a counterpart. -/
theorem of_lowerCode? {code image : Nat} (found : lowerCode? code = some image) :
    (Char.ofNat image).toNat = image ∧ image ≠ 0x130 ∧ lowerCode? image = none ∧
      isBlank (Char.ofNat image) = false := by
  obtain ⟨run, member, given⟩ := List.exists_of_findSome?_eq_some found
  obtain ⟨low, high⟩ := CaseRun.image_bounds given
  have plain := List.all_eq_true.1 lowerRuns_plain run member
  simp only [isPlainRange, Bool.and_eq_true, Bool.or_eq_true, decide_eq_true_eq] at plain
  have valid : image.isValidChar := by
    unfold Nat.isValidChar
    omega
  have code_point : (Char.ofNat image).toNat = image := by
    rw [Char.ofNat, dif_pos valid]
    rfl
  refine ⟨code_point, by omega, ?_, ?_⟩
  · refine List.findSome?_eq_none_iff.2 fun other member' => ?_
    have out := List.all_eq_true.1 lowerRuns_leadOut run member
    exact CaseRun.image?_of_leadsOutOf (List.all_eq_true.1 out other member') given
  · unfold isBlank
    rw [code_point]
    simp only [Bool.or_eq_false_iff, Bool.and_eq_false_iff, decide_eq_false_iff_not,
      beq_eq_false_iff_ne]
    omega

theorem lowerRuns_behind_signs : (lowerRuns.all fun run => 64 < run.lowest) = true := by
  decide

/-- Counterparts come behind the signs and digits of ASCII, of which `@` is the last. -/
theorem lt_of_lowerCode? {code image : Nat} (found : lowerCode? code = some image) :
    64 < image := by
  obtain ⟨run, member, given⟩ := List.exists_of_findSome?_eq_some found
  have behind := of_decide_eq_true (List.all_eq_true.1 lowerRuns_behind_signs run member)
  exact Nat.lt_of_lt_of_le behind (CaseRun.image_bounds given).1

/-! ## Characters -/

/-- Whether a character is its own lower case. -/
def IsLower (c : Char) : Prop :=
  lowerChar c = [c]

theorem isLower_of_mem_lowerChar {c d : Char} (member : d ∈ lowerChar c) : IsLower d := by
  rw [lowerChar_eq] at member
  split at member
  · have settled : (['i', '\u0307'].all fun d => lowerChar d == [d]) = true := by decide
    exact eq_of_beq (List.all_eq_true.1 settled d member)
  · next dotted =>
    split at member
    · next image found =>
      obtain ⟨code_point, dotted, final, -⟩ := of_lowerCode? found
      rw [List.mem_singleton.1 member, IsLower, lowerChar_eq, code_point, if_neg dotted, final]
    · next final =>
      rw [List.mem_singleton.1 member, IsLower, lowerChar_eq, if_neg dotted, final]

theorem lowerChar_ne_nil (c : Char) : lowerChar c ≠ [] := by
  rw [lowerChar_eq]
  split
  · exact List.cons_ne_nil _ _
  · split <;> exact List.cons_ne_nil _ _

/-- Lower-casing makes no blanks. -/
theorem isBlank_of_mem_lowerChar {c d : Char} (member : d ∈ lowerChar c)
    (blank : isBlank d = true) : isBlank c = true := by
  rw [lowerChar_eq] at member
  split at member
  · have visible : (['i', '\u0307'].all fun d => !isBlank d) = true := by decide
    have clear := List.all_eq_true.1 visible d member
    rw [blank] at clear
    exact absurd clear Bool.false_ne_true
  · split at member
    · next image found =>
      rw [List.mem_singleton.1 member, (of_lowerCode? found).2.2.2] at blank
      exact absurd blank Bool.false_ne_true
    · rwa [List.mem_singleton.1 member] at blank

/-- Lower-casing makes neither signs nor digits of ASCII. -/
theorem eq_of_mem_lowerChar {c d : Char} (sign : d.toNat ≤ 64) (member : d ∈ lowerChar c) :
    c = d := by
  rw [lowerChar_eq] at member
  split at member
  · have large : (['i', '\u0307'].all fun d => 64 < d.toNat) = true := by decide
    exact absurd sign (Nat.not_le.2 (of_decide_eq_true (List.all_eq_true.1 large d member)))
  · split at member
    · next image found =>
      have code_point := congrArg Char.toNat (List.mem_singleton.1 member)
      rw [(of_lowerCode? found).1] at code_point
      exact absurd (lt_of_lowerCode? found) (Nat.not_lt.2 (code_point ▸ sign))
    · exact (List.mem_singleton.1 member).symm

/-- The capital sigma is not its own lower case. -/
theorem IsLower.ne_sigma {c : Char} (lower : IsLower c) : c ≠ 'Σ' := by
  rintro rfl
  exact absurd lower (by unfold IsLower; decide)

/-! ## Text -/

/-- What is known of a character that another one becomes in lower case: it stays as it is, it
is a blank only if the other one was, and it is a sign or a digit of ASCII only if it is the other
one. -/
structure LowersTo (c d : Char) : Prop where
  lower : IsLower d
  blank : isBlank d = true → isBlank c = true
  sign : d.toNat ≤ 64 → c = d

/-- What the first character of a text becomes. -/
theorem lowerAfter_cons (afterCased : Bool) (c : Char) (rest : List Char) :
    ∃ image next, lowerAfter afterCased (c :: rest) = image ++ lowerAfter next rest ∧
      image ≠ [] ∧ ∀ d ∈ image, LowersTo c d := by
  refine ⟨_, _, rfl, ?_⟩
  by_cases sigma : c = 'Σ'
  · have small : (['ς', 'σ'].all fun d =>
        lowerChar d == [d] && !isBlank d && 64 < d.toNat) = true := by
      decide
    rw [if_pos sigma]
    refine ⟨List.cons_ne_nil _ _, fun d member => ?_⟩
    have known : d ∈ ['ς', 'σ'] := by
      rw [List.mem_singleton] at member
      rw [member]
      split <;> simp
    have own := List.all_eq_true.1 small d known
    rw [Bool.and_eq_true, Bool.and_eq_true, beq_iff_eq, Bool.not_eq_true', decide_eq_true_eq]
      at own
    obtain ⟨⟨lower, visible⟩, large⟩ := own
    exact ⟨lower, fun blank => absurd (visible.symm.trans blank) Bool.false_ne_true,
      fun sign => absurd sign (Nat.not_le.2 large)⟩
  · rw [if_neg sigma]
    exact ⟨lowerChar_ne_nil c, fun d member => ⟨isLower_of_mem_lowerChar member,
      isBlank_of_mem_lowerChar member, fun sign => eq_of_mem_lowerChar sign member⟩⟩

theorem isLower_of_mem_lower {text : List Char} {d : Char} (member : d ∈ lower text) :
    IsLower d := by
  unfold lower at member
  generalize false = afterCased at member
  induction text generalizing afterCased with
  | nil => exact absurd member List.not_mem_nil
  | cons c rest ih =>
      obtain ⟨image, next, same, -, each⟩ := lowerAfter_cons afterCased c rest
      rw [same, List.mem_append] at member
      rcases member with here | later
      · exact (each d here).lower
      · exact ih next later

/-- Text in lower case stays as it is. -/
theorem lower_eq_self {text : List Char} (each : ∀ c ∈ text, IsLower c) : lower text = text := by
  unfold lower
  generalize false = afterCased
  induction text generalizing afterCased with
  | nil => rfl
  | cons c rest ih =>
      obtain ⟨own, others⟩ := List.forall_mem_cons.1 each
      unfold lowerAfter
      rw [if_neg own.ne_sigma, ih others, own]
      rfl

theorem lower_lower (text : List Char) : lower (lower text) = lower text :=
  lower_eq_self fun _ member => isLower_of_mem_lower member

/-- Without a capital sigma, every character is on its own. -/
theorem lower_eq_flatMap {text : List Char} (plain : ∀ c ∈ text, c ≠ 'Σ') :
    lower text = text.flatMap lowerChar := by
  unfold lower
  generalize false = afterCased
  induction text generalizing afterCased with
  | nil => rfl
  | cons c rest ih =>
      obtain ⟨own, others⟩ := List.forall_mem_cons.1 plain
      unfold lowerAfter
      rw [if_neg own, ih others, List.flatMap_cons]

/-- Only the text without characters has a lower case without any. -/
theorem lower_eq_nil_iff {text : List Char} : lower text = [] ↔ text = [] := by
  cases text with
  | nil => exact iff_of_true rfl rfl
  | cons c rest =>
      obtain ⟨image, next, same, present, -⟩ := lowerAfter_cons false c rest
      rw [lower, same]
      exact iff_of_false (fun empty => present (List.append_eq_nil_iff.1 empty).1)
        (List.cons_ne_nil c rest)

/-- A sign on its own is the lower case of nothing else. -/
theorem lower_eq_singleton_iff {text : List Char} {d : Char} (sign : d.toNat ≤ 64)
    (same : lowerChar d = [d]) : lower text = [d] ↔ text = [d] := by
  apply Iff.intro
  · intro lowered
    cases text with
    | nil => cases lowered
    | cons c rest =>
        obtain ⟨image, next, parts, present, each⟩ := lowerAfter_cons false c rest
        rw [lower, parts, List.append_eq_singleton_iff] at lowered
        rcases lowered with ⟨empty, -⟩ | ⟨own, others⟩
        · exact absurd empty present
        · have own : c = d := (each d (own ▸ List.mem_singleton_self d)).sign sign
          cases rest with
          | nil => rw [own]
          | cons c' rest' =>
              obtain ⟨image', next', parts', present', -⟩ := lowerAfter_cons next c' rest'
              rw [parts', List.append_eq_nil_iff] at others
              exact absurd others.1 present'
  · rintro rfl
    refine lower_eq_self fun c member => ?_
    rw [List.mem_singleton.1 member]
    exact same

/-- Text in upper case stays as it is. -/
theorem upper_eq_self {text : List Char} (each : ∀ c ∈ text, upperChar c = [c]) :
    upper text = text := by
  induction text with
  | nil => rfl
  | cons c rest ih =>
      obtain ⟨own, others⟩ := List.forall_mem_cons.1 each
      show upperChar c ++ upper rest = c :: rest
      rw [own, ih others]
      rfl

/-- Lower-casing keeps blanks away from the beginning of a text. -/
theorem head?_lower {text : List Char}
    (visible : ∀ c, text.head? = some c → isBlank c = false) (d : Char)
    (head : (lower text).head? = some d) : isBlank d = false := by
  cases text with
  | nil => cases head
  | cons c rest =>
      obtain ⟨image, next, same, present, each⟩ := lowerAfter_cons false c rest
      have first : d ∈ image := by
        rw [lower, same, List.head?_append_of_ne_nil _ present] at head
        exact List.mem_of_mem_head? head
      refine Bool.eq_false_iff.2 fun blank => ?_
      exact Bool.false_ne_true ((visible c rfl).symm.trans ((each d first).blank blank))

/-- The last character in lower case comes from the last character. -/
theorem exists_getLast?_of_lowerAfter (afterCased : Bool) {text : List Char} {d : Char}
    (last : (lowerAfter afterCased text).getLast? = some d) :
    ∃ c, text.getLast? = some c ∧ LowersTo c d := by
  induction text generalizing afterCased with
  | nil => cases last
  | cons c rest ih =>
      obtain ⟨image, next, same, present, each⟩ := lowerAfter_cons afterCased c rest
      rw [same] at last
      cases rest with
      | nil =>
          rw [lowerAfter, List.append_nil] at last
          exact ⟨c, rfl, each d (List.mem_of_getLast? last)⟩
      | cons c' rest' =>
          obtain ⟨image', next', same', present', -⟩ := lowerAfter_cons next c' rest'
          have others : lowerAfter next (c' :: rest') ≠ [] := by
            rw [same']
            exact List.append_ne_nil_of_left_ne_nil present' _
          rw [List.getLast?_append_of_ne_nil _ others] at last
          obtain ⟨e, final, lowers⟩ := ih next last
          exact ⟨e, by rwa [List.getLast?_cons_cons], lowers⟩

/-- Lower-casing keeps blanks away from the end of a text. -/
theorem getLast?_lowerAfter (afterCased : Bool) {text : List Char}
    (visible : ∀ c, text.getLast? = some c → isBlank c = false) (d : Char)
    (last : (lowerAfter afterCased text).getLast? = some d) : isBlank d = false := by
  obtain ⟨c, final, lowers⟩ := exists_getLast?_of_lowerAfter afterCased last
  refine Bool.eq_false_iff.2 fun blank => ?_
  exact Bool.false_ne_true ((visible c final).symm.trans (lowers.blank blank))

/-- A dot does not matter for the case of what stands before it. -/
theorem casedFollows_append_dot (text : List Char) :
    casedFollows (text ++ ['.']) = casedFollows text := by
  unfold casedFollows
  rw [List.dropWhile_append]
  cases text.dropWhile isCaseIgnorable with
  | nil => decide
  | cons c rest => rfl

theorem lower_append_dot (text : List Char) : lower (text ++ ['.']) = lower text ++ ['.'] := by
  unfold lower
  generalize false = afterCased
  induction text generalizing afterCased with
  | nil =>
      show lowerChar '.' ++ [] = ['.']
      decide
  | cons c rest ih =>
      rw [List.cons_append]
      unfold lowerAfter
      rw [casedFollows_append_dot, ih, List.append_assoc]

/-- Lower-casing puts no dot at the end of a text. -/
theorem getLast?_lower_ne_dot {text : List Char} (undotted : text.getLast? ≠ some '.') :
    (lower text).getLast? ≠ some '.' := by
  intro last
  obtain ⟨c, final, lowers⟩ := exists_getLast?_of_lowerAfter false last
  exact undotted (lowers.sign (by decide) ▸ final)

/-- A text whose lower case ends in a dot ends in a dot itself. -/
theorem exists_of_lower_eq_append_dot {text image : List Char}
    (lowered : lower text = image ++ ['.']) :
    ∃ front, text = front ++ ['.'] ∧ lower front = image := by
  have last : text.getLast? = some '.' := by
    by_contra undotted
    exact getLast?_lower_ne_dot undotted (lowered ▸ List.getLast?_concat)
  obtain ⟨front, rfl⟩ := List.getLast?_eq_some_iff.1 last
  rw [lower_append_dot] at lowered
  exact ⟨front, rfl, List.append_cancel_right lowered⟩

end DnsReconcile.Text
