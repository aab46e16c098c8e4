/-
# Quoted strings

Taking the quotation marks off a quoted string gives the string, although the escapes are undone in
two passes: the first leaves every backslash in pairs, and the second reads pairs only. A quoted
string ends where it seems to, whatever comes after it, and it begins where it seems to, whatever
comes before it, as long as that is divided from it by a space.
-/

import DnsReconcile.Proofs.Text.Trimming
import DnsReconcile.Text.Quoted

namespace DnsReconcile.Text

variable {first second rest others : List Char}

theorem escapeQuotes_cons_special {c : Char} (special : c = '"' ∨ c = '\\') (rest : List Char) :
    escapeQuotes (c :: rest) = '\\' :: c :: escapeQuotes rest := by
  rw [escapeQuotes, if_pos special]

theorem escapeQuotes_cons_plain {c : Char} (plain : ¬ (c = '"' ∨ c = '\\')) (rest : List Char) :
    escapeQuotes (c :: rest) = c :: escapeQuotes rest := by
  rw [escapeQuotes, if_neg plain]

/-- An escaped text does not begin with a quotation mark. -/
theorem head?_escapeQuotes (text : List Char) : (escapeQuotes text).head? ≠ some '"' := by
  cases text with
  | nil => exact fun impossible => nomatch impossible
  | cons c rest =>
      by_cases special : c = '"' ∨ c = '\\'
      · rw [escapeQuotes_cons_special special]
        exact fun same => absurd (Option.some.inj same) (by decide)
      · rw [escapeQuotes_cons_plain special]
        exact fun same => special (Or.inl (Option.some.inj same))

/-! ## Undoing the escapes -/

/-- The text with each backslash written twice. -/
def doubled : List Char → List Char
  | [] => []
  | c :: rest => if c = '\\' then '\\' :: '\\' :: doubled rest else c :: doubled rest

theorem unescape_cons_of_ne {c d : Char} (other : d ≠ '\\') (rest : List Char) :
    unescape c (d :: rest) = d :: unescape c rest := by
  rw [unescape.eq_2]
  rintro e others rfl
  exact absurd rfl other

/-- A backslash is no escape if the wrong character follows. -/
theorem unescape_backslash {c : Char} (other : rest.head? ≠ some c) :
    unescape c ('\\' :: rest) = '\\' :: unescape c rest := by
  cases rest with
  | nil => rfl
  | cons d rest => rw [unescape, if_neg fun same => other (congrArg some same)]

/-- The first pass takes the backslash off every quotation mark and leaves pairs of backslashes. -/
theorem unescape_quote_escapeQuotes (text : List Char) :
    unescape '"' (escapeQuotes text) = doubled text := by
  induction text with
  | nil => rfl
  | cons c rest ih =>
      by_cases quote : c = '"'
      · subst quote
        rw [escapeQuotes_cons_special (Or.inl rfl), unescape, if_pos rfl, ih]
        rfl
      · by_cases backslash : c = '\\'
        · subst backslash
          rw [escapeQuotes_cons_special (Or.inr rfl),
            unescape_backslash (by simp), unescape_backslash (head?_escapeQuotes rest), ih]
          rfl
        · rw [escapeQuotes_cons_plain (not_or.2 ⟨quote, backslash⟩),
            unescape_cons_of_ne backslash, ih, doubled, if_neg backslash]

/-- The second pass makes one backslash of each pair. -/
theorem unescape_backslash_doubled (text : List Char) : unescape '\\' (doubled text) = text := by
  induction text with
  | nil => rfl
  | cons c rest ih =>
      by_cases backslash : c = '\\'
      · subst backslash
        rw [doubled, if_pos rfl, unescape, if_pos rfl, ih]
      · rw [doubled, if_neg backslash, unescape_cons_of_ne backslash, ih]

theorem betweenQuotes?_quote (text : List Char) :
    betweenQuotes? (quote text) = some (escapeQuotes text) :=
  stripSuffix?_append (escapeQuotes text) ['"']

theorem unquote_quote (text : List Char) : unquote (quote text) = text := by
  rw [unquote, betweenQuotes?_quote]
  show unescape '\\' (unescape '"' (escapeQuotes text)) = text
  rw [unescape_quote_escapeQuotes, unescape_backslash_doubled]

theorem trim_quote (text : List Char) : trim (quote text) = quote text := by
  refine trim_eq_self (fun c head => ?_) fun c last => ?_
  · rw [← Option.some.inj head]
    rfl
  · rw [quote, List.getLast?_concat] at last
    rw [← Option.some.inj last]
    rfl

/-! ## Where a quoted string ends -/

/-- An escaped text up to the first quotation mark that is not escaped, with its escapes undone,
and what comes after that mark. -/
def splitQuoted? : List Char → Option (List Char × List Char)
  | [] => none
  | '"' :: rest => some ([], rest)
  | '\\' :: c :: rest => (splitQuoted? rest).map fun parts => (c :: parts.1, parts.2)
  | c :: rest => (splitQuoted? rest).map fun parts => (c :: parts.1, parts.2)

theorem splitQuoted?_escapeQuotes (text rest : List Char) :
    splitQuoted? (escapeQuotes text ++ '"' :: rest) = some (text, rest) := by
  induction text with
  | nil => rfl
  | cons c text ih =>
      by_cases special : c = '"' ∨ c = '\\'
      · rw [escapeQuotes_cons_special special, List.cons_append, List.cons_append, splitQuoted?, ih]
        rfl
      · obtain ⟨quote, backslash⟩ := not_or.1 special
        rw [escapeQuotes_cons_plain special, List.cons_append, splitQuoted?.eq_4, ih]
        · rfl
        · exact quote
        · rintro d others rfl
          exact absurd rfl backslash

/-- What is quoted and what comes after it can be told from the whole. -/
theorem quote_append_inj (same : quote first ++ rest = quote second ++ others) :
    first = second ∧ rest = others := by
  have parts := congrArg (fun text => splitQuoted? text.tail) same
  simp only [quote, List.cons_append, List.append_assoc, List.nil_append, List.tail_cons,
    splitQuoted?_escapeQuotes] at parts
  exact Prod.mk.inj (Option.some.inj parts)

theorem quote_inj (same : quote first = quote second) : first = second := by
  have padded : quote first ++ [] = quote second ++ [] := by rw [same]
  exact (quote_append_inj padded).1

/-! ## Where a quoted string begins -/

/-- In an escaped text no quotation mark stands behind a space. -/
theorem escapeQuotes_ne_append (text front back : List Char) :
    escapeQuotes text ≠ front ++ ' ' :: '"' :: back := by
  induction text generalizing front with
  | nil => cases front <;> exact fun impossible => nomatch impossible
  | cons c rest ih =>
      by_cases special : c = '"' ∨ c = '\\'
      · rw [escapeQuotes_cons_special special]
        -- The escape is no space, and neither is what it stands in front of.
        rcases front with _ | ⟨d, _ | ⟨e, front⟩⟩
        · exact fun same => absurd (List.cons.inj same).1 (by decide)
        · intro same
          have space : c = ' ' := (List.cons.inj (List.cons.inj same).2).1
          subst space
          exact absurd special (by decide)
        · exact fun same => ih front (List.cons.inj (List.cons.inj same).2).2
      · rw [escapeQuotes_cons_plain special]
        cases front with
        | nil =>
            intro same
            apply head?_escapeQuotes rest
            rw [(List.cons.inj same).2]
            rfl
        | cons d front => exact fun same => ih front (List.cons.inj same).2

/-- Any text before a space and a quoted string can be told from the whole, and so can the
string. -/
theorem append_space_quote_inj
    (same : rest ++ ' ' :: quote first = others ++ ' ' :: quote second) :
    rest = others ∧ first = second := by
  -- A quoted string that began earlier would have the later space and mark inside.
  have later {front text text' : List Char}
      (within : ' ' :: quote text = front ++ ' ' :: quote text') : front = [] := by
    have inside : ' ' :: '"' :: escapeQuotes text = front ++ ' ' :: '"' :: escapeQuotes text' := by
      apply @List.append_cancel_right _ _ ['"']
      rw [List.append_assoc]
      exact within
    rcases front with _ | ⟨c, _ | ⟨d, front⟩⟩
    · rfl
    · exact absurd (List.cons.inj (List.cons.inj inside).2).1 (by decide)
    · exact absurd (List.cons.inj (List.cons.inj inside).2).2 (escapeQuotes_ne_append _ _ _)
  have whole : rest = others := by
    rcases List.append_eq_append_iff.1 same with ⟨front, rfl, within⟩ | ⟨front, rfl, within⟩
    · rw [later within, List.append_nil]
    · rw [later within, List.append_nil]
  subst whole
  exact ⟨rfl, quote_inj (List.cons.inj (List.append_cancel_left same)).2⟩

end DnsReconcile.Text
