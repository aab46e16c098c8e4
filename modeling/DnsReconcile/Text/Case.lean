/-
# Letter case

Full case mappings of a text, and the comparison that ignores the case of ASCII
letters. Lower-casing looks at the neighbourhood of a capital sigma: at the end
of a word it becomes the final form. Upper-casing may turn one character into
several. ASCII letters are answered without a table.
-/

import DnsReconcile.Text.CaseTable

namespace DnsReconcile.Text

/-- The lower case of one character on its own. Only the dotted capital I needs
two characters. -/
def lowerChar (c : Char) : List Char :=
  let code := c.toNat
  if code < 128 then [if 65 ≤ code ∧ code ≤ 90 then Char.ofNat (code + 32) else c]
  else if code = 0x130 then ['i', '\u0307']
  else
    match lowerRuns.findSome? (·.image? code) with
    | some image => [Char.ofNat image]
    | none => [c]

/-- The upper case of one character. -/
def upperChar (c : Char) : List Char :=
  let code := c.toNat
  if code < 128 then [if 97 ≤ code ∧ code ≤ 122 then Char.ofNat (code - 32) else c]
  else
    match upperExpansions.lookup code with
    | some codes => codes.map Char.ofNat
    | none =>
        match upperRuns.findSome? (·.image? code) with
        | some image => [Char.ofNat image]
        | none => [c]

/-- Letters that have a case. -/
def isCased (c : Char) : Bool :=
  inRanges casedRanges c.toNat

/-- Characters that do not end the search for a neighbouring cased letter. -/
def isCaseIgnorable (c : Char) : Bool :=
  inRanges caseIgnorableRanges c.toNat

/-- Whether the next character that matters is a cased letter. -/
def casedFollows (text : List Char) : Bool :=
  match text.dropWhile isCaseIgnorable with
  | [] => false
  | c :: _ => isCased c

/-- Lower-case a text whose left neighbourhood is known: `afterCased` says
whether the last character that matters before it is a cased letter. -/
def lowerAfter (afterCased : Bool) : List Char → List Char
  | [] => []
  | c :: rest =>
      let image :=
        if c = 'Σ' then [if afterCased && !casedFollows rest then 'ς' else 'σ'] else lowerChar c
      image ++ lowerAfter (if isCaseIgnorable c then afterCased else isCased c) rest

/-- The lower case of a text. -/
def lower (text : List Char) : List Char :=
  lowerAfter false text

/-- The upper case of a text. -/
def upper (text : List Char) : List Char :=
  text.flatMap upperChar

/-- The lower case of an ASCII letter; other characters stay. -/
def asciiLowerChar (c : Char) : Char :=
  if 65 ≤ c.toNat ∧ c.toNat ≤ 90 then Char.ofNat (c.toNat + 32) else c

/-- The text with its ASCII letters in lower case. -/
def asciiLower (text : List Char) : List Char :=
  text.map asciiLowerChar

/-- Equality up to the case of ASCII letters. -/
def equalIgnoringAsciiCase (first second : List Char) : Bool :=
  asciiLower first == asciiLower second

end DnsReconcile.Text
