/-
# Domain names

Names of hosts in the letters of any language. A name is mapped to one spelling and cut
into labels. A label may also be written in ASCII letters behind a mark; then it must
stand for text that is in the one spelling already. Every label has to be readable where
it stands: it begins with no combining mark, its joiners show, and it keeps its
direction.
-/

import DnsReconcile.DomainName.Direction
import DnsReconcile.DomainName.Joining
import DnsReconcile.DomainName.Mapping
import DnsReconcile.Text.Blank
import DnsReconcile.Text.Punycode

namespace DnsReconcile

/-- A domain name, as its labels in order. -/
structure DomainName where
  labels : List (List Char)
deriving Repr, DecidableEq

namespace DomainName

/-- The name of the machine itself. -/
def localhost : DomainName :=
  ⟨["localhost".toList]⟩

/-- ASCII characters that no name contains. -/
def isForbidden (c : Char) : Bool :=
  c.toNat ≤ 32 || c.toNat == 127 || ['#', '%', '/', ':', '<', '>', '?', '@', '[', '\\', ']', '^',
    '|'].contains c

/-- Whether a text is in the one spelling of names. -/
def isCanonical (text : List Char) : Bool :=
  (text.all fun c => mapping c == .itself) && Text.compose text == text

/-- Whether a text has ASCII characters alone. -/
def isPlain (text : List Char) : Bool :=
  text.all (·.toNat < 128)

/-- The most characters of a label that is to be written in ASCII letters. -/
def longestLabel : Nat := 1000

/-- The most characters of what is behind the mark. -/
def longestCode : Nat := 2000

/-- A label that may be written in ASCII letters. Such a writing stands for a text that
has other characters. -/
def readLabel? (text : List Char) : Option (List Char) :=
  match Text.stripPrefix? "xn--".toList text with
  | none => if isPlain text || text.length ≤ longestLabel then some text else none
  | some code => do
      if !isPlain code || longestCode < code.length then none
      let label ← Text.Punycode.decode? code
      if isPlain label || !isCanonical label then none
      return label

/-- Whether a label can be read on its own. -/
def isLabel (label : List Char) : Bool :=
  !(label.head?.map Text.isMark).getD false && joinersFit [] label

/-- The name that a text writes. -/
def read? (text : List Char) : Option DomainName := do
  let text := Text.compose (← mapText? text)
  if text.isEmpty || text.any isForbidden then none
  let labels ← (text.splitOn '.').mapM readLabel?
  if labels.all isLabel && directionsFit labels then return ⟨labels⟩ else none

end DomainName

end DnsReconcile
