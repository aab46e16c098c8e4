/-
# The mapping of names

What the characters of a name stand for when it is looked up. A name means the same in
capitals, in characters of another width, or with characters that only affect how text
is shown, and some characters no name contains.
-/

import DnsReconcile.DomainName.MappingTable
import DnsReconcile.Text.Case

namespace DnsReconcile.DomainName

/-- What a character of a name stands for. -/
inductive Mapping where
  | itself
  | nothing
  | text (text : List Char)
  /-- No name contains the character. -/
  | refused
deriving Repr, DecidableEq

/-- What a code point of some runs stands for, where `split` divides the images. -/
def ImageRun.find? (split : List Char → List (List Char)) (runs : List ImageRun) (code : Nat) :
    Option (List Char) :=
  runs.findSome? fun run =>
    if run.first ≤ code then (split run.images.toList)[code - run.first]? else none

/-- What a character of a name stands for. -/
def mapping (c : Char) : Mapping :=
  let code := c.toNat
  if code < 128 then if c.isUpper then .text [c.toLower] else .itself
  else if Text.inRanges refusedRanges code then .refused
  else if Text.inRanges droppedRanges code then .nothing
  else
    match ImageRun.find? (·.map ([·])) characterRuns code with
    | some image => .text image
    | none =>
        match ImageRun.find? (·.splitOn ' ') textRuns code with
        | some image => .text image
        | none =>
            let lower := Text.lowerChar c
            if lower = [c] || Text.inRanges keptCapitalRanges code then .itself else .text lower

/-- What a text stands for, if every character may stand in a name. -/
def mapText? : List Char → Option (List Char)
  | [] => some []
  | c :: rest =>
      match mapping c with
      | .itself => (mapText? rest).map (c :: ·)
      | .nothing => mapText? rest
      | .text image => (mapText? rest).map (image ++ ·)
      | .refused => none

end DnsReconcile.DomainName
