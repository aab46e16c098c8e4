/-
# Alternatives in braces

A pattern such as `{www,api}.dev` stands for several patterns without braces. The
first outermost group is replaced by each of its alternatives in turn, and what
comes of that is expanded again. Braces inside a character class are ordinary
characters while groups are looked for, but not when a group is cut at its
commas.
-/

namespace DnsReconcile.Pattern

/-- What is wrong with the braces of a pattern. -/
inductive BraceProblem where
  | unopened
  | unclosed
deriving Repr, DecidableEq

/-- The wording of a problem with braces. -/
def BraceProblem.message : BraceProblem → String
  | .unopened => "unbalanced '\x7d'"
  | .unclosed => "unbalanced '\x7b'"

/-- Whether the text after a character lies in a character class. -/
def classAfter (inClass : Bool) (c : Char) : Bool :=
  if inClass then c != ']' else c == '['

/-- Put a character in front of the first part of a division. -/
def consFirst {β : Type} (c : Char) (parts : List Char × β) : List Char × β :=
  (c :: parts.1, parts.2)

/-- Divide the text after an opening brace at the brace that closes it. `depth`
counts the groups that are open inside. -/
def closeGroup (inClass : Bool) (depth : Nat) :
    List Char → Except BraceProblem (List Char × List Char)
  | [] => .error .unclosed
  | c :: rest =>
      if !inClass && c == '\x7b' then (closeGroup false (depth + 1) rest).map (consFirst c)
      else if !inClass && c == '\x7d' then
        match depth with
        | 0 => .ok ([], rest)
        | outer + 1 => (closeGroup false outer rest).map (consFirst c)
      else (closeGroup (classAfter inClass c) depth rest).map (consFirst c)

/-- Divide a pattern around its first outermost group: what stands before it, in
it and after it. There is no such division if the pattern has no group. -/
def findGroup (inClass : Bool) :
    List Char → Except BraceProblem (Option (List Char × List Char × List Char))
  | [] => .ok none
  | c :: rest =>
      if !inClass && c == '\x7b' then (closeGroup false 0 rest).map fun parts => some ([], parts)
      else if !inClass && c == '\x7d' then .error .unopened
      else (findGroup (classAfter inClass c) rest).map (Option.map (consFirst c))

/-- Put a character in front of the first of several texts. -/
def consHead (c : Char) : List (List Char) → List (List Char)
  | [] => [[c]]
  | first :: others => (c :: first) :: others

/-- Cut the inside of a group at the commas that stand in no inner group. -/
def alternatives (depth : Nat) : List Char → List (List Char)
  | [] => [[]]
  | c :: rest =>
      if c = ',' ∧ depth = 0 then [] :: alternatives depth rest
      else
        consHead c
          (alternatives (if c = '\x7b' then depth + 1 else if c = '\x7d' then depth - 1 else depth)
            rest)

/-- Expand a pattern in at most `steps` rounds. Each round takes away a pair of
braces, so as many rounds as there are characters are enough. -/
def expandWithin : Nat → List Char → Except BraceProblem (List (List Char))
  | 0, pattern => .ok [pattern]
  | steps + 1, pattern =>
      match findGroup false pattern with
      | .error problem => .error problem
      | .ok none => .ok [pattern]
      | .ok (some (before, inside, after)) =>
          ((alternatives 0 inside).mapM fun alternative =>
            expandWithin steps (before ++ alternative ++ after)).map List.flatten

/-- The patterns without groups that a pattern stands for. -/
def expand (pattern : List Char) : Except BraceProblem (List (List Char)) :=
  expandWithin (pattern.length + 1) pattern

end DnsReconcile.Pattern
