/-
# Patterns of labels

What an ignore pattern means. Labels are divided by dots. A pattern is expanded
into alternatives; each alternative is divided at `**`, which stands for any run of
characters, dots included; what remains are globs that see a slash in place of
each dot. A pattern whose braces or classes do not close means nothing.
-/

import DnsReconcile.Error
import DnsReconcile.Pattern.Braces
import DnsReconcile.Pattern.Glob

namespace DnsReconcile

/-- What a pattern stands for: one of several alternatives, each a sequence of
globs with anything in between. -/
structure Pattern where
  choices : List (List Pattern.Glob)
deriving Repr, DecidableEq

namespace Pattern

/-- Divide an alternative at each run of two or more stars outside character
classes. `skipStars` says that such a run is under way. -/
def divide (skipStars inClass : Bool) : List Char → List (List Char)
  | [] => [[]]
  | c :: rest =>
      if c = '*' ∧ skipStars then divide true false rest
      else if c = '*' ∧ !inClass ∧ rest.head? = some '*' then [] :: divide true false rest
      else consHead c (divide false (classAfter inClass c) rest)

/-- Put slashes in place of the dots outside character classes. -/
def slashed (inClass : Bool) : List Char → List Char
  | [] => []
  | c :: rest =>
      (if !inClass && c == '.' then separator else c) :: slashed (classAfter inClass c) rest

/-- The globs of an alternative. -/
def globs? (alternative : List Char) : Option (List Glob) :=
  (divide false false alternative).mapM fun piece => Glob.read? (slashed false piece)

/-- What a text means as a pattern, or why it means nothing. -/
def read (text : String) : Except Error Pattern :=
  let refuse (reason : String) : Except Error Pattern :=
    .error (.config ("ignore pattern '" ++ text ++ "': " ++ reason))
  match expand text.toList with
  | .error problem => refuse problem.message
  | .ok texts =>
      match texts.mapM globs? with
      | none => refuse "invalid range pattern"
      | some choices => .ok ⟨choices⟩

/-- All ways to divide a text in two. -/
def cuts {α : Type} : List α → List (List α × List α)
  | [] => [([], [])]
  | c :: rest => ([], c :: rest) :: (cuts rest).map fun parts => (c :: parts.1, parts.2)

/-- Whether a sequence of globs describes a text, with any run of characters between
one glob and the next. -/
def coversWithGaps : List Glob → List Char → Bool
  | [], text => text.isEmpty
  | [glob], text => glob.covers text
  | glob :: next :: rest, text =>
      (cuts text).any fun parts =>
        glob.covers parts.1 &&
          (cuts parts.2).any fun gap => coversWithGaps (next :: rest) gap.2

/-- A label as globs see it. -/
def path (label : String) : List Char :=
  label.toList.map fun c => if c = '.' then separator else c

/-- Whether a pattern describes a label. -/
def covers (pattern : Pattern) (label : String) : Bool :=
  pattern.choices.any fun globs => coversWithGaps globs (path label)

end Pattern

/-- A way to decide whether a pattern describes a label, and which patterns make
sense. -/
structure LabelMatcher where
  covers : (pattern label : String) → Bool
  check : (pattern : String) → Except Error Unit

namespace LabelMatcher

/-- Patterns as this library reads them. One that makes no sense describes
nothing. -/
def glob : LabelMatcher where
  covers pattern label :=
    match Pattern.read pattern with
    | .ok pattern => pattern.covers label
    | .error _ => false
  check pattern := (Pattern.read pattern).map fun _ => ()

/-- A pattern describes just itself, and every pattern makes sense. -/
def exact : LabelMatcher where
  covers pattern label := pattern == label
  check _ := .ok ()

end LabelMatcher

end DnsReconcile
