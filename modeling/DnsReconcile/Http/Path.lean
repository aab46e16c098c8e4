/-
# Paths

The way to a resource at its host, as segments with slashes between them. Segments
that mean the same place or the place above are followed when the address is read,
so they are never sent. A drive, which is a letter and a colon, is a place of its
own: nothing leads above it.
-/

import DnsReconcile.Http.Percent
import DnsReconcile.Http.Scheme

namespace DnsReconcile.Http.Path

/-- Characters that stand for themselves in a path. -/
def isPlain (c : Char) : Bool :=
  32 < c.toNat && c.toNat < 127 &&
    !(['"', '#', '<', '>', '?', '\x60', '\x7b', '\x7d'].contains c)

/-- How many dots a segment consists of, where a dot may be written with a percent
sign. -/
def dots? : List Char → Option Nat
  | [] => some 0
  | '.' :: rest => (dots? rest).map (· + 1)
  | '%' :: '2' :: e :: rest => if e = 'e' ∨ e = 'E' then (dots? rest).map (· + 1) else none
  | _ => none

/-- Whether a segment begins with a drive. Only a backslash may follow it. -/
def beginsWithDrive : List Char → Bool
  | letter :: mark :: rest =>
      letter.isAlpha && (mark == ':' || mark == '|') && (rest.isEmpty || rest.head? == some '\\')
  | _ => false

/-- Whether a segment is a drive. -/
def isDrive (segment : List Char) : Bool :=
  segment.length == 2 && beginsWithDrive segment

/-- The place above the one that segments lead to. The last segment stands first. -/
def up : List (List Char) → List (List Char)
  | [] => []
  | last :: above => if beginsWithDrive last then last :: above else above

/-- A drive with a colon, which is how a file's address shows it at the front. -/
def withColon (segment : List Char) : List Char :=
  segment.take 1 ++ [':']

/-- Follow segments in order. `above` holds the segments so far, the last one
first. One dot stands for the same place and two for the one above. -/
def resolve (ofFile : Bool) (above : List (List Char)) : List (List Char) → List (List Char)
  | [] => above.reverse
  | segment :: rest =>
      let closed (place : List (List Char)) : List (List Char) :=
        if rest.isEmpty then [] :: place else place
      match dots? segment with
      | some 1 => resolve ofFile (closed above) rest
      | some 2 => resolve ofFile (closed (up above)) rest
      | _ =>
          if ofFile && above.isEmpty && isDrive segment then
            resolve ofFile [withColon segment] rest
          else resolve ofFile (segment :: above) rest

/-- The segments of a text that follows a slash, brought into the order in which they
are followed. -/
def segments (scheme : Scheme) (text : List Char) : List (List Char) :=
  resolve scheme.isFile [] (text.splitOnP scheme.isSlash)

/-- Segments as they are sent. -/
def print (segments : List (List Char)) : List Char :=
  segments.flatMap fun segment => '/' :: Percent.encode isPlain segment

/-- Segments without empty ones at the front. -/
def dropEmpty (segments : List (List Char)) : List (List Char) :=
  match segments.dropWhile (·.isEmpty) with
  | [] => [[]]
  | kept => kept

end DnsReconcile.Http.Path
