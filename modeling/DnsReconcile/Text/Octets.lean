/-
# Text measured in octets

A character string of a TXT record holds at most 255 octets of UTF-8. Longer text
is cut from the left into pieces as long as that limit allows, never inside a
character.
-/

namespace DnsReconcile.Text

/-- The number of octets of a text in UTF-8. -/
def octets (text : List Char) : Nat :=
  text.foldr (fun c count => c.utf8Size + count) 0

/-- The most octets one character string may hold. -/
def chunkLimit : Nat := 255

/-- Cut a text into pieces, when the piece under way already holds `used` octets.
The head of the answer continues that piece. -/
def chunksFrom (used : Nat) : List Char → List (List Char)
  | [] => [[]]
  | c :: rest =>
      if used + c.utf8Size ≤ chunkLimit then
        match chunksFrom (used + c.utf8Size) rest with
        | [] => [[c]]
        | piece :: pieces => (c :: piece) :: pieces
      else
        match chunksFrom c.utf8Size rest with
        | [] => [[], [c]]
        | piece :: pieces => [] :: (c :: piece) :: pieces

/-- The text cut into pieces of at most `chunkLimit` octets, each as long as
possible. Short text is its own only piece, also when it is empty. -/
def chunks (text : List Char) : List (List Char) :=
  chunksFrom 0 text

end DnsReconcile.Text
