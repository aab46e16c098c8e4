/-
# Blank characters

Which characters separate words, how text loses the blanks around it, and how a
line is cut into words. The class is the White_Space property of Unicode, so a
no-break space counts and a zero-width space does not.
-/

namespace DnsReconcile.Text

/-- The White_Space property of Unicode. -/
def isBlank (c : Char) : Bool :=
  let code := c.toNat
  (9 ≤ code && code ≤ 13) || code == 32 || code == 0x85 || code == 0xA0 || code == 0x1680 ||
    (0x2000 ≤ code && code ≤ 0x200A) || code == 0x2028 || code == 0x2029 || code == 0x202F ||
    code == 0x205F || code == 0x3000

/-- Text without the blanks it begins with. -/
def trimStart (text : List Char) : List Char :=
  text.dropWhile isBlank

/-- Text without the characters of a class that it ends with. -/
def dropEndWhile (belongs : Char → Bool) : List Char → List Char
  | [] => []
  | c :: rest =>
      match dropEndWhile belongs rest with
      | [] => if belongs c then [] else [c]
      | kept => c :: kept

/-- Text without the blanks it ends with. -/
def trimEnd (text : List Char) : List Char :=
  dropEndWhile isBlank text

/-- Text without the blanks around it. -/
def trim (text : List Char) : List Char :=
  trimEnd (trimStart text)

/-- Text without the dots it ends with. -/
def trimEndDots (text : List Char) : List Char :=
  dropEndWhile (· == '.') text

/-- The maximal runs of characters that are not blank, in order. -/
def words (text : List Char) : List (List Char) :=
  (text.splitOnP isBlank).filter fun word => !word.isEmpty

/-- The text without a given ending, if it has that ending. -/
def stripSuffix? (ending text : List Char) : Option (List Char) :=
  if ending.isSuffixOf text then some (text.take (text.length - ending.length)) else none

/-- The text without a given beginning, if it has that beginning. -/
def stripPrefix? : List Char → List Char → Option (List Char)
  | [], text => some text
  | _ :: _, [] => none
  | c :: beginning, d :: text => if c = d then stripPrefix? beginning text else none

end DnsReconcile.Text
