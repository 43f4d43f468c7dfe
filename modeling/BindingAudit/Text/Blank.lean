/-!
# Blank characters

The white space that may surround a binding expression: the ASCII blanks, the four
information separators, and the blanks of Unicode.  Zero-width characters and the byte order
mark are not blank.

`trim` drops blanks from both ends of a text; it is how two readings of one expression are
compared.
-/

namespace BindingAudit.Text

/-- Whether a character counts as white space. -/
def isBlank (c : Char) : Bool :=
  let n := c.toNat
  (0x09 ≤ n && n ≤ 0x0D) || (0x1C ≤ n && n ≤ 0x20) || n == 0x85 || n == 0xA0 || n == 0x1680 ||
    (0x2000 ≤ n && n ≤ 0x200A) || n == 0x2028 || n == 0x2029 || n == 0x202F || n == 0x205F ||
    n == 0x3000

/-- Drop the blanks a text starts with. -/
def trimStart (cs : List Char) : List Char :=
  cs.dropWhile isBlank

/-- Drop the blanks a text ends with. -/
def trimEnd (cs : List Char) : List Char :=
  (cs.reverse.dropWhile isBlank).reverse

/-- Drop the blanks at both ends of a text. -/
def trim (cs : List Char) : List Char :=
  trimEnd (trimStart cs)

/-- The pieces of a text between its blanks, some of which may be empty. -/
def blankPieces : List Char → List (List Char)
  | [] => [[]]
  | c :: rest =>
    if isBlank c then [] :: blankPieces rest
    else
      match blankPieces rest with
      | [] => [[c]]
      | piece :: pieces => (c :: piece) :: pieces

/-- The words of a text. -/
def words (cs : List Char) : List (List Char) :=
  (blankPieces cs).filter fun piece => !piece.isEmpty

end BindingAudit.Text
