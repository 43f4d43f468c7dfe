import BindingAudit.Text.Identifier.Table
import BindingAudit.Text.Ranges

/-!
# Identifiers

The characters that identifiers are made of: a letter of any script or an underscore, then letters,
digits, marks and connectors.
-/

namespace BindingAudit.Text

/-- Whether an identifier may start with a character. -/
def startsIdentifier (c : Char) : Bool :=
  let n := c.toNat
  if n < 0x80 then c.isAlpha || c == '_'
  else inRanges Identifier.startRanges n

/-- Whether a character may stand in an identifier after its start. -/
def isIdentifierPart (c : Char) : Bool :=
  startsIdentifier c || c.isDigit || inRanges Identifier.partRanges c.toNat

/-- The first character that does not belong in an identifier made of the given characters. -/
def strayCharacter? : List Char → Option Char
  | [] => none
  | c :: rest => if startsIdentifier c then rest.find? (!isIdentifierPart ·) else some c

end BindingAudit.Text
