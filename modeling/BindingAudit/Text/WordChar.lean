import BindingAudit.Text.Ranges
import BindingAudit.Text.WordChar.Table

/-!
# Word characters

The characters that words are made of: letters and numbers of any script, and the underscore.
-/

namespace BindingAudit.Text

/-- Whether a character is a letter, a number or an underscore. -/
def isWordCharacter (c : Char) : Bool :=
  let n := c.toNat
  if n < 0x80 then c.isAlphanum || c == '_'
  else inRanges WordChar.ranges n

end BindingAudit.Text
