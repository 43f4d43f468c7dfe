import BindingAudit.Text.CharacterName.Table
import BindingAudit.Text.Search

/-!
# Character names

Characters may be written by their names, in capitals or not.
-/

namespace BindingAudit.Text

/-- Whether a text is the name of a character. -/
def isCharacterName (name : String) : Bool :=
  let capitals := name.toList.map Char.toUpper
  CharacterName.nameLines.any fun line => (splitAt ';' line.toList).contains capitals

end BindingAudit.Text
