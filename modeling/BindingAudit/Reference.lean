import BindingAudit.Text.Blank
import BindingAudit.Text.Search

/-!
# References

The reference a binding expression starts with: an object's id, a point and a property, with
blanks allowed around the id and the point.  Identifiers are ASCII.  Whatever follows the
property is not looked at.
-/

namespace BindingAudit

/-- A property of an object. -/
structure Reference where
  object : String
  property : String
deriving DecidableEq, Repr, Inhabited

namespace Reference

/-- Whether a character can start an identifier. -/
def startsIdentifier (c : Char) : Bool :=
  c.isAlpha || c == '_'

/-- The longest identifier a text starts with, and the rest. -/
def identifier? : List Char → Option (List Char × List Char)
  | [] => none
  | c :: rest =>
    if startsIdentifier c then
      some (c :: rest.takeWhile Text.isWordChar, rest.dropWhile Text.isWordChar)
    else none

/-- The reference an expression starts with. -/
def ofExpression? (expression : List Char) : Option Reference :=
  match identifier? (Text.trimStart expression) with
  | none => none
  | some (object, rest) =>
    match Text.trimStart rest with
    | '.' :: rest =>
      match identifier? (Text.trimStart rest) with
      | none => none
      | some (property, _) => some ⟨String.ofList object, String.ofList property⟩
    | _ => none

/-- The reference as it is written without blanks. -/
def target (r : Reference) : String :=
  r.object ++ "." ++ r.property

end Reference

end BindingAudit
