import BindingAudit.Element.Basic
import BindingAudit.Settings

/-!
# Scopes

An id used in an element means the nearest declaration of it: the element's enclosing scopes are
searched from the inside out, in each the direct children in order.  An inner declaration hides
the outer ones, whatever their types.
-/

namespace BindingAudit

namespace ElementTree

/-- The first child of an element that declares an id. -/
def childWithId? (t : ElementTree) (id : String) (scope : Nat) : Option Nat :=
  (t.children scope).find? fun c => t.id? c == some id

/-- The declaration an id used in an element refers to. -/
def declaration? (t : ElementTree) (id : String) (i : Nat) : Option Nat :=
  (t.ancestors i).findSome? (t.childWithId? id)

/-- Whether an id used in an element refers to an object of a native type. -/
def refersToNative (t : ElementTree) (s : Settings) (id : String) (i : Nat) : Bool :=
  match (t.declaration? id i).bind t.get? with
  | none => false
  | some e => s.isNativeType e.typeName

end ElementTree

end BindingAudit
