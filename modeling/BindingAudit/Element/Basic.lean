import BindingAudit.Span

/-!
# Element trees

The declared objects of a user-interface document, as an arena: every element sits at an index
and refers to its parent and its children by index.  Index 0 is the root of the document.  The
builder of `Element.Builder` gives every other element a parent with a smaller index, so a chain
of parents has at most as many members as the index it starts from, and no branch is deeper than
the arena is long; `ancestors` and `walk` count on that for their bounds.
-/

namespace BindingAudit

/-- A property assignment inside an element.  The span covers its right-hand side. -/
structure Binding where
  property : String
  expression : String
  span : Span
  /-- The index of the element the assignment stands in. -/
  owner : Nat
deriving DecidableEq, Repr, Inhabited

/-- A declared object. -/
structure Element where
  typeName : String
  span : Span
  id : Option String := none
  parent : Option Nat := none
  children : List Nat := []
  bindings : List Binding := []
deriving DecidableEq, Repr, Inhabited

/-- An arena of elements with at least a root. -/
structure ElementTree where
  elements : Array Element
  nonempty : 0 < elements.size
deriving DecidableEq, Repr

namespace ElementTree

/-- The number of elements. -/
def size (t : ElementTree) : Nat :=
  t.elements.size

/-- The element at an index. -/
def get? (t : ElementTree) (i : Nat) : Option Element :=
  t.elements[i]?

/-- The root element. -/
def root (t : ElementTree) : Element :=
  have := t.nonempty
  t.elements[0]

/-- The index of an element's parent; the root has none. -/
def parent? (t : ElementTree) (i : Nat) : Option Nat :=
  (t.get? i).bind (·.parent)

/-- The indices of an element's children, in the order of their declaration. -/
def children (t : ElementTree) (i : Nat) : List Nat :=
  ((t.get? i).map (·.children)).getD []

/-- The bindings of an element, in order. -/
def bindings (t : ElementTree) (i : Nat) : List Binding :=
  ((t.get? i).map (·.bindings)).getD []

/-- The id of an element, if it declares one. -/
def id? (t : ElementTree) (i : Nat) : Option String :=
  (t.get? i).bind (·.id)

/-- Up to `fuel` ancestors of an element, the nearest first. -/
def ancestorsUpTo (t : ElementTree) : Nat → Nat → List Nat
  | 0, _ => []
  | fuel + 1, i =>
    match t.parent? i with
    | none => []
    | some p => p :: t.ancestorsUpTo fuel p

/-- The proper ancestors of an element, the nearest first. -/
def ancestors (t : ElementTree) (i : Nat) : List Nat :=
  t.ancestorsUpTo i i

/-- The top of the chain of parents an element belongs to. -/
def topOf (t : ElementTree) (i : Nat) : Nat :=
  (t.ancestors i).getLastD i

/-- An element and its descendants down to a depth, every element before its descendants and
siblings in order. -/
def subtree (t : ElementTree) : Nat → Nat → List Nat
  | 0, _ => []
  | depth + 1, i => i :: (t.children i).flatMap fun c => t.subtree depth c

/-- All elements in document order. -/
def walk (t : ElementTree) : List Nat :=
  t.subtree t.size 0

end ElementTree

end BindingAudit
