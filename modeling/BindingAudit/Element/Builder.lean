import BindingAudit.Element.Basic

/-!
# Building element trees

Elements are added top down: a parent has to be there before its children.  A request that names
an element which does not exist is refused and changes nothing.
-/

namespace BindingAudit

/-- Why an element cannot be added or found. -/
inductive ElementError where
  /-- A second element without a parent. -/
  | secondRoot
  | noParent (index : Int)
  | noOwner (index : Int)
  | empty
  | noElement (index : Int)
  /-- A position outside the records of a tree. -/
  | noRecord
deriving DecidableEq, Repr

/-- The wording of an element error. -/
def ElementError.message : ElementError → String
  | .secondRoot => "Only the root element may be added without a parent"
  | .noParent index => "Parent index " ++ toString index ++ " does not refer to an existing element"
  | .noOwner index => "Element index " ++ toString index ++ " does not refer to an existing element"
  | .empty => "An element tree needs at least a root element"
  | .noElement index => "No element at index " ++ toString index
  | .noRecord => "tuple index out of range"

/-- The elements added so far. -/
structure TreeBuilder where
  elements : Array Element := #[]
deriving DecidableEq, Repr, Inhabited

namespace TreeBuilder

/-- Whether an integer is the index of an element added before. -/
def has (b : TreeBuilder) (i : Int) : Bool :=
  0 ≤ i && i < b.elements.size

/-- Add an element that refers to an existing parent, as the last of its children. -/
def addChild (b : TreeBuilder) (p : Nat) (e : Element) : TreeBuilder :=
  let index := b.elements.size
  ⟨(b.elements.modify p fun q => { q with children := q.children ++ [index] }).push
    { e with parent := some p }⟩

/-- Add an element.  The result is its index and the extended builder; only the first element
may be without a parent. -/
def addElement (b : TreeBuilder) (typeName : String) (span : Span) (id : Option String)
    (parent : Option Int) : Except ElementError (Nat × TreeBuilder) :=
  let e : Element := { typeName, span, id }
  match parent with
  | none =>
    if b.elements.isEmpty then .ok (0, ⟨b.elements.push e⟩) else .error .secondRoot
  | some p =>
    if b.has p then .ok (b.elements.size, b.addChild p.toNat e) else .error (.noParent p)

/-- Add a binding to an element.  The result is the binding and the extended builder. -/
def addBinding (b : TreeBuilder) (owner : Int) (property expression : String) (span : Span) :
    Except ElementError (Binding × TreeBuilder) :=
  if b.has owner then
    let binding : Binding := ⟨property, expression, span, owner.toNat⟩
    .ok (binding,
      ⟨b.elements.modify owner.toNat fun e => { e with bindings := e.bindings ++ [binding] }⟩)
  else .error (.noOwner owner)

/-- The tree of the elements added so far. -/
def build (b : TreeBuilder) : Except ElementError ElementTree :=
  if h : 0 < b.elements.size then .ok ⟨b.elements, h⟩ else .error .empty

end TreeBuilder

namespace ElementTree

/-- The index of an element, checked. -/
def element (t : ElementTree) (i : Int) : Except ElementError Nat :=
  if 0 ≤ i ∧ i < t.size then .ok i.toNat else .error (.noElement i)

/-- The position of a record, where a negative number counts from the end. -/
def record (t : ElementTree) (i : Int) : Except ElementError Nat :=
  let position := if i < 0 then i + t.size else i
  if 0 ≤ position ∧ position < t.size then .ok position.toNat else .error .noRecord

end ElementTree

end BindingAudit
