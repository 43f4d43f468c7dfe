import BindingAudit.Data.Document
import BindingAudit.Element.Builder
import BindingAudit.Workspace.Basic

/-!
# Element models

An element model describes the tree of declared objects of one source as a document:

    source: Main.qml                # optional, relative to the model
    root:
      type: Item
      id: root                      # optional
      span: [0, 240]                # or {offset: 0, length: 240}
      bindings:
        - {property: interval, expression: timer.interval, span: [120, 15]}
      children: [...]

`buildTree` turns the root of such a document into an element tree, numbering the elements in
document order.  The document may share nodes; a mapping that is reached a second time by way of
children is refused, so that a cycle cannot be followed.
-/

namespace BindingAudit

/-- Why a document is not an element model. -/
inductive ModelReason where
  | unreadable (error : FileError)
  | notUtf8 (fault : Text.Utf8.Fault)
  | notJson (problem : String)
  | notYaml
  | noRoot
  | source
  | notMapping
  | repeated
  | noType
  | id
  | spanShape
  | spanNumbers
  | spanNegative
  | bindingsShape
  | bindingShape
  | bindingTexts
  | childrenShape
deriving DecidableEq, Repr

/-- The wording of a reason. -/
def ModelReason.message : ModelReason → String
  | .unreadable error => "cannot read file (" ++ error.reason ++ ")"
  | .notUtf8 fault =>
    "not valid UTF-8 text (" ++ fault.reason.message ++ " at byte " ++ toString fault.start ++ ")"
  | .notJson problem => "not valid JSON: " ++ problem
  | .notYaml => "not valid YAML"
  | .noRoot => "document must be a mapping with a 'root' element"
  | .source => "'source' must be a non-empty string"
  | .notMapping => "element must be a mapping"
  | .repeated => "element appears more than once (recursive anchor)"
  | .noType => "element needs a non-empty 'type'"
  | .id => "'id' must be a string"
  | .spanShape => "span must be [offset, length] or \x7boffset, length\x7d"
  | .spanNumbers => "span offset and length must be integers"
  | .spanNegative => "span offset and length must not be negative"
  | .bindingsShape => "'bindings' must be a list"
  | .bindingShape => "binding must be a mapping"
  | .bindingTexts => "binding needs string 'property' and 'expression'"
  | .childrenShape => "'children' must be a list"

/-- A reason and the place in the document it applies to; the place is empty where it is the
document as a whole. -/
structure ModelFault where
  reason : ModelReason
  location : String := ""
deriving DecidableEq, Repr

/-- The wording of a fault in the model at a path. -/
def ModelFault.message (f : ModelFault) (path : String) : String :=
  path ++ (if f.location = "" then "" else " at " ++ f.location) ++ ": " ++ f.reason.message

namespace Model

/-! ## The parts of an element -/

/-- The value of a mapping's key, as a node; a key that is absent has null. -/
def fieldNode (d : Document) (entries : List (Scalar × Nat)) (key : String) : Node :=
  match lookupText entries key with
  | some i => d.node i
  | none => .scalar .null

/-- A list, where something that counts as absent is the empty list. -/
def listOf? (n : Node) : Option (List Nat) :=
  if n.truthy then
    match n with
    | .list items => some items
    | _ => none
  else some []

/-- An integer. -/
def int? : Node → Option Int
  | .scalar (.int i) => some i
  | _ => none

/-- The two numbers of a span, from a list of two or a mapping. -/
def spanParts? (d : Document) : Node → Option (Node × Node)
  | .map entries => some (fieldNode d entries "offset", fieldNode d entries "length")
  | .list [a, b] | .tuple [a, b] => some (d.node a, d.node b)
  | _ => none

/-- Read a span. -/
def span (d : Document) (n : Node) (location : String) : Except ModelFault Span :=
  match spanParts? d n with
  | none => .error ⟨.spanShape, location⟩
  | some (a, b) =>
    match int? a, int? b with
    | some offset, some length =>
      if offset < 0 ∨ length < 0 then .error ⟨.spanNegative, location⟩ else .ok ⟨offset, length⟩
    | _, _ => .error ⟨.spanNumbers, location⟩

/-- The type, id and span of an element. -/
def head (d : Document) (entries : List (Scalar × Nat)) (location : String) :
    Except ModelFault (String × Option String × Span) :=
  match fieldNode d entries "type" with
  | .scalar (.text typeName) =>
    if typeName = "" then .error ⟨.noType, location⟩
    else
      match fieldNode d entries "id" with
      | .scalar .null => do
        let s ← span d (fieldNode d entries "span") (location ++ ".span")
        return (typeName, none, s)
      | .scalar (.text id) => do
        let s ← span d (fieldNode d entries "span") (location ++ ".span")
        return (typeName, some id, s)
      | _ => .error ⟨.id, location⟩
  | _ => .error ⟨.noType, location⟩

/-- A binding before it belongs to an element. -/
structure BindingPart where
  property : String
  expression : String
  span : Span
deriving DecidableEq, Repr

/-- Read a binding. -/
def binding (d : Document) (n : Node) (location : String) : Except ModelFault BindingPart :=
  match n with
  | .map entries =>
    match fieldNode d entries "property", fieldNode d entries "expression" with
    | .scalar (.text property), .scalar (.text expression) => do
      let s ← span d (fieldNode d entries "span") (location ++ ".span")
      return ⟨property, expression, s⟩
    | _, _ => .error ⟨.bindingTexts, location⟩
  | _ => .error ⟨.bindingShape, location⟩

/-- The location of an item of a list under a key. -/
def itemLocation (location key : String) (i : Nat) : String :=
  location ++ "." ++ key ++ "[" ++ toString i ++ "]"

/-- Read bindings from the one with number `i` on. -/
def bindingsFrom (d : Document) (location : String) :
    Nat → List Nat → Except ModelFault (List BindingPart)
  | _, [] => .ok []
  | i, n :: rest => do
    let b ← binding d (d.node n) (itemLocation location "bindings" i)
    let bs ← bindingsFrom d location (i + 1) rest
    return b :: bs

/-- Read the bindings of an element. -/
def bindings (d : Document) (entries : List (Scalar × Nat)) (location : String) :
    Except ModelFault (List BindingPart) :=
  match listOf? (fieldNode d entries "bindings") with
  | none => .error ⟨.bindingsShape, location⟩
  | some items => bindingsFrom d location 0 items

/-- The children of an element. -/
def children (d : Document) (entries : List (Scalar × Nat)) (location : String) :
    Except ModelFault (List Nat) :=
  match listOf? (fieldNode d entries "children") with
  | none => .error ⟨.childrenShape, location⟩
  | some items => .ok items

/-! ## The tree -/

/-- A node still to be read as an element, with the index of its parent and its location. -/
structure Pending where
  node : Nat
  parent : Option Nat
  location : String
deriving DecidableEq, Repr

/-- The children of an element as pending nodes, numbered from `i`. -/
def pendingFrom (parent : Nat) (location : String) : Nat → List Nat → List Pending
  | _, [] => []
  | i, n :: rest =>
    ⟨n, some parent, itemLocation location "children" i⟩ :: pendingFrom parent location (i + 1) rest

/-- Add an element with its bindings to a builder.  The result is the element's index and the
extended builder. -/
def addTo (b : TreeBuilder) (parent : Option Nat) (typeName : String) (id : Option String)
    (s : Span) (parts : List BindingPart) : Except ElementError (Nat × TreeBuilder) := do
  let (index, b) ← b.addElement typeName s id (parent.map Int.ofNat)
  let b ← parts.foldlM
    (fun b part => (·.2) <$> b.addBinding index part.property part.expression part.span) b
  return (index, b)

/-- Read pending nodes, the first first and its children before the others.  `seen` holds the
mappings read so far.  Each step reads a mapping that was not seen before, so there are no more
steps than nodes; `fuel` is their number. -/
def readPending (d : Document) :
    Nat → List Pending → List Nat → TreeBuilder → Except ModelFault TreeBuilder
  | _, [], _, b => .ok b
  | 0, p :: _, _, _ => .error ⟨.repeated, p.location⟩
  | fuel + 1, p :: rest, seen, b =>
    match d.node p.node with
    | .map entries =>
      if p.node ∈ seen then .error ⟨.repeated, p.location⟩
      else do
        let (typeName, id, s) ← head d entries p.location
        let parts ← bindings d entries p.location
        let items ← children d entries p.location
        match addTo b p.parent typeName id s parts with
        | .error _ => .error ⟨.notMapping, p.location⟩
        | .ok (index, b) =>
          readPending d fuel (pendingFrom index p.location 0 items ++ rest) (p.node :: seen) b
    | _ => .error ⟨.notMapping, p.location⟩

/-- The element tree of a node of a document. -/
def buildTree (d : Document) (root : Nat) : Except ModelFault ElementTree := do
  let b ← readPending d (d.nodes.size + 1) [⟨root, none, "root"⟩] [] {}
  match b.build with
  | .ok t => return t
  | .error _ => .error ⟨.notMapping, "root"⟩

/-- The element tree of a value. -/
def treeOfData (root : Data) : Except ModelFault ElementTree :=
  let d := Document.ofData root
  buildTree d d.top

end Model

end BindingAudit
