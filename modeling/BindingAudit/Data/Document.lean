import BindingAudit.Data.Basic

/-!
# Documents as graphs

A document with its sharing.  Every list and mapping has an identity, its index in `nodes`; an
alias makes one node reachable by two ways, and an anchored collection may even contain itself.

A value inside a document is a `Part`.  `items?` takes it apart without copying anything, and
`data` gives the value it denotes, with the sharing forgotten.  `ofData` lays out a value that
shares nothing.
-/

namespace BindingAudit

/-- A node of a document; collections refer to their parts by index. -/
inductive Node where
  | scalar (value : Scalar)
  | list (items : List Nat)
  | tuple (items : List Nat)
  | map (entries : List (Scalar × Nat))
  | set (members : List Scalar)
deriving DecidableEq, Repr, Inhabited

namespace Node

/-- Whether a node counts as true where only that matters: an empty collection does not. -/
def truthy : Node → Bool
  | .scalar s => s.truthy
  | .list items => !items.isEmpty
  | .tuple items => !items.isEmpty
  | .map entries => !entries.isEmpty
  | .set members => !members.isEmpty

/-- The full name of a node's kind, as messages give it. -/
def kindName : Node → String
  | .scalar s => s.kindName
  | .list _ => "list"
  | .tuple _ => "tuple"
  | .map _ => "dict"
  | .set _ => "set"

end Node

/-- A value inside a document: one of its nodes, or a scalar. -/
inductive Part where
  | node (index : Nat)
  | scalar (value : Scalar)
deriving DecidableEq, Repr

/-- A document: its nodes, and the index of the node it starts from. -/
structure Document where
  nodes : Array Node
  top : Nat
deriving DecidableEq, Repr

namespace Document

/-- The node of an index; an index outside the document denotes null. -/
def node (d : Document) (i : Nat) : Node :=
  d.nodes[i]?.getD (.scalar .null)

/-! ## Values as documents -/

mutual

/-- Add the nodes of a value to those already laid out, parts before wholes.  The result is the
extended array and the index of the value's own node. -/
def store (ns : Array Node) : Data → Array Node × Nat
  | .scalar s => (ns.push (.scalar s), ns.size)
  | .list items =>
    let (ns, ids) := storeItems ns items
    (ns.push (.list ids), ns.size)
  | .tuple items =>
    let (ns, ids) := storeItems ns items
    (ns.push (.tuple ids), ns.size)
  | .map entries =>
    let (ns, ids) := storeEntries ns entries
    (ns.push (.map ids), ns.size)
  | .set members => (ns.push (.set members), ns.size)
  | .again _ => (ns.push (.scalar .null), ns.size)

/-- Add the nodes of several values, in order. -/
def storeItems (ns : Array Node) : List Data → Array Node × List Nat
  | [] => (ns, [])
  | d :: rest =>
    let (ns, id) := store ns d
    let (ns, ids) := storeItems ns rest
    (ns, id :: ids)

/-- Add the nodes of a mapping's values, in order. -/
def storeEntries (ns : Array Node) : List (Scalar × Data) → Array Node × List (Scalar × Nat)
  | [] => (ns, [])
  | (k, d) :: rest =>
    let (ns, id) := store ns d
    let (ns, ids) := storeEntries ns rest
    (ns, (k, id) :: ids)

end

/-- The document of a value, with nothing shared. -/
def ofData (d : Data) : Document :=
  let (ns, top) := store #[] d
  ⟨ns, top⟩

/-! ## Documents as values -/

/-- The value of a node, followed to the given depth.  `around` holds the collections it is in,
the innermost first. -/
def unfold (d : Document) : Nat → List Nat → Nat → Data
  | 0, _, _ => .null
  | depth + 1, around, i =>
    match around.idxOf? i with
    | some levels => .again levels
    | none =>
      match d.node i with
      | .scalar s => .scalar s
      | .list items => .list (items.map (d.unfold depth (i :: around)))
      | .tuple items => .tuple (items.map (d.unfold depth (i :: around)))
      | .map entries => .map (entries.map fun e => (e.1, d.unfold depth (i :: around) e.2))
      | .set members => .set members

/-- The value a part denotes.  No node is inside itself in what `unfold` follows, so a level for
each node and one for the last scalar are enough. -/
def data (d : Document) : Part → Data
  | .node i => d.unfold (d.nodes.size + 1) [] i
  | .scalar s => .scalar s

/-! ## Parts -/

/-- A part as a node. -/
def look (d : Document) : Part → Node
  | .node i => d.node i
  | .scalar s => .scalar s

/-- The items of a part: the characters of a text, the numbers of bytes, the items of a list, the
keys of a mapping, the members of a set. -/
def items? (d : Document) (p : Part) : Option (List Part) :=
  match d.look p with
  | .scalar (.text s) => some (s.toList.map fun c => .scalar (.text (String.ofList [c])))
  | .scalar (.bytes bs) => some (bs.map fun b => .scalar (.int b.toNat))
  | .scalar _ => none
  | .list items => some (items.map .node)
  | .tuple items => some (items.map .node)
  | .map entries => some (entries.map fun e => .scalar e.1)
  | .set members => some (members.map .scalar)

end Document

end BindingAudit
