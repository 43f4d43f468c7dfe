import BindingAudit.Data.Document
import BindingAudit.Yaml.Merge
import BindingAudit.Yaml.SetOrder
import BindingAudit.Yaml.Token.Lexer

/-!
# Reading YAML

A YAML text as a document.  A reference and the node it refers to are one node of the document,
so sharing and cycles are kept.  Keys must be scalars; of two equal keys the last value stays, at
the place of the first.  Values are made breadth first, from the top down.
-/

namespace BindingAudit.Yaml

/-- The state while values are made: the tagged nodes, the document nodes with the same indices,
and which collections have been taken up. -/
structure Maker where
  tagged : Array TaggedNode
  nodes : Array Node
  seen : Array Bool

namespace Maker

/-- The text of a node that stands for a scalar: its own, or that of the `=` entry of a mapping.
`fuel` bounds how many mappings are followed. -/
def textOf (m : Maker) : Nat → Nat → Except Fault String
  | 0, _ => .error .malformed
  | fuel + 1, i =>
    match m.tagged[i]?.map TaggedNode.content with
    | some (.scalar text) => .ok text
    | some (.mapping entries) =>
      match entries.find? (fun e => tagOf m.tagged e.1 == .value) with
      | some (_, v) => m.textOf fuel v
      | none => .error .malformed
    | _ => .error .malformed

/-- The scalar of a node with a tag of scalars.  What is no number but is read like one is a value
of its own for each node. -/
def scalarOf (m : Maker) (i : Nat) (tag : Tag) : Except Fault Scalar := do
  if [Tag.merge, .value, .unknown].contains tag then .error .malformed
  else
    let text ← m.textOf (m.tagged.size + 1) i
    if tag == .timestamp && isMapping m.tagged i then .error (.value .timestampMapping)
    else
      match ← tag.scalar text with
      | .real (.nan (_ + 1)) => return .real (.nan (i + 1))
      | s => return s

/-- Take up a node as a value: a scalar is made at once, a collection is queued unless it has
been already. -/
def visit (m : Maker) (i : Nat) : Except Fault (List Nat × Maker) :=
  if m.seen[i]?.getD true then .ok ([], m)
  else
    let marked := { m with seen := m.seen.setIfInBounds i true }
    let tag := tagOf m.tagged i
    if tag.isCollection then .ok ([i], marked)
    else do
      let s ← m.scalarOf i tag
      return ([], { marked with nodes := m.nodes.setIfInBounds i (.scalar s) })

/-- Take up several nodes, in order. -/
def visitAll (m : Maker) : List Nat → Except Fault (List Nat × Maker)
  | [] => .ok ([], m)
  | i :: rest => do
    let (queued, m) ← m.visit i
    let (more, m) ← m.visitAll rest
    return (queued ++ more, m)

/-- Take up the entries of a mapping, key before value.  A collection cannot be a key. -/
def visitEntries (m : Maker) :
    List (Nat × Nat) → List (Scalar × Nat) → Except Fault (List (Scalar × Nat) × List Nat × Maker)
  | [], done => .ok (done, [], m)
  | (k, v) :: rest, done =>
    let tag := tagOf m.tagged k
    if tag.isCollection then .error .malformed
    else do
      let key ← m.scalarOf k tag
      let (queued, m) ← m.visit v
      let (entries, more, m) ← m.visitEntries rest (setEntry done key v)
      return (entries, queued ++ more, m)

/-- Take up the one-entry mappings of a sequence of pairs; each becomes a tuple of two. -/
def visitPairs (m : Maker) : List Nat → Except Fault (List Nat × List Nat × Maker)
  | [] => .ok ([], [], m)
  | i :: rest =>
    match m.tagged[i]?.map TaggedNode.content with
    | some (.mapping [(k, v)]) => do
      let (queued, m) ← m.visitAll [k, v]
      let pair := m.nodes.size
      let m := { m with nodes := m.nodes.push (.tuple [k, v]) }
      let (pairs, more, m) ← m.visitPairs rest
      return (pair :: pairs, queued ++ more, m)
    | _ => .error .malformed

/-- Make the value of a queued collection; the result has the collections queued by it. -/
def make (m : Maker) (i : Nat) : Except Fault (List Nat × Maker) :=
  let put := fun (m : Maker) (n : Node) => { m with nodes := m.nodes.setIfInBounds i n }
  let entries := fun (_ : Unit) => do
    let tagged ← merge i m.tagged
    { m with tagged }.visitEntries (entriesOf tagged i) []
  match m.tagged[i]? with
  | some ⟨.sequence, .sequence items⟩ => do
    let (queued, m) ← m.visitAll items
    return (queued, put m (.list items))
  | some ⟨.pairs, .sequence items⟩ => do
    let (pairs, queued, m) ← m.visitPairs items
    return (queued, put m (.list pairs))
  | some ⟨.mapping, .mapping _⟩ => do
    let (entries, queued, m) ← entries ()
    return (queued, put m (.map entries))
  | some ⟨.set, .mapping _⟩ => do
    let (entries, queued, m) ← entries ()
    return (queued, put m (.set (SetOrder.ordered (entries.map (·.1)))))
  | _ => .error .malformed

/-- Make the values of all queued collections, first come first served.  Every collection is
queued at most once, so a step for each node suffices. -/
def run : Nat → List Nat → Maker → Except Fault Maker
  | _, [], m => .ok m
  | 0, _ :: _, _ => .error .malformed
  | fuel + 1, i :: rest, m => do
    let (queued, m) ← m.make i
    run fuel (rest ++ queued) m

end Maker

/-- Read a YAML text. -/
def read (text : List Char) : Except Fault Document := do
  match ← readGraph (tokenize text) with
  | none => return ⟨#[.scalar .null], 0⟩
  | some (top, tagged) =>
    let m : Maker :=
      ⟨tagged, Array.replicate tagged.size (.scalar .null), Array.replicate tagged.size false⟩
    let (queued, m) ← m.visit top
    let m ← Maker.run tagged.size queued m
    return ⟨m.nodes, top⟩

end BindingAudit.Yaml
