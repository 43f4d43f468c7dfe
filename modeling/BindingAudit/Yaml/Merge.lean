import BindingAudit.Yaml.Graph

/-!
# Merge keys

The key `<<` of a mapping names one mapping, or a sequence of them, whose entries come before
the mapping's own; since a later entry wins over an earlier one with the same key, they act as
defaults.  Of several merged mappings the first named wins.  The merged mappings have their own
merges done first.
-/

namespace BindingAudit.Yaml

/-- The entries of a mapping node; other nodes have none. -/
def entriesOf (nodes : Array TaggedNode) (i : Nat) : List (Nat × Nat) :=
  match nodes[i]? with
  | some ⟨_, .mapping entries⟩ => entries
  | _ => []

/-- Replace the entries of a mapping node. -/
def setEntries (nodes : Array TaggedNode) (i : Nat) (entries : List (Nat × Nat)) :
    Array TaggedNode :=
  nodes.modify i fun n => { n with content := .mapping entries }

/-- Whether a node is a mapping. -/
def isMapping (nodes : Array TaggedNode) (i : Nat) : Bool :=
  match nodes[i]? with
  | some ⟨_, .mapping _⟩ => true
  | _ => false

/-- The tag of a node. -/
def tagOf (nodes : Array TaggedNode) (i : Nat) : Tag :=
  (nodes[i]?.map (·.tag)).getD .unknown

mutual

/-- Do the merges of a mapping node from its entry number `index` on.  `merged` holds the
entries merged in so far.  `fuel` bounds the number of steps. -/
def mergeFrom : Nat → Nat → Nat → List (Nat × Nat) → Array TaggedNode →
    Except Fault (Array TaggedNode)
  | 0, _, _, _, _ => .error .malformed
  | fuel + 1, i, index, merged, nodes =>
    let entries := entriesOf nodes i
    match entries[index]? with
    | none => .ok (if merged.isEmpty then nodes else setEntries nodes i (merged ++ entries))
    | some (k, v) =>
      match tagOf nodes k with
      | .merge => do
        let nodes := setEntries nodes i (entries.eraseIdx index)
        match (nodes[v]?.map (·.content)).getD (.scalar "") with
        | .mapping _ =>
          let nodes ← mergeFrom fuel v 0 [] nodes
          mergeFrom fuel i index (merged ++ entriesOf nodes v) nodes
        | .sequence items =>
          let (parts, nodes) ← mergeEach fuel items nodes
          mergeFrom fuel i index (merged ++ parts.reverse.flatten) nodes
        | .scalar _ => .error .malformed
      | .value =>
        mergeFrom fuel i (index + 1) merged (nodes.modify k fun n => { n with tag := .text })
      | _ => mergeFrom fuel i (index + 1) merged nodes

/-- Do the merges of several mapping nodes and give the entries of each. -/
def mergeEach : Nat → List Nat → Array TaggedNode →
    Except Fault (List (List (Nat × Nat)) × Array TaggedNode)
  | 0, _, _ => .error .malformed
  | _, [], nodes => .ok ([], nodes)
  | fuel + 1, v :: rest, nodes =>
    if isMapping nodes v then do
      let nodes ← mergeFrom fuel v 0 [] nodes
      let entries := entriesOf nodes v
      let (parts, nodes) ← mergeEach fuel rest nodes
      return (entries :: parts, nodes)
    else .error .malformed

end

/-- The number of entries and items of all nodes. -/
def totalParts (nodes : Array TaggedNode) : Nat :=
  nodes.foldl
    (fun n node =>
      match node.content with
      | .scalar _ => n + 1
      | .sequence items => n + items.length + 1
      | .mapping entries => n + entries.length + 1)
    0

/-- Do the merges of a mapping node.  Every step moves on in some mapping or removes a merge
key, so the square of the size of the graph bounds their number. -/
def merge (i : Nat) (nodes : Array TaggedNode) : Except Fault (Array TaggedNode) :=
  let size := totalParts nodes + 2
  mergeFrom (size * size) i 0 [] nodes

end BindingAudit.Yaml
