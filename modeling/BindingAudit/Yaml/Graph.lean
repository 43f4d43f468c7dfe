import BindingAudit.Yaml.Tag
import BindingAudit.Yaml.Token.Basic

/-!
# The node graph of a YAML text

Tokens are read into a graph of tagged nodes.  A collection gets its index before its parts are
read, so that a reference inside an anchored collection can point back to it.  A text holds one
document; a second one makes it malformed.  Faults are met in the order of the tokens.
-/

namespace BindingAudit.Yaml

/-- What a node consists of; collections refer to their parts by index. -/
inductive Content where
  | scalar (text : String)
  | sequence (items : List Nat)
  | mapping (entries : List (Nat × Nat))
deriving DecidableEq, Repr, Inhabited

/-- A node with its tag. -/
structure TaggedNode where
  tag : Tag
  content : Content
deriving DecidableEq, Repr, Inhabited

/-- The nodes read so far, the anchors among them, and the tokens not read yet. -/
structure Builder where
  tokens : List Token
  nodes : Array TaggedNode := #[]
  anchors : List (String × Nat) := []

/-- The names that stand for the handles of tags. -/
abbrev Handles := List (String × String)

/-- The handles every document knows. -/
def Handles.default : Handles := [("!", "!"), ("!!", "tag:yaml.org,2002:")]

namespace Builder

/-- The next token. -/
def peek (b : Builder) : Token :=
  b.tokens.headD .streamEnd

/-- Move past the next token. -/
def advance (b : Builder) : Builder :=
  { b with tokens := b.tokens.tail }

/-- The fault of meeting a token that does not fit here. -/
def unfit (b : Builder) : Fault :=
  match b.peek with
  | .broken fault => fault
  | _ => .malformed

/-- Whether the next token is one of the given. -/
def at? (b : Builder) (ts : List Token) : Bool :=
  ts.contains b.peek

/-- Add a node; the result is its index. -/
def add (b : Builder) (tag : Tag) (content : Content) : Nat × Builder :=
  (b.nodes.size, { b with nodes := b.nodes.push ⟨tag, content⟩ })

/-- Give a collection its parts. -/
def fill (b : Builder) (i : Nat) (content : Content) : Builder :=
  { b with nodes := b.nodes.modify i fun n => { n with content } }

/-- The null node that stands where nothing is written. -/
def addNull (b : Builder) : Nat × Builder :=
  b.add .null (.scalar "")

/-- Name a node, if it is anchored; a name may be given once. -/
def name (b : Builder) (anchor : Option String) (i : Nat) : Except Fault Builder :=
  match anchor with
  | none => .ok b
  | some a =>
    if b.anchors.any (fun x => x.1 == a) then .error .malformed
    else .ok { b with anchors := (a, i) :: b.anchors }

/-- Pass the comma in front of an item in brackets or braces; the first item has none. -/
def passComma (b : Builder) (first : Bool) : Except Fault Builder :=
  if first then .ok b
  else if b.peek == .flowEntry then .ok b.advance
  else .error b.unfit

end Builder

/-- The anchor and the full name of the tag in front of a node, in either order. -/
structure Properties where
  anchor : Option String := none
  tagName : Option String := none

/-- The full name of a tag. -/
def fullTag (handles : Handles) (handle : Option String) (suffix : String) : Except Fault String :=
  match handle with
  | none => .ok suffix
  | some h =>
    match handles.find? (fun x => x.1 == h) with
    | some (_, start) => .ok (start ++ suffix)
    | none => .error .malformed

/-- Read the properties in front of a node. -/
def properties (handles : Handles) (b : Builder) : Except Fault (Properties × Builder) := do
  match b.tokens with
  | .anchor _ :: .broken fault :: _ | .tag .. :: .broken fault :: _ => .error fault
  | .anchor a :: .tag h s :: _ =>
    let t ← fullTag handles h s
    return (⟨some a, some t⟩, b.advance.advance)
  | .tag h s :: .anchor a :: _ =>
    let t ← fullTag handles h s
    return (⟨some a, some t⟩, b.advance.advance)
  | .anchor a :: _ => return (⟨some a, none⟩, b.advance)
  | .tag h s :: _ =>
    let t ← fullTag handles h s
    return (⟨none, some t⟩, b.advance)
  | _ => return ({}, b)

/-- The tag of a scalar: its own, or the one its spelling gives it. -/
def Properties.scalarTag (p : Properties) (text : String) (plain : Bool) : Tag :=
  match p.tagName with
  | none => if plain then Tag.ofPlain text else .text
  | some "!" => Tag.ofPlain text
  | some t => Tag.ofName t

/-- The tag of a collection: its own, or the one of its kind. -/
def Properties.collectionTag (p : Properties) (kind : Tag) : Tag :=
  match p.tagName with
  | none => kind
  | some "!" => kind
  | some t => Tag.ofName t

/-- The empty scalar that properties without a node stand for. -/
def readEmpty (p : Properties) (b : Builder) : Except Fault (Nat × Builder) := do
  match b.peek with
  | .broken fault => .error fault
  | _ =>
    if p.anchor.isNone && p.tagName.isNone then .error .malformed
    else
      let (i, b) := b.add (p.scalarTag "" p.tagName.isNone) (.scalar "")
      let b ← b.name p.anchor i
      return (i, b)

mutual

/-- Read a node.  `block` allows block collections, and `indentless` a sequence whose dashes
stand at the column of the key before it.  `fuel` bounds the number of steps. -/
def readNode (handles : Handles) (block indentless : Bool) :
    Nat → Builder → Except Fault (Nat × Builder)
  | 0, _ => .error .malformed
  | fuel + 1, b =>
    match b.peek with
    | .reference r =>
      match b.anchors.find? (fun x => x.1 == r) with
      | some (_, i) => .ok (i, b.advance)
      | none => .error .malformed
    | _ => do
      let (p, b) ← properties handles b
      let sequence := fun (b : Builder) (read : Builder → Except Fault (List Nat × Builder)) => do
        let (i, b) := b.add (p.collectionTag .sequence) (.sequence [])
        let b ← b.name p.anchor i
        let (items, b) ← read b
        return (i, b.fill i (.sequence items))
      let mapping := fun (b : Builder)
          (read : Builder → Except Fault (List (Nat × Nat) × Builder)) => do
        let (i, b) := b.add (p.collectionTag .mapping) (.mapping [])
        let b ← b.name p.anchor i
        let (entries, b) ← read b
        return (i, b.fill i (.mapping entries))
      match b.peek with
      | .blockEntry =>
        if indentless then sequence b fun b => readIndentless handles fuel b
        else readEmpty p b
      | .scalar text plain =>
        let (i, b) := b.advance.add (p.scalarTag text plain) (.scalar text)
        let b ← b.name p.anchor i
        return (i, b)
      | .flowSequenceStart => sequence b.advance fun b => readFlowItems handles true fuel b
      | .flowMappingStart => mapping b.advance fun b => readFlowEntries handles true fuel b
      | .blockSequenceStart =>
        if block then sequence b.advance fun b => readBlockItems handles fuel b
        else readEmpty p b
      | .blockMappingStart =>
        if block then mapping b.advance fun b => readBlockEntries handles fuel b
        else readEmpty p b
      | _ => readEmpty p b

/-- Read the entries of a block sequence, up to and past its end. -/
def readBlockItems (handles : Handles) : Nat → Builder → Except Fault (List Nat × Builder)
  | 0, _ => .error .malformed
  | fuel + 1, b =>
    match b.peek with
    | .blockEntry => do
      let b := b.advance
      let (i, b) ←
        if b.at? [.blockEntry, .blockEnd] then pure b.addNull
        else readNode handles true false fuel b
      let (items, b) ← readBlockItems handles fuel b
      return (i :: items, b)
    | .blockEnd => .ok ([], b.advance)
    | _ => .error b.unfit

/-- Read the entries of a sequence that has no indentation of its own. -/
def readIndentless (handles : Handles) : Nat → Builder → Except Fault (List Nat × Builder)
  | 0, _ => .error .malformed
  | fuel + 1, b =>
    match b.peek with
    | .blockEntry => do
      let b := b.advance
      let (i, b) ←
        if b.at? [.blockEntry, .key, .value, .blockEnd] then pure b.addNull
        else readNode handles true false fuel b
      let (items, b) ← readIndentless handles fuel b
      return (i :: items, b)
    | .broken fault => .error fault
    | _ => .ok ([], b)

/-- Read the entries of a block mapping, up to and past its end. -/
def readBlockEntries (handles : Handles) : Nat → Builder → Except Fault (List (Nat × Nat) × Builder)
  | 0, _ => .error .malformed
  | fuel + 1, b =>
    match b.peek with
    | .key => do
      let b := b.advance
      let (k, b) ←
        if b.at? [.key, .value, .blockEnd] then pure b.addNull
        else readNode handles true true fuel b
      let (v, b) ←
        if b.peek == .value then
          let b := b.advance
          if b.at? [.key, .value, .blockEnd] then pure b.addNull
          else readNode handles true true fuel b
        else pure b.addNull
      let (entries, b) ← readBlockEntries handles fuel b
      return ((k, v) :: entries, b)
    | .blockEnd => .ok ([], b.advance)
    | _ => .error b.unfit

/-- Read the items of a sequence in brackets, up to and past its end.  `first` tells that no
comma is due. -/
def readFlowItems (handles : Handles) (first : Bool) :
    Nat → Builder → Except Fault (List Nat × Builder)
  | 0, _ => .error .malformed
  | fuel + 1, b =>
    if b.peek == .flowSequenceEnd then .ok ([], b.advance)
    else do
      let b ← b.passComma first
      match b.peek with
      | .flowSequenceEnd => return ([], b.advance)
      | .key =>
        let (i, b) := b.advance.add .mapping (.mapping [])
        let (k, b) ←
          if b.at? [.value, .flowEntry, .flowSequenceEnd] then pure b.addNull
          else readNode handles false false fuel b
        let (v, b) ←
          if b.peek == .value then
            let b := b.advance
            if b.at? [.flowEntry, .flowSequenceEnd] then pure b.addNull
            else readNode handles false false fuel b
          else pure b.addNull
        let (items, b) ← readFlowItems handles false fuel (b.fill i (.mapping [(k, v)]))
        return (i :: items, b)
      | _ =>
        let (i, b) ← readNode handles false false fuel b
        let (items, b) ← readFlowItems handles false fuel b
        return (i :: items, b)

/-- Read the entries of a mapping in braces, up to and past its end.  `first` tells that no
comma is due. -/
def readFlowEntries (handles : Handles) (first : Bool) :
    Nat → Builder → Except Fault (List (Nat × Nat) × Builder)
  | 0, _ => .error .malformed
  | fuel + 1, b =>
    if b.peek == .flowMappingEnd then .ok ([], b.advance)
    else do
      let b ← b.passComma first
      match b.peek with
      | .flowMappingEnd => return ([], b.advance)
      | .key =>
        let b := b.advance
        let (k, b) ←
          if b.at? [.value, .flowEntry, .flowMappingEnd] then pure b.addNull
          else readNode handles false false fuel b
        let (v, b) ←
          if b.peek == .value then
            let b := b.advance
            if b.at? [.flowEntry, .flowMappingEnd] then pure b.addNull
            else readNode handles false false fuel b
          else pure b.addNull
        let (entries, b) ← readFlowEntries handles false fuel b
        return ((k, v) :: entries, b)
      | _ =>
        let (k, b) ← readNode handles false false fuel b
        let (v, b) := b.addNull
        let (entries, b) ← readFlowEntries handles false fuel b
        return ((k, v) :: entries, b)

end

/-- Read the directives in front of a document.  A version may be given once and must be of the
first major number; a handle may be given once. -/
def readDirectives : List Token → Bool → Handles → Except Fault (Handles × List Token)
  | .versionDirective major :: rest, seen, handles =>
    if seen || major != 1 then .error .malformed else readDirectives rest true handles
  | .tagDirective handle uri :: rest, seen, handles =>
    if handles.any (fun x => x.1 == handle) then .error .malformed
    else readDirectives rest seen (handles ++ [(handle, uri)])
  | .otherDirective :: rest, seen, handles => readDirectives rest seen handles
  | .broken fault :: _, _, _ => .error fault
  | rest, _, handles => .ok (handles, rest)

/-- The known handles that a document's own directives leave as they are, after those directives. -/
def allHandles (own : Handles) : Handles :=
  own ++ Handles.default.filter fun d => !own.any fun o => o.1 == d.1

/-- Whether a token is a directive. -/
def Token.isDirective : Token → Bool
  | .versionDirective _ | .tagDirective .. | .otherDirective => true
  | _ => false

/-- Check that nothing follows a document but the end of the text. -/
def readEnd (tokens : List Token) : Except Fault Unit := do
  match tokens.dropWhile (· == .documentEnd) with
  | [] | .streamEnd :: _ => return ()
  | rest =>
    let _ ← readDirectives rest false []
    .error .malformed

/-- Read the content of a document that starts with a marker; it may be empty. -/
def readContent (handles : Handles) (fuel : Nat) (b : Builder) : Except Fault (Nat × Builder) :=
  if b.peek.isDirective || b.at? [.documentStart, .documentEnd, .streamEnd] then .ok b.addNull
  else readNode handles true false fuel b

/-- The graph of the single document a token sequence holds, with the index of its top node;
`none` if there is no document. -/
def readGraph (tokens : Array Token) : Except Fault (Option (Nat × Array TaggedNode)) := do
  let all := tokens.toList
  let fuel := 2 * all.length + 2
  match all with
  | [] | .streamEnd :: _ => return none
  | first :: _ =>
    let (i, b) ←
      if first.isDirective || first == .documentStart then do
        let (own, rest) ← readDirectives all false []
        match rest with
        | .documentStart :: rest => readContent (allHandles own) fuel { tokens := rest }
        | _ => .error .malformed
      else readNode Handles.default true false fuel { tokens := all }
    readEnd b.tokens
    return some (i, b.nodes)

end BindingAudit.Yaml
