import BindingAudit.Toml.Lexeme

/-!
# Reading TOML

A TOML text is a sequence of statements: assignments, table headers, and headers of tables that
are items of a list.  A table may be opened by a header once; an assigned list or table is closed
for good; and no statement may give a key a second value.
-/

namespace BindingAudit.Toml

/-- The entries of a table. -/
abbrev Table := List (Scalar × Data)

/-- Replace the value of a key that is there. -/
def replaceEntry (t : Table) (k : String) (d : Data) : Table :=
  t.map fun e => if e.1 == .text k then (e.1, d) else e

/-- Change the table at the end of a path of keys, making the tables that are missing.  With
`throughLists` a list on the way stands for its last item.  Nothing results if something on the
way is not a table. -/
def updateAt (throughLists : Bool) (change : Table → Option Table) : Key → Table → Option Table
  | [], t => change t
  | k :: path, t =>
    match lookupText t k with
    | none => do
      let inner ← updateAt throughLists change path []
      return t ++ [(.text k, .map inner)]
    | some (.map inner) => do
      let inner ← updateAt throughLists change path inner
      return replaceEntry t k (.map inner)
    | some (.list items) =>
      match throughLists, items.getLast? with
      | true, some (.map inner) => do
        let inner ← updateAt throughLists change path inner
        return replaceEntry t k (.list (items.dropLast ++ [.map inner]))
      | _, _ => none
    | some _ => none

/-- Give a key its only value. -/
def addEntry (k : String) (d : Data) (t : Table) : Option Table :=
  if (lookupText t k).isSome then none else some (t ++ [(.text k, d)])

/-- Add an empty table to the list under a key. -/
def addListItem (k : String) (t : Table) : Option Table :=
  match lookupText t k with
  | none => some (t ++ [(.text k, .list [.map []])])
  | some (.list items) => some (replaceEntry t k (.list (items ++ [.map []])))
  | some _ => none

/-- What is known about paths: which tables have been opened, and under which paths nothing may
change any more. -/
structure Marks where
  opened : List Key := []
  closed : List Key := []

namespace Marks

/-- Whether the table at a path has been opened. -/
def isOpened (m : Marks) (path : Key) : Bool :=
  m.opened.contains path

/-- Whether a path is closed, itself or with a path it extends. -/
def isClosed (m : Marks) (path : Key) : Bool :=
  m.closed.any fun c => c.isPrefixOf path

/-- Mark a path as opened. -/
def markOpened (m : Marks) (path : Key) : Marks :=
  { m with opened := path :: m.opened }

/-- Mark a path as closed. -/
def markClosed (m : Marks) (path : Key) : Marks :=
  { m with closed := path :: m.closed }

/-- Forget all that is known about a path and the paths that extend it. -/
def forget (m : Marks) (path : Key) : Marks :=
  ⟨m.opened.filter fun p => !path.isPrefixOf p, m.closed.filter fun p => !path.isPrefixOf p⟩

end Marks

/-- Whether a value is a list or a table. -/
def isCollection : Data → Bool
  | .scalar _ => false
  | _ => true

/-- How much room a value has for collections inside it. -/
def maxRoom : Nat := 980

/-- The room a list takes. -/
def listRoom : Nat := 2

/-- The room a table in braces takes. -/
def tableRoom : Nat := 3

mutual

/-- Read a value that has some room.  `fuel` bounds the number of steps. -/
def value (room : Nat) : Nat → List Char → Except Fault (Data × List Char)
  | 0, _ => .error .malformed
  | fuel + 1, cs =>
    match cs with
    | '"' :: _ =>
      required ((string? (fuel + 2) cs).map fun s => (.text (String.ofList s.1), s.2))
    | '\'' :: _ =>
      required ((string? (fuel + 2) cs).map fun s => (.text (String.ofList s.1), s.2))
    | '[' :: rest => do
      if room < listRoom then .error .tooDeep
      else
        let rest ← required (skipBlankLines (fuel + 2) rest)
        items (room - listRoom) fuel rest []
    | '\x7b' :: rest =>
      if room < tableRoom then .error .tooDeep
      else
        match skipSpaces rest with
        | '\x7d' :: rest => .ok (.map [], rest)
        | rest => members (room - tableRoom) fuel rest [] {}
    | _ =>
      if "true".toList.isPrefixOf cs then .ok (.bool true, cs.drop 4)
      else if "false".toList.isPrefixOf cs then .ok (.bool false, cs.drop 5)
      else
        match moment? cs with
        | some (m, rest) =>
          if m.fault?.isSome then .error .malformed else .ok (.scalar (.moment m), rest)
        | none => do
          let (n, rest) ← number cs
          return (.scalar n, rest)

/-- Read the items of a list up to its closing bracket. -/
def items (room : Nat) : Nat → List Char → List Data → Except Fault (Data × List Char)
  | 0, _, _ => .error .malformed
  | fuel + 1, cs, done =>
    match cs with
    | ']' :: rest => .ok (.list done.reverse, rest)
    | _ => do
      let (d, rest) ← value room fuel cs
      let rest ← required (skipBlankLines (fuel + 2) rest)
      match rest with
      | ']' :: rest => return (.list (d :: done).reverse, rest)
      | ',' :: rest =>
        let rest ← required (skipBlankLines (fuel + 2) rest)
        items room fuel rest (d :: done)
      | _ => .error .malformed

/-- Read the assignments of a table in braces up to its closing brace. -/
def members (room : Nat) : Nat → List Char → Table → Marks → Except Fault (Data × List Char)
  | 0, _, _, _ => .error .malformed
  | fuel + 1, cs, t, marks => do
    let (path, rest) ← required (key? (fuel + 2) cs)
    match rest with
    | '=' :: rest =>
      let (d, rest) ← value room fuel (skipSpaces rest)
      if marks.isClosed path then .error .malformed
      else
        let t ← required (updateAt false (addEntry (path.getLastD "") d) path.dropLast t)
        match skipSpaces rest with
        | '\x7d' :: rest => return (.map t, rest)
        | ',' :: rest =>
          members room fuel (skipSpaces rest) t
            (if isCollection d then marks.markClosed path else marks)
        | _ => .error .malformed
    | _ => .error .malformed

end

/-- What has been read so far. -/
structure State where
  table : Table := []
  marks : Marks := {}
  /-- Tables that count as opened from the next header on. -/
  pending : List Key := []
  /-- The path of the last header. -/
  header : Key := []

namespace State

/-- Let the pending tables count as opened. -/
def settle (s : State) : State :=
  { s with marks := s.pending.foldl Marks.markOpened s.marks, pending := [] }

/-- Read a table header after its bracket. -/
def tableHeader (fuel : Nat) (s : State) (cs : List Char) : Option (State × List Char) := do
  let (path, rest) ← key? fuel (skipSpaces cs)
  if s.marks.isOpened path || s.marks.isClosed path then none
  else
    let table ← updateAt true some path s.table
    let rest ← past? ']' rest
    return ({ s with table, marks := s.marks.markOpened path, header := path }, rest)

/-- Read the header of a table in a list after its brackets. -/
def listHeader (fuel : Nat) (s : State) (cs : List Char) : Option (State × List Char) := do
  let (path, rest) ← key? fuel (skipSpaces cs)
  if s.marks.isClosed path then none
  else
    let table ← updateAt true (addListItem (path.getLastD "")) path.dropLast s.table
    let rest ← past? ']' rest
    let rest ← past? ']' rest
    return ({ s with table, marks := (s.marks.forget path).markOpened path, header := path }, rest)

/-- The proper, non-empty beginnings of a key. -/
def beginnings (path : Key) : List Key :=
  (List.range path.length).tail.map path.take

/-- Read an assignment. -/
def assignment (fuel : Nat) (s : State) (cs : List Char) : Except Fault (State × List Char) := do
  let (path, rest) ← required (key? fuel cs)
  let rest ← required (past? '=' rest)
  let (d, rest) ← value maxRoom fuel (skipSpaces rest)
  let full := s.header ++ path
  let tables := (beginnings path).map (s.header ++ ·)
  if tables.any s.marks.isOpened || s.marks.isClosed full.dropLast then .error .malformed
  else
    let table ← required (updateAt true (addEntry (path.getLastD "") d) full.dropLast s.table)
    let marks := if isCollection d then s.marks.markClosed full else s.marks
    return ({ s with table, marks, pending := s.pending ++ tables }, rest)

end State

/-- Read statements up to the end of the text.  `fuel` bounds their number. -/
def statements (bound : Nat) : Nat → State → List Char → Except Fault State
  | 0, _, _ => .error .malformed
  | fuel + 1, s, cs =>
    match skipSpaces cs with
    | [] => .ok s
    | '\n' :: rest => statements bound fuel s rest
    | c :: more => do
      let (s, rest) ←
        if isBareKeyChar c || c == '"' || c == '\'' then s.assignment bound (c :: more)
        else if c == '[' then
          match more with
          | '[' :: more => required (s.settle.listHeader bound more)
          | _ => required (s.settle.tableHeader bound more)
        else if c == '#' then pure (s, c :: more)
        else .error .malformed
      let rest ← required (skipComment? (skipSpaces rest))
      match rest with
      | [] => return s
      | '\n' :: rest => statements bound fuel s rest
      | _ => .error .malformed

/-- A text with line ends of two characters made one. -/
def normalizeBreaks : List Char → List Char
  | '\r' :: '\n' :: rest => '\n' :: normalizeBreaks rest
  | c :: rest => c :: normalizeBreaks rest
  | [] => []

/-- Read a TOML text: its top table, or why there is none. -/
def read (text : List Char) : Except Fault Table := do
  let cs := normalizeBreaks text
  let bound := 2 * cs.length + 4
  let s ← statements bound bound {} cs
  return s.table

end BindingAudit.Toml
