import BindingAudit.Yaml.Cursor
import BindingAudit.Yaml.Fault

/-!
# Scalars of a YAML text

The four ways to write a scalar: plain, in single or double quotes, and as an indented block.
Each reader takes a cursor at the scalar and gives the text it denotes, with lines folded as the
style asks, and the cursor after it.

Every reader has an argument `fuel`, a bound on the number of lines it may read; the length of
the whole text is always enough.
-/

namespace BindingAudit.Yaml

/-! ## Block scalars -/

/-- What happens to the line breaks a block scalar ends with. -/
inductive Chomping where
  /-- All are dropped. -/
  | strip
  /-- The first is kept. -/
  | clip
  /-- All are kept. -/
  | keep
deriving DecidableEq, Repr

/-- The header of a block scalar: chomping, and how much deeper its lines stand if given. -/
structure BlockHeader where
  chomping : Chomping
  depth : Option Nat
deriving DecidableEq, Repr

/-- The chomping a character asks for. -/
def chomping? : Option Char → Option Chomping
  | some '+' => some .keep
  | some '-' => some .strip
  | _ => none

/-- The depth a digit asks for. -/
def blockDepth? : Option Char → Option Nat
  | some c => if c.isDigit then some (c.toNat - '0'.toNat) else none
  | none => none

/-- Read the header of a block scalar, in either order of its two parts. -/
def blockHeader (c : Cursor) : Except Fault (BlockHeader × Cursor) := do
  let (chomping, depth, c) :=
    match chomping? c.peek with
    | some chomping =>
      match blockDepth? c.next.peek with
      | some depth => (chomping, some depth, c.skip 2)
      | none => (chomping, none, c.next)
    | none =>
      match blockDepth? c.peek with
      | some depth =>
        match chomping? c.next.peek with
        | some chomping => (chomping, some depth, c.skip 2)
        | none => (.clip, some depth, c.next)
      | none => (.clip, none, c)
  if depth == some 0 then .error .malformed
  else if !endsWord c.peek then .error .malformed
  else .ok (⟨chomping, depth⟩, c)

/-- Skip the rest of a line that may hold only spaces and a comment. -/
def skipRestOfLine (c : Cursor) : Except Fault Cursor :=
  let c := c.skipSpaces
  let c := if c.peek == some '#' then c.skipWhile (fun ch => !isBreak ch) else c
  if endsLine c.peek then
    match c.lineBreak? with
    | some (_, c) => .ok c
    | none => .ok c
  else .error .malformed

/-- Skip spaces up to a column. -/
def skipIndent (c : Cursor) (indent : Nat) : Cursor :=
  c.skip ((c.rest.take (indent - c.column)).takeWhile (· == ' ')).length

/-- The line breaks of the blank lines before a line of a block at the given column. -/
def blockBreaks (indent : Nat) : Nat → Cursor → List Char × Cursor
  | 0, c => ([], c)
  | fuel + 1, c =>
    let c := skipIndent c indent
    match c.lineBreak? with
    | some (b, c) =>
      let (bs, c) := blockBreaks indent fuel c
      (b :: bs, c)
    | none => ([], c)

/-- The blank lines before the first line of a block whose depth is not given, and the deepest
column they reach. -/
def leadingBreaks : Nat → Cursor → Nat → List Char × Nat × Cursor
  | 0, c, deepest => ([], deepest, c)
  | fuel + 1, c, deepest =>
    if c.peek == some ' ' then
      let c := c.next
      leadingBreaks fuel c (max deepest c.column)
    else
      match c.lineBreak? with
      | some (b, c) =>
        let (bs, deepest, c) := leadingBreaks fuel c deepest
        (b :: bs, deepest, c)
      | none => ([], deepest, c)

/-- Whether a line starts with a space or a tab. -/
def startsIndented (c : Cursor) : Bool :=
  c.peek == some ' ' || c.peek == some '\t'

/-- Read the lines of a block, given the blank lines before the first.  The result is the text
without its last line break, that break (if any), and the breaks of the blank lines after it. -/
def blockLines (folded : Bool) (indent : Nat) :
    Nat → Cursor → List Char → List Char × List Char × List Char × Cursor
  | 0, c, breaks => ([], [], breaks, c)
  | fuel + 1, c, breaks =>
    if c.column == indent && c.peek.isSome then
      let flush := !startsIndented c
      let (line, c) := c.takeWhile (fun ch => !isBreak ch)
      let (lineBreak, c) :=
        match c.lineBreak? with
        | some (b, c) => ([b], c)
        | none => ([], c)
      let (after, c) := blockBreaks indent fuel c
      if c.column == indent && c.peek.isSome then
        let join :=
          if folded && lineBreak == ['\n'] && flush && !startsIndented c then
            if after.isEmpty then [' '] else []
          else lineBreak
        let (text, last, trailing, c) := blockLines folded indent fuel c after
        (breaks ++ line ++ join ++ text, last, trailing, c)
      else (breaks ++ line, lineBreak, after, c)
    else ([], [], breaks, c)

/-- Read a block scalar at its indicator.  `parent` is the column of the block around it, or
`-1` at the top. -/
def blockScalar (fuel : Nat) (folded : Bool) (parent : Int) (c : Cursor) :
    Except Fault (String × Cursor) := do
  let (header, c) ← blockHeader c.next
  let c ← skipRestOfLine c
  let least := (max (parent + 1) 1).toNat
  let (breaks, indent, c) :=
    match header.depth with
    | some depth =>
      let indent := least + depth - 1
      let (breaks, c) := blockBreaks indent fuel c
      (breaks, indent, c)
    | none =>
      let (breaks, deepest, c) := leadingBreaks fuel c 0
      (breaks, max least deepest, c)
  let (text, last, trailing, c) := blockLines folded indent fuel c breaks
  let ending :=
    match header.chomping with
    | .strip => []
    | .clip => last
    | .keep => last ++ trailing
  return (String.ofList (text ++ ending), c)

/-! ## Quoted scalars -/

/-- The line breaks of the blank lines inside a quoted scalar. -/
def quotedBreaks : Nat → Cursor → Except Fault (List Char × Cursor)
  | 0, c => .ok ([], c)
  | fuel + 1, c =>
    if c.hasDocumentMarker then .error .malformed
    else
      let c := c.skipWhile (fun ch => ch == ' ' || ch == '\t')
      match c.lineBreak? with
      | some (b, c) => do
        let (bs, c) ← quotedBreaks fuel c
        return (b :: bs, c)
      | none => .ok ([], c)

/-- The escapes of one character in double quotes. -/
def shortEscape? : Char → Option Char
  | '0' => some '\x00'
  | 'a' => some '\x07'
  | 'b' => some '\x08'
  | 't' => some '\t'
  | '\t' => some '\t'
  | 'n' => some '\n'
  | 'v' => some '\x0b'
  | 'f' => some '\x0c'
  | 'r' => some '\r'
  | 'e' => some '\x1b'
  | ' ' => some ' '
  | '"' => some '"'
  | '\\' => some '\\'
  | '/' => some '/'
  | 'N' => some '\u0085'
  | '_' => some '\u00a0'
  | 'L' => some '\u2028'
  | 'P' => some '\u2029'
  | _ => none

/-- How many hexadecimal digits follow an escape by code point. -/
def escapeDigits? : Char → Option Nat
  | 'x' => some 2
  | 'u' => some 4
  | 'U' => some 8
  | _ => none

/-- Read an escape, after its backslash. -/
def escape (fuel : Nat) (c : Cursor) : Except Fault (List Char × Cursor) :=
  match c.peek with
  | none => .error .malformed
  | some e =>
    match shortEscape? e, escapeDigits? e with
    | some ch, _ => .ok ([ch], c.next)
    | none, some n =>
      let digits := c.next.rest.take n
      if digits.length == n && digits.all Text.isHexDigit then
        let code := Text.readDigits 16 digits
        if code < 0x110000 then .ok ([Char.ofNat code], c.skip (n + 1))
        else if code < 0x80000000 then .error (.value .codePoint)
        else .error (.value .codeTooLarge)
      else .error .malformed
    | none, none =>
      match c.lineBreak? with
      | some (_, c) => quotedBreaks fuel c
      | none => .error .malformed

/-- The white space inside a quoted scalar, with line breaks folded. -/
def quotedSpace (fuel : Nat) (c : Cursor) : Except Fault (List Char × Cursor) := do
  let (spaces, c) := c.takeWhile (fun ch => ch == ' ' || ch == '\t')
  match c.peek, c.lineBreak? with
  | none, _ => .error .malformed
  | _, some (b, c) =>
    let (bs, c) ← quotedBreaks fuel c
    if b != '\n' then return (b :: bs, c)
    else if bs.isEmpty then return ([' '], c)
    else return (bs, c)
  | _, none => return (spaces, c)

/-- Whether a character inside quotes is neither white space, nor a quote, nor a backslash. -/
def isQuotedPlain (c : Char) : Bool :=
  !(c == '\'' || c == '"' || c == '\\' || c == ' ' || c == '\t' || isBreak c)

/-- Read a quoted scalar after its opening quote, up to and past the closing one. -/
def quotedBody (double : Bool) : Nat → Cursor → Except Fault (List Char × Cursor)
  | 0, _ => .error .malformed
  | fuel + 1, c =>
    match c.rest with
    | [] => .error .malformed
    | ch :: more =>
      if ch == ' ' || ch == '\t' || isBreak ch then do
        let (space, c) ← quotedSpace fuel c
        let (text, c) ← quotedBody double fuel c
        return (space ++ text, c)
      else if !double && ch == '\'' && more.head? == some '\'' then do
        let (text, c) ← quotedBody double fuel (c.skip 2)
        return ('\'' :: text, c)
      else if ch == (if double then '"' else '\'') then .ok ([], c.next)
      else if double && ch == '\\' then do
        let (part, c) ← escape fuel c.next
        let (text, c) ← quotedBody double fuel c
        return (part ++ text, c)
      else do
        let (run, c) := c.next.takeWhile isQuotedPlain
        let (text, c) ← quotedBody double fuel c
        return (ch :: run ++ text, c)

/-- Read a quoted scalar at its opening quote. -/
def quotedScalar (fuel : Nat) (double : Bool) (c : Cursor) : Except Fault (String × Cursor) := do
  let (text, c) ← quotedBody double fuel c.next
  return (String.ofList text, c)

/-! ## Plain scalars -/

/-- Whether a character divides the parts of a collection in brackets or braces. -/
def isFlowMark (ch : Char) : Bool :=
  ch == ',' || ch == '[' || ch == ']' || ch == '\x7b' || ch == '\x7d'

/-- Whether the character at the head of a text ends a plain scalar. -/
def endsPlain (inFlow : Bool) : List Char → Bool
  | [] => true
  | ch :: more =>
    ch == ' ' || ch == '\t' || isBreak ch ||
      (ch == ':' &&
        (endsToken more.head? || (inFlow && more.head?.any isFlowMark))) ||
      (inFlow && (ch == '?' || isFlowMark ch))

/-- The word of a plain scalar that stands at the head of a text. -/
def plainWord (inFlow : Bool) : List Char → List Char
  | [] => []
  | ch :: more => if endsPlain inFlow (ch :: more) then [] else ch :: plainWord inFlow more

/-- The blank lines inside a plain scalar; `none` where a document marker ends it. -/
def plainBreaks : Nat → Cursor → Option (List Char) × Cursor
  | 0, c => (some [], c)
  | fuel + 1, c =>
    if c.peek == some ' ' then plainBreaks fuel c.next
    else
      match c.lineBreak? with
      | some (b, c) =>
        if c.hasDocumentMarker then (none, c)
        else
          let (bs, c) := plainBreaks fuel c
          (bs.map (b :: ·), c)
      | none => (some [], c)

/-- The white space after a word of a plain scalar: what it folds to, whether a line ended, and
the cursor after it.  Nothing means that the scalar ends. -/
def plainSpace (fuel : Nat) (c : Cursor) : List Char × Bool × Cursor :=
  let (spaces, c) := c.takeWhile (· == ' ')
  match c.lineBreak? with
  | none => (spaces, false, c)
  | some (b, c) =>
    if c.hasDocumentMarker then ([], true, c)
    else
      match plainBreaks fuel c with
      | (none, c) => ([], true, c)
      | (some bs, c) =>
        if b != '\n' then (b :: bs, true, c)
        else if bs.isEmpty then ([' '], true, c)
        else (bs, true, c)

/-- Read a plain scalar.  `indent` is the least column its further lines may stand at.  The
flag tells whether the scalar ended at a line break. -/
def plainBody (inFlow : Bool) (indent : Int) (brokeLine : Bool) :
    Nat → Cursor → List Char × Bool × Cursor
  | 0, c => ([], brokeLine, c)
  | fuel + 1, c =>
    if c.peek == some '#' then ([], brokeLine, c)
    else
      let word := plainWord inFlow c.rest
      if word.isEmpty then ([], brokeLine, c)
      else
        let (space, broke, c) := plainSpace fuel (c.skip word.length)
        if space.isEmpty || c.peek == some '#' || (!inFlow && (c.column : Int) < indent) then
          (word, broke, c)
        else
          let (text, broke, c') := plainBody inFlow indent broke fuel c
          if text.isEmpty then (word, broke, c')
          else (word ++ space ++ text, broke, c')

/-- Read a plain scalar at its first character. -/
def plainScalar (fuel : Nat) (inFlow : Bool) (parent : Int) (c : Cursor) :
    String × Bool × Cursor :=
  let (text, broke, c) := plainBody inFlow (parent + 1) false fuel c
  (String.ofList text, broke, c)

end BindingAudit.Yaml
