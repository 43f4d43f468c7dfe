import BindingAudit.Yaml.Token.Basic
import BindingAudit.Yaml.Token.Word

/-!
# Cutting a YAML text into tokens

Outside brackets a deeper column opens a block collection and a shallower one closes it.  A
mapping key has no mark of its own in front: wherever one may start, the place is remembered,
and when a colon follows on the same line, within 1024 characters, the key token is put in at
that place.  A remembered place that must turn out to be a key and does not makes the text
malformed.

A token is handed out as soon as no key token can come before it any more.  A fault therefore
stands behind the tokens handed out before the text was looked at where the fault is, and the
tokens from the first remembered place on are not handed out at all.
-/

namespace BindingAudit.Yaml

/-- A place where a mapping key may have started. -/
structure KeyPlace where
  /-- How many tokens came before it. -/
  token : Nat
  /-- Whether nothing but a key can stand there. -/
  required : Bool
  index : Nat
  line : Nat
  column : Nat
deriving Repr

/-- The state between two tokens. -/
structure Lexer where
  cursor : Cursor
  tokens : Array Token := #[]
  /-- How many brackets are open. -/
  flow : Nat := 0
  /-- The column of the innermost block collection, `-1` outside all. -/
  indent : Int := -1
  /-- The columns of the block collections around it. -/
  outer : List Int := []
  /-- The remembered key places, at most one for each number of open brackets. -/
  places : List (Nat × KeyPlace) := []
  /-- Whether a key may start here. -/
  keyAllowed : Bool := true

namespace Lexer

/-- Add a token at the end. -/
def emit (s : Lexer) (t : Token) : Lexer :=
  { s with tokens := s.tokens.push t }

/-- Put a token in at a place. -/
def emitAt (s : Lexer) (i : Nat) (t : Token) : Lexer :=
  { s with tokens := s.tokens.insertIdxIfInBounds i t }

/-- Skip spaces, comments and line breaks.  Outside brackets a key may start on a new line. -/
def skipBlanks : Nat → Lexer → Lexer
  | 0, s => s
  | fuel + 1, s =>
    let c := s.cursor.skipSpaces
    let c := if c.peek == some '#' then c.skipWhile (fun ch => !isBreak ch) else c
    match c.lineBreak? with
    | some (_, c) =>
      skipBlanks fuel { s with cursor := c, keyAllowed := s.keyAllowed || s.flow == 0 }
    | none => { s with cursor := c }

/-- Forget the remembered places that are too far back. -/
def dropStalePlaces (s : Lexer) : Except Fault Lexer :=
  let stale := fun (p : KeyPlace) => p.line != s.cursor.line || 1024 < s.cursor.index - p.index
  if s.places.any (fun p => stale p.2 && p.2.required) then .error .malformed
  else .ok { s with places := s.places.filter fun p => !stale p.2 }

/-- Forget the place remembered for the open brackets. -/
def dropPlace (s : Lexer) : Except Fault Lexer :=
  if s.places.any (fun p => p.1 == s.flow && p.2.required) then .error .malformed
  else .ok { s with places := s.places.filter fun p => p.1 != s.flow }

/-- Remember this place, if a key may start here. -/
def savePlace (s : Lexer) : Except Fault Lexer :=
  if s.keyAllowed then do
    let required := s.flow == 0 && s.indent == s.cursor.column
    let s ← s.dropPlace
    let place := ⟨s.tokens.size, required, s.cursor.index, s.cursor.line, s.cursor.column⟩
    return { s with places := s.places ++ [(s.flow, place)] }
  else .ok s

/-- Close the block collections that stand deeper than a column, the innermost first. -/
def closeDeeper (column : Int) : Nat → Lexer → Lexer
  | 0, s => s
  | fuel + 1, s =>
    if column < s.indent then
      closeDeeper column fuel
        { (s.emit .blockEnd) with indent := s.outer.headD (-1), outer := s.outer.tail }
    else s

/-- Close block collections down to a column; brackets keep them open. -/
def unwind (s : Lexer) (column : Int) : Lexer :=
  if s.flow == 0 then closeDeeper column (s.outer.length + 1) s else s

/-- Open a block collection at a column if it is deeper than the innermost one; `none` if it
is not. -/
def deepen? (s : Lexer) (column : Nat) : Option Lexer :=
  if s.indent < column then some { s with indent := column, outer := s.indent :: s.outer } else none

/-- Move past an indicator and add its token. -/
def indicator (s : Lexer) (length : Nat) (t : Token) : Lexer :=
  { (s.emit t) with cursor := s.cursor.skip length }

/-- A marker that starts or ends a document. -/
def documentMarker (s : Lexer) (t : Token) : Except Fault Lexer := do
  let s ← (s.unwind (-1)).dropPlace
  return { s.indicator 3 t with keyAllowed := false }

/-- A directive line. -/
def directiveLine (fuel : Nat) (s : Lexer) : Except Fault Lexer := do
  let s ← (s.unwind (-1)).dropPlace
  let (d, c) ← directive fuel s.cursor
  let token :=
    match d with
    | .version major => Token.versionDirective major
    | .tag handle suffix => Token.tagDirective handle suffix
    | .other => Token.otherDirective
  return { (s.emit token) with cursor := c, keyAllowed := false }

/-- An opening bracket. -/
def openBracket (s : Lexer) (t : Token) : Except Fault Lexer := do
  let s ← s.savePlace
  return { s.indicator 1 t with flow := s.flow + 1, keyAllowed := true }

/-- A closing bracket. -/
def closeBracket (s : Lexer) (t : Token) : Except Fault Lexer := do
  let s ← s.dropPlace
  if s.flow == 0 then .error .malformed
  else return { s.indicator 1 t with flow := s.flow - 1, keyAllowed := false }

/-- A comma between brackets. -/
def comma (s : Lexer) : Except Fault Lexer := do
  let s ← { s with keyAllowed := true }.dropPlace
  return s.indicator 1 .flowEntry

/-- The dash of a sequence entry. -/
def dash (s : Lexer) : Except Fault Lexer := do
  if s.flow == 0 && !s.keyAllowed then .error .malformed
  else
    let s :=
      if s.flow == 0 then
        match s.deepen? s.cursor.column with
        | some s => s.emit .blockSequenceStart
        | none => s
      else s
    let s ← { s with keyAllowed := true }.dropPlace
    return s.indicator 1 .blockEntry

/-- The question mark of an explicit key. -/
def questionMark (s : Lexer) : Except Fault Lexer := do
  if s.flow == 0 && !s.keyAllowed then .error .malformed
  else
    let s :=
      if s.flow == 0 then
        match s.deepen? s.cursor.column with
        | some s => s.emit .blockMappingStart
        | none => s
      else s
    let s ← { s with keyAllowed := s.flow == 0 }.dropPlace
    return s.indicator 1 .key

/-- The colon before a value.  A remembered place becomes a key. -/
def colon (s : Lexer) : Except Fault Lexer := do
  match s.places.find? (fun p => p.1 == s.flow) with
  | some (_, place) =>
    let s := { s with places := s.places.filter fun p => p.1 != s.flow }
    let s := s.emitAt place.token .key
    let s :=
      if s.flow == 0 then
        match s.deepen? place.column with
        | some s => s.emitAt place.token .blockMappingStart
        | none => s
      else s
    return { s.indicator 1 .value with keyAllowed := false }
  | none =>
    if s.flow == 0 && !s.keyAllowed then .error .malformed
    else
      let s :=
        if s.flow == 0 then
          match s.deepen? s.cursor.column with
          | some s => s.emit .blockMappingStart
          | none => s
        else s
      let s ← { s with keyAllowed := s.flow == 0 }.dropPlace
      return s.indicator 1 .value

/-- A token at which a key may start, read by the given reader. -/
def word (s : Lexer) (read : Cursor → Except Fault (Token × Cursor)) : Except Fault Lexer := do
  let s ← s.savePlace
  let (t, c) ← read s.cursor
  return { (s.emit t) with cursor := c, keyAllowed := false }

/-- A block scalar. -/
def block (fuel : Nat) (folded : Bool) (s : Lexer) : Except Fault Lexer := do
  let s ← s.dropPlace
  let (text, c) ← blockScalar fuel folded s.indent s.cursor
  return { (s.emit (.scalar text false)) with cursor := c, keyAllowed := true }

/-- A plain scalar. -/
def plain (fuel : Nat) (s : Lexer) : Except Fault Lexer := do
  let s ← s.savePlace
  let (text, broke, c) := plainScalar fuel (s.flow != 0) s.indent s.cursor
  return { (s.emit (.scalar text true)) with cursor := c, keyAllowed := broke }

/-- Whether a plain scalar can start here. -/
def startsPlain (s : Lexer) : Bool :=
  match s.cursor.peek with
  | none => false
  | some ch =>
    let reserved := "-?:,[]\x7b\x7d#&*!|>'\"%@`".toList
    (!endsToken (some ch) && !reserved.contains ch) ||
      (!endsToken (s.cursor.peek 1) && (ch == '-' || (s.flow == 0 && (ch == '?' || ch == ':'))))

/-- Close everything at the end of the text. -/
def finish (s : Lexer) : Except Fault (Array Token) := do
  let s ← (s.unwind (-1)).dropPlace
  return (s.emit .streamEnd).tokens

/-- Read the next token, or give all of them once the text is at its end. -/
def step (fuel : Nat) (s : Lexer) : Except Fault (Lexer ⊕ Array Token) := do
  let s ← (skipBlanks fuel s).dropStalePlaces
  let s := s.unwind s.cursor.column
  let atLineStart := s.cursor.column == 0
  let followed := endsToken (s.cursor.peek 1)
  match s.cursor.peek with
  | none => Sum.inr <$> s.finish
  | some ch =>
    Sum.inl <$>
      if ch == '%' && atLineStart then s.directiveLine fuel
      else if atLineStart && s.cursor.hasMarker ['-', '-', '-'] then s.documentMarker .documentStart
      else if atLineStart && s.cursor.hasMarker ['.', '.', '.'] then s.documentMarker .documentEnd
      else if ch == '[' then s.openBracket .flowSequenceStart
      else if ch == '\x7b' then s.openBracket .flowMappingStart
      else if ch == ']' then s.closeBracket .flowSequenceEnd
      else if ch == '\x7d' then s.closeBracket .flowMappingEnd
      else if ch == ',' then s.comma
      else if ch == '-' && followed then s.dash
      else if ch == '?' && (s.flow != 0 || followed) then s.questionMark
      else if ch == ':' && (s.flow != 0 || followed) then s.colon
      else if ch == '*' then
        s.word fun c => do
          let (name, c) ← anchorName c.next
          return (.reference name, c)
      else if ch == '&' then
        s.word fun c => do
          let (name, c) ← anchorName c.next
          return (.anchor name, c)
      else if ch == '!' then
        s.word fun c => do
          let (handle, suffix, c) ← tagToken fuel c
          return (.tag handle suffix, c)
      else if ch == '|' && s.flow == 0 then s.block fuel false
      else if ch == '>' && s.flow == 0 then s.block fuel true
      else if ch == '\'' then
        s.word fun c => do
          let (text, c) ← quotedScalar fuel false c
          return (.scalar text false, c)
      else if ch == '"' then
        s.word fun c => do
          let (text, c) ← quotedScalar fuel true c
          return (.scalar text false, c)
      else if s.startsPlain then s.plain fuel
      else .error .malformed

/-- How many tokens are handed out for certain: those before the first remembered place. -/
def settled (s : Lexer) : Nat :=
  (s.places.map fun p => p.2.token).foldl min s.tokens.size

/-- The first tokens, and a fault in the place of those behind them. -/
def breakOff (s : Lexer) (count : Nat) (fault : Fault) : Array Token :=
  (s.tokens.extract 0 count).push (.broken fault)

/-- Read tokens until the text ends.  `given` is the number of tokens handed out when the last
one was read. -/
def run (fuel : Nat) : Nat → Nat → Lexer → Array Token
  | 0, given, s => s.breakOff given .malformed
  | steps + 1, given, s =>
    match s.dropStalePlaces with
    | .error fault => s.breakOff given fault
    | .ok s =>
      match s.step fuel with
      | .error fault => s.breakOff s.settled fault
      | .ok (.inl next) => run fuel steps s.settled next
      | .ok (.inr tokens) => tokens

end Lexer

/-- The tokens of a YAML text.  Every token takes at least one character, so a step for each
character and one for the end suffice. -/
def tokenize (text : List Char) : Array Token :=
  if text.all isAllowed then
    let fuel := text.length + 2
    let start := Cursor.start text
    let cursor := if start.peek == some '\uFEFF' then start.next else start
    Lexer.run fuel fuel 0 { cursor }
  else #[.broken .malformed]

end BindingAudit.Yaml
