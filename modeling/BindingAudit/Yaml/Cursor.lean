import BindingAudit.Text.Search

/-!
# Reading positions in a YAML text

A cursor holds the unread text with its offset, line and column.  Layout is significant, so
every step keeps line and column up to date: a line ends at a line feed, a carriage return, a
next-line character, or a line or paragraph separator, and a byte order mark takes no column.
-/

namespace BindingAudit.Yaml

/-- The characters that end a line. -/
def isBreak (c : Char) : Bool :=
  c == '\n' || c == '\r' || c == '\u0085' || c == '\u2028' || c == '\u2029'

/-- Whether the text ends or a line ends here. -/
def endsLine : Option Char → Bool
  | none => true
  | some c => isBreak c

/-- Whether the text ends, a line ends, or a space stands here. -/
def endsWord : Option Char → Bool
  | none => true
  | some c => c == ' ' || isBreak c

/-- Whether the text ends, a line ends, or a space or tab stands here. -/
def endsToken : Option Char → Bool
  | none => true
  | some c => c == ' ' || c == '\t' || isBreak c

/-- Whether a character may stand in a YAML text at all. -/
def isAllowed (c : Char) : Bool :=
  let n := c.toNat
  n == 0x09 || n == 0x0A || n == 0x0D || (0x20 ≤ n && n ≤ 0x7E) || n == 0x85 ||
    (0xA0 ≤ n && n ≤ 0xD7FF) || (0xE000 ≤ n && n ≤ 0xFFFD) || 0x10000 ≤ n

/-- The unread text and where it starts. -/
structure Cursor where
  rest : List Char
  index : Nat
  line : Nat
  column : Nat

namespace Cursor

/-- The start of a text. -/
def start (text : List Char) : Cursor := ⟨text, 0, 0, 0⟩

/-- The character `n` places ahead. -/
def peek (c : Cursor) (n : Nat := 0) : Option Char :=
  c.rest[n]?

/-- A cursor moved past one character. -/
def next (c : Cursor) : Cursor :=
  match c.rest with
  | [] => c
  | ch :: rest =>
    if isBreak ch && !(ch == '\r' && rest.head? == some '\n') then
      ⟨rest, c.index + 1, c.line + 1, 0⟩
    else if ch == '\uFEFF' then ⟨rest, c.index + 1, c.line, c.column⟩
    else ⟨rest, c.index + 1, c.line, c.column + 1⟩

/-- A cursor moved past several characters. -/
def skip (c : Cursor) : Nat → Cursor
  | 0 => c
  | n + 1 => c.next.skip n

/-- The characters up to the first that fails a test, and the cursor after them. -/
def takeWhile (c : Cursor) (p : Char → Bool) : List Char × Cursor :=
  let run := c.rest.takeWhile p
  (run, c.skip run.length)

/-- The cursor after the characters that pass a test. -/
def skipWhile (c : Cursor) (p : Char → Bool) : Cursor :=
  (c.takeWhile p).2

/-- The cursor after a run of spaces. -/
def skipSpaces (c : Cursor) : Cursor :=
  c.skipWhile (· == ' ')

/-- The line break that stands here, normalised to a line feed unless it is a line or paragraph
separator, and the cursor after it. -/
def lineBreak? (c : Cursor) : Option (Char × Cursor) :=
  match c.rest with
  | '\r' :: '\n' :: _ => some ('\n', c.skip 2)
  | ch :: _ =>
    if ch == '\n' || ch == '\r' || ch == '\u0085' then some ('\n', c.next)
    else if ch == '\u2028' || ch == '\u2029' then some (ch, c.next)
    else none
  | [] => none

/-- Whether a marker line such as `---` starts here. -/
def hasMarker (c : Cursor) (marker : List Char) : Bool :=
  c.rest.take 3 == marker && endsToken (c.peek 3)

/-- Whether the start or end marker of a document stands here. -/
def hasDocumentMarker (c : Cursor) : Bool :=
  c.hasMarker ['-', '-', '-'] || c.hasMarker ['.', '.', '.']

end Cursor

end BindingAudit.Yaml
