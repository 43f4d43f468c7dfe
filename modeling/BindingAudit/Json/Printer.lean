import BindingAudit.Data.Basic
import BindingAudit.Text.Search

/-!
# Writing JSON

Values as JSON text.  A `Layout` decides between one line and an indented block, and whether a
character beyond ASCII is written as itself or as one or two escaped UTF-16 code units.  An empty
collection is written without a break in any layout.  Bytes, moments, sets and what contains
itself have no JSON text.
-/

namespace BindingAudit.Json

/-- How values are laid out. -/
structure Layout where
  /-- Spaces per level for items on lines of their own, or `none` for a single line. -/
  indent : Option Nat := none
  /-- Whether a space stands between items on one line, and behind a colon. -/
  spaced : Bool := false
  /-- Whether characters beyond ASCII are escaped. -/
  ascii : Bool := true
deriving DecidableEq, Repr

/-- Everything on one line, without spaces. -/
def Layout.compact : Layout := {}

/-- Everything on one line, with spaces, characters as themselves. -/
def Layout.readable : Layout := { spaced := true, ascii := false }

/-- One item per line, two spaces deeper per level. -/
def Layout.indented : Layout := { indent := some 2, spaced := true }

/-- What stands before an item at the given depth. -/
def Layout.break (l : Layout) (depth : Nat) : String :=
  match l.indent with
  | none => ""
  | some n => "\n" ++ Text.fill ' ' (n * depth)

/-- What stands between two items. -/
def Layout.comma (l : Layout) : String :=
  if l.spaced && l.indent.isNone then ", " else ","

/-- What stands between a key and its value. -/
def Layout.colon (l : Layout) : String :=
  if l.spaced then ": " else ":"

/-- The escape of a code unit. -/
def unitEscape (n : Nat) : List Char :=
  '\\' :: 'u' :: Text.hexDigits 4 n

/-- One character of a JSON string. -/
def escapedChar (ascii : Bool) (c : Char) : List Char :=
  let n := c.toNat
  if c == '"' then ['\\', '"']
  else if c == '\\' then ['\\', '\\']
  else if c == '\n' then ['\\', 'n']
  else if c == '\r' then ['\\', 'r']
  else if c == '\t' then ['\\', 't']
  else if n == 0x08 then ['\\', 'b']
  else if n == 0x0C then ['\\', 'f']
  else if n < 0x20 then unitEscape n
  else if n ≤ 0x7E || !ascii then [c]
  else if n < 0x10000 then unitEscape n
  else unitEscape (0xD800 + (n - 0x10000) / 0x400) ++ unitEscape (0xDC00 + (n - 0x10000) % 0x400)

/-- A text as a JSON string. -/
def string (ascii : Bool) (s : String) : String :=
  String.ofList ('"' :: (s.toList.flatMap (escapedChar ascii) ++ ['"']))

/-- A number as JSON text. -/
def number : Binary64 → String
  | .nan _ => "NaN"
  | .infinite negative => if negative then "-Infinity" else "Infinity"
  | x => x.render

/-! ## What has no JSON text -/

/-- Why a value has no JSON text. -/
inductive PrintError where
  /-- A collection contains itself. -/
  | circular
  /-- A value of the named kind. -/
  | value (kind : String)
  /-- A key of the named kind. -/
  | key (kind : String)
  | digits (error : DigitError)
deriving DecidableEq, Repr

/-- The wording of a print error. -/
def PrintError.message : PrintError → String
  | .circular => "Circular reference detected"
  | .value kind => "Object of type " ++ kind ++ " is not JSON serializable"
  | .key kind => "keys must be str, int, float, bool or None, not " ++ kind
  | .digits error => error.message

/-- A scalar as JSON text. -/
def scalar (ascii : Bool) (s : Scalar) : Except PrintError String :=
  match s with
  | .null => .ok "null"
  | .bool b => .ok (if b then "true" else "false")
  | .int i => if exceedsDigits i then .error (.digits .showing) else .ok (toString i)
  | .real x => .ok (number x)
  | .text t => .ok (string ascii t)
  | .bytes _ | .moment _ => .error (.value (Data.scalar s).shortKind)

/-- A key of an object: always a string. -/
def key (ascii : Bool) (s : Scalar) : Except PrintError String :=
  match s with
  | .text t => .ok (string ascii t)
  | .bytes _ | .moment _ => .error (.key (Data.scalar s).shortKind)
  | _ => do return string ascii (← scalar ascii s)

/-- The parts of a collection between its brackets. -/
def enclose (l : Layout) (depth : Nat) (opening close : String) : List String → String
  | [] => opening ++ close
  | parts =>
    let parts := parts.map (l.break (depth + 1) ++ ·)
    opening ++ String.intercalate l.comma parts ++ l.break depth ++ close

mutual

/-- A value as JSON text, at the given depth. -/
def write (l : Layout) (depth : Nat) : Data → Except PrintError String
  | .scalar s => scalar l.ascii s
  | .list items => do return enclose l depth "[" "]" (← writeItems l (depth + 1) items)
  | .tuple items => do return enclose l depth "[" "]" (← writeItems l (depth + 1) items)
  | .map entries => do
    return enclose l depth "\x7b" "\x7d" (← writeEntries l (depth + 1) entries)
  | .set _ => .error (.value "set")
  | .again _ => .error .circular

/-- The items of an array. -/
def writeItems (l : Layout) (depth : Nat) : List Data → Except PrintError (List String)
  | [] => .ok []
  | d :: rest => do
    let item ← write l depth d
    return item :: (← writeItems l depth rest)

/-- The members of an object. -/
def writeEntries (l : Layout) (depth : Nat) :
    List (Scalar × Data) → Except PrintError (List String)
  | [] => .ok []
  | (k, d) :: rest => do
    let name ← key l.ascii k
    let value ← write l depth d
    return (name ++ l.colon ++ value) :: (← writeEntries l depth rest)

end

/-- A value as JSON text. -/
def print (l : Layout) (d : Data) : Except PrintError String :=
  write l 0 d

end BindingAudit.Json
