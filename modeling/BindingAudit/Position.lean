import BindingAudit.Number.DigitLimit
import BindingAudit.Text.Slice
import BindingAudit.Workspace.Basic

/-!
# Positions

A place in a text as a line and a column, both counted from one.  Only a line feed ends a line.
Where a text cannot be read, is empty, or is shorter than the offset, a place is shown by its
offset instead.  A path that is none, and an offset too long to be shown, are errors.
-/

namespace BindingAudit

/-- A line and a column. -/
structure Position where
  line : Nat
  column : Int
deriving DecidableEq, Repr

namespace Position

/-- Where the line starts that a text ends in. -/
def lineStart (text : List Char) : Nat :=
  text.length - (text.reverse.takeWhile (· != '\n')).length

/-- The position of an offset in a text. -/
def ofOffset (text : List Char) (offset : Int) : Position :=
  let before := text.take (Text.boundary text.length offset)
  ⟨before.count '\n' + 1, offset - lineStart before + 1⟩

/-- A position as it is shown. -/
def shown (p : Position) : String :=
  toString p.line ++ ":" ++ toString p.column

/-- The position of an offset in a text that is long enough and not empty. -/
def inText? (text : List Char) (offset : Int) : Option Position :=
  if text = [] ∨ (text.length : Int) < offset then none else some (ofOffset text offset)

/-- The place of an offset in a text, if there is one, as it is shown. -/
def placeShown (text : Option (List Char)) (offset : Int) : String :=
  match text.bind fun t => inText? t offset with
  | some p => p.shown
  | none => "@" ++ toString offset

end Position

/-- Why a place in a source cannot be shown. -/
inductive PositionError where
  | access (error : AccessError)
  | digits (error : DigitError)
deriving DecidableEq, Repr

/-- The wording of a position error. -/
def PositionError.message : PositionError → String
  | .access error => error.message
  | .digits error => error.message

namespace Workspace

/-- The text of a source, if it is named and can be read. -/
def sourceText? (w : Workspace) (source : Option String) : Option (List Char) :=
  source.bind fun path =>
    match w.readText path with
    | .ok text => some text.toList
    | .error _ => none

/-- The place of an offset in a source as it is shown. -/
def placeIn (w : Workspace) (source : Option String) (offset : Int) :
    Except PositionError String :=
  if source.any hasNull then .error (.access .nullByte)
  else if exceedsDigits offset then .error (.digits .showing)
  else .ok (Position.placeShown (w.sourceText? source) offset)

end Workspace

end BindingAudit
