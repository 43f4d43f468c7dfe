import BindingAudit.Edit.Basic
import BindingAudit.Text.Blank
import BindingAudit.Text.Quoted
import BindingAudit.Text.Slice

/-!
# Applying edits

All edits of a list refer to the text as it is before any of them.  They are applied together or
not at all: first every edit is checked against the text, then the replacements against each
other and against the insertions, and only then the text is changed, from the highest offset
down, so that no edit moves the place of one still to come.

At one offset the replacement is made before the insertions, and of several insertions the last
first, so that they end up in their order in front of the replacement.
-/

namespace BindingAudit

/-- Why a list of edits cannot be applied. -/
inductive EditError where
  /-- An edit reaches outside a text of the given size. -/
  | outside (offset length : Int) (size : Nat)
  /-- A replaced span no longer reads as expected. -/
  | drifted (offset : Int) (expected : String)
  /-- Two replacements compete. -/
  | overlap (first second : Int)
  /-- An insertion falls inside a replaced span. -/
  | insideReplaced (offset : Int)
deriving DecidableEq, Repr

/-- The wording of an edit error. -/
def EditError.message : EditError → String
  | .outside offset length size =>
    "Edit at " ++ toString offset ++ "+" ++ toString length ++ " is outside the source ("
      ++ toString size ++ " chars)"
  | .drifted offset expected =>
    "Source at " ++ toString offset ++ " no longer reads " ++ Text.quoted expected
      ++ "; the element model is out of date with its QML source"
  | .overlap first second =>
    "Overlapping edits at " ++ toString first ++ " and " ++ toString second
  | .insideReplaced offset =>
    "Insertion at " ++ toString offset ++ " falls inside a replaced span"

/-- Whether a number in the wording has too many digits to be shown: only the place of an edit
outside the text can. -/
def EditError.exceeds : EditError → Bool
  | .outside offset length _ => exceedsDigits offset || exceedsDigits length
  | _ => false

namespace Edit

/-- Whether the text under an edit reads as expected, blanks around it apart. -/
def fits (text : List Char) (e : Edit) : Bool :=
  match e.expected with
  | none => true
  | some x => Text.trim (Text.slice text e.span.offset e.span.stop) == Text.trim x.toList

/-- What is wrong with a single edit of a text. -/
def fault? (text : List Char) (e : Edit) : Option EditError :=
  if e.span.offset < 0 ∨ (text.length : Int) < e.span.stop then
    some (.outside e.span.offset e.span.length text.length)
  else if fits text e then none
  else some (.drifted e.span.offset (e.expected.getD ""))

/-- The replacements among edits. -/
def replacements (edits : List Edit) : List Edit :=
  edits.filter fun e => e.kind == .replacement

/-- The insertions among edits. -/
def insertions (edits : List Edit) : List Edit :=
  edits.filter fun e => e.kind == .insertion

/-- Whether two replacements compete: they share a character or have the same span. -/
def competes (e f : Edit) : Bool :=
  e.span.overlaps f.span || e.span == f.span

/-- The first two replacements that compete. -/
def overlap? : List Edit → Option EditError
  | [] => none
  | e :: rest =>
    match rest.find? (competes e) with
    | some f => some (.overlap e.span.offset f.span.offset)
    | none => overlap? rest

/-- The first insertion that falls inside a replaced span. -/
def insideReplaced? (edits : List Edit) : Option EditError :=
  ((insertions edits).find? fun i =>
    (replacements edits).any fun r => r.span.enclosesPoint i.span.offset).map
    fun i => .insideReplaced i.span.offset

/-- The first thing wrong with a list of edits of a text. -/
def firstFault? (text : List Char) (edits : List Edit) : Option EditError :=
  (edits.findSome? (fault? text)).or ((overlap? (replacements edits)).or (insideReplaced? edits))

/-- Whether an edit with its number in the list is applied before another: the one at the higher
offset, then a replacement, then the one later in the list. -/
def before (e f : Nat × Edit) : Bool :=
  if e.2.span.offset ≠ f.2.span.offset then f.2.span.offset < e.2.span.offset
  else if e.2.kind ≠ f.2.kind then e.2.kind == .replacement
  else f.1 < e.1

/-- Put an edit into a list that is in order of application. -/
def insertInOrder (e : Nat × Edit) : List (Nat × Edit) → List (Nat × Edit)
  | [] => [e]
  | f :: rest => if before e f then e :: f :: rest else f :: insertInOrder e rest

/-- Numbered edits in order of application. -/
def sortNumbered : List (Nat × Edit) → List (Nat × Edit)
  | [] => []
  | e :: rest => insertInOrder e (sortNumbered rest)

/-- Edits with their numbers in the list, counted from `n`. -/
def numberFrom (n : Nat) : List Edit → List (Nat × Edit)
  | [] => []
  | e :: rest => (n, e) :: numberFrom (n + 1) rest

/-- Edits in order of application. -/
def inOrder (edits : List Edit) : List Edit :=
  (sortNumbered (numberFrom 0 edits)).map (·.2)

/-- Make one edit. -/
def substitute (text : List Char) (e : Edit) : List Char :=
  text.take (Text.boundary text.length e.span.offset) ++ e.text.toList
    ++ text.drop (Text.boundary text.length e.span.stop)

/-- Apply edits to the characters of a text. -/
def applyToChars (text : List Char) (edits : List Edit) : Except EditError (List Char) :=
  match firstFault? text edits with
  | some fault => .error fault
  | none => .ok ((inOrder edits).foldl substitute text)

/-- Apply edits to a text. -/
def apply (text : String) (edits : List Edit) : Except EditError String :=
  String.ofList <$> applyToChars text.toList edits

end Edit

end BindingAudit
