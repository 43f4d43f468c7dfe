import BindingAudit.Data.Basic
import BindingAudit.Span

/-!
# Edits

An edit substitutes text for a span of a source.  An insertion has an empty span at its place; a
replacement may say which text it expects to find there, so that a source that has changed since
is not damaged.
-/

namespace BindingAudit

/-- The two kinds of edits. -/
inductive EditKind where
  | insertion
  | replacement
deriving DecidableEq, Repr, Inhabited

/-- The name of a kind. -/
def EditKind.name : EditKind → String
  | .insertion => "insertion"
  | .replacement => "replacement"

/-- The kind of a name. -/
def EditKind.ofName? (s : String) : Option EditKind :=
  [EditKind.insertion, .replacement].find? fun k => k.name == s

/-- A substitution of text for a span. -/
structure Edit where
  kind : EditKind
  span : Span
  text : String
  expected : Option String := none
deriving DecidableEq, Repr, Inhabited

namespace Edit

/-- Insert a text in front of an offset. -/
def insertion (offset : Int) (text : String) : Edit :=
  { kind := .insertion, span := ⟨offset, 0⟩, text }

/-- Replace a span by a text, where another text is expected. -/
def replacement (span : Span) (text : String) (expected : Option String) : Edit :=
  { kind := .replacement, span, text, expected }

/-- The record of an edit. -/
def toData (e : Edit) : Data :=
  .record ([("kind", .text e.kind.name), ("offset", .int e.span.offset),
    ("length", .int e.span.length), ("text", .text e.text)]
    ++ (e.expected.map fun x => ("expected", Data.text x)).toList)

end Edit

end BindingAudit
