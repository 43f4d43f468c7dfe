/-!
# Spans

A stretch of a source text, by the offset of its first character and its length.  Offsets count
characters.  Spans of a loaded model are never negative; the arithmetic does not rely on it.
-/

namespace BindingAudit

/-- A stretch of a source text. -/
structure Span where
  offset : Int
  length : Int
deriving DecidableEq, Repr, Inhabited

namespace Span

/-- The offset right after the last character. -/
def stop (s : Span) : Int :=
  s.offset + s.length

/-- Whether each of two spans starts before the other stops; for spans that are not empty this
means that they share a character. -/
def overlaps (s t : Span) : Bool :=
  s.offset < t.stop && t.offset < s.stop

/-- Whether an offset lies strictly between the two ends of a span. -/
def enclosesPoint (s : Span) (p : Int) : Bool :=
  s.offset < p && p < s.stop

end Span

end BindingAudit
