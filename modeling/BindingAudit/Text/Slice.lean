/-!
# Slices

Parts of a text between two offsets.  An offset may be negative, and then counts from the end of
the text; one beyond either end stands for that end.
-/

namespace BindingAudit.Text

/-- The number of characters in front of an offset, in a text of the given size. -/
def boundary (size : Nat) (offset : Int) : Nat :=
  if offset < 0 then (offset + size).toNat else min offset.toNat size

/-- The part of a text between two offsets. -/
def slice (text : List Char) (start stop : Int) : List Char :=
  (text.take (boundary text.length stop)).drop (boundary text.length start)

end BindingAudit.Text
