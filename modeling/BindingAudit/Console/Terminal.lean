import BindingAudit.Console.Markup

/-!
# Terminal output

Rendered text as it is sent out: laid out in lines of the width of the console and, on a colour
terminal, with escape sequences around the segments that have a style.
-/

namespace BindingAudit.Terminal

/-- A segment as it is sent to a colour terminal. -/
def painted (s : Segment) : String :=
  let codes := s.style.codes
  if codes.isEmpty || s.text.isEmpty then String.ofList s.text
  else
    "\x1b[" ++ String.intercalate ";" (codes.map toString) ++ "m" ++ String.ofList s.text
      ++ "\x1b[0m"

/-- A segment as it is sent out, with or without colours. -/
def shown (colors : Bool) (s : Segment) : String :=
  if colors then painted s else String.ofList s.text

/-- How lines of a console are laid out. -/
def layout (width : Nat) : Layout :=
  ⟨width, .fold, false⟩

/-- A text as it is sent to a console. -/
def send (width : Nat) (colors : Bool) (t : StyledText) : Except ColorError String := do
  let lines ← (t.wrap (layout width)).mapM StyledText.segments
  return String.join (lines.map fun line =>
    String.join ((Segment.crop width line).map (shown colors)) ++ "\n")

end BindingAudit.Terminal
