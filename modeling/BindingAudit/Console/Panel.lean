import BindingAudit.Console.StyledText

/-!
# Panels

Text in a frame across the whole width of a console, with a title in its upper edge.
-/

namespace BindingAudit.Panel

/-- The cells of a line that the frame and the blanks beside it take. -/
def edges : Nat := 4

/-- Draw a text in a frame of the given width. -/
def draw (width : Nat) (title text : String) : String :=
  let heading := "╭─ " ++ title ++ " "
  let lines := StyledText.wrap ⟨width - edges, .fold, true⟩ { text := text.toList }
  heading ++ Text.fill '─' (width - heading.length - 1) ++ "╮\n"
    ++ String.join (lines.map fun line => "│ " ++ String.ofList line.text ++ " │\n")
    ++ "╰" ++ Text.fill '─' (width - 2) ++ "╯\n"

end BindingAudit.Panel
