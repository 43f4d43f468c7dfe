import BindingAudit.Console.Terminal

/-!
# Tables

A table with a title, headings and rows, drawn with lines.  Every column is as wide as its widest
line, unless the table would be wider than the console: then the widest columns give way.  A cell
of several lines makes its row as high.  The cells of a row are marked-up text.

What tables and lines are printed with is a `Printer`; `Printer.console` prints on a console of any
width.
-/

namespace BindingAudit

/-- A table. -/
structure Table where
  title : String
  headings : List String
  rows : List (List StyledText)

namespace Table

/-! ## Widths -/

/-- Whether a character ends a line, for the width of a cell. -/
def endsLine (c : Char) : Bool :=
  let n := c.toNat
  n == 0x0A || (0x1C ≤ n && n ≤ 0x1E) || n == 0x85 || n == 0x2028 || n == 0x2029

/-- The width of the widest line of a text.  `line` is the line under way, in reverse. -/
def widest (line : List Char) : List Char → Nat
  | [] => Text.displayWidth line.reverse
  | c :: rest =>
    if endsLine c then max (Text.displayWidth line.reverse) (widest [] rest)
    else widest (c :: line) rest

/-- The width of the blanks on both sides of a cell. -/
def padding : Nat := 2

/-- The cells that a console of some width has for columns, between their strokes. -/
def room (console : Nat) (t : Table) : Nat :=
  console - (t.headings.length + 1)

/-- The widths the columns ask for, with the blanks on both sides. -/
def desiredWidths (console : Nat) (t : Table) : List Nat :=
  let asked := t.rows.foldl
    (fun widths row => List.zipWith max widths (row.map fun cell => widest [] cell.text))
    (t.headings.map fun h => widest [] h.toList)
  asked.map fun n => min (n + padding) (t.room console)

/-- A quotient rounded to the nearest number, a half to the even one. -/
def roundedQuotient (m n : Nat) : Nat :=
  let quotient := m / n
  let twice := 2 * (m % n)
  if n < twice || (twice == n && quotient % 2 == 1) then quotient + 1 else quotient

/-- Take a number of cells from the columns that are `widest`, which are `count`, but no more than
`most` from each. -/
def shrink (widest most : Nat) : Nat → Nat → List Nat → List Nat
  | _, _, [] => []
  | excess, count, w :: rest =>
    if w = widest then
      let taken := min most (roundedQuotient excess count)
      (w - taken) :: shrink widest most (excess - taken) (count - 1) rest
    else w :: shrink widest most excess count rest

/-- Make the widest columns narrower until all fit in the room.  `fuel` bounds the number of
steps. -/
def collapse (room : Nat) : Nat → List Nat → List Nat
  | 0, widths => widths
  | fuel + 1, widths =>
    let excess := widths.foldr (· + ·) 0 - room
    if excess = 0 then widths
    else
      let first := widths.foldl max 0
      let second := (widths.filter (· != first)).foldl max 0
      let most := min excess (first - second)
      collapse room fuel (shrink first most excess (widths.count first) widths)

/-- The widths of the columns on a console, with the blanks on both sides. -/
def widths (console : Nat) (t : Table) : List Nat :=
  let desired := t.desiredWidths console
  collapse (t.room console) (desired.foldr (· + ·) 0) desired

/-! ## Drawing -/

/-- The lines of a cell in a column, with the blanks on both sides. -/
def cellLines (width : Nat) (cell : StyledText) : Except ColorError (List String) := do
  let inner := width - padding
  let lines ← (cell.wrap ⟨inner, .ellipsis, true⟩).mapM StyledText.segments
  return lines.map fun line =>
    " " ++ String.ofList ((Segment.adjust inner line).flatMap Segment.text) ++ " "

/-- A ruled line: its left end, its stroke, its crossings and its right end. -/
def rule (widths : List Nat) (left : String) (stroke : Char) (cross right : String) : String :=
  left ++ String.intercalate cross (widths.map (Text.fill stroke)) ++ right ++ "\n"

/-- A row with its upright strokes. -/
def row (widths : List Nat) (upright : String) (cells : List StyledText) :
    Except ColorError String := do
  let columns ← (widths.zip cells).mapM fun (width, cell) => cellLines width cell
  let height := (columns.map List.length).foldl max 1
  return String.join ((List.range height).map fun i =>
    let parts := List.zipWith (fun width lines => lines.getD i (Text.fill ' ' width)) widths columns
    upright ++ String.intercalate upright parts ++ upright ++ "\n")

/-- A line of the given width with a text in the middle. -/
def centered (width : Nat) (text : List Char) : String :=
  let text := Text.trimEnd text
  let free := width - Text.displayWidth text
  Text.fill ' ' (free / 2) ++ String.ofList text ++ Text.fill ' ' (free - free / 2) ++ "\n"

/-- The title in the middle of lines of the given width. -/
def titleLines (width : Nat) (title : String) : String :=
  let lines := StyledText.wrap ⟨width, .fold, false⟩ { text := title.toList }
  String.join (lines.map fun line => centered width line.text)

/-- Draw a table for a console. -/
def draw (console : Nat) (t : Table) : Except ColorError String := do
  let ws := t.widths console
  let headings ← row ws "┃" (t.headings.map fun h => { text := h.toList })
  let rows ← t.rows.mapM (row ws "│")
  return titleLines (ws.foldr (· + ·) 0 + ws.length + 1) t.title
    ++ rule ws "┏" '━' "┳" "┓"
    ++ headings
    ++ rule ws "┡" '━' "╇" "┩"
    ++ String.join rows
    ++ rule ws "└" '─' "┴" "┘"

end Table

/-! ## Printers -/

/-- What marked-up text is printed with. -/
structure Printer where
  /-- The number of cells of a line. -/
  width : Nat
  /-- Make a text show as itself. -/
  escape : String → String
  /-- Tell the text and the styles of a marked-up text apart. -/
  render : String → Except Markup.Error StyledText
  /-- Print a marked-up text. -/
  print : String → Except Markup.Error String
  /-- Print a table whose cells were rendered. -/
  draw : Table → Except Markup.Error String

namespace Printer

/-- The printer of a console with lines of a width and without colours. -/
def console (width : Nat) : Printer where
  width
  escape := Markup.escape
  render := Markup.render
  print markup := do
    match Terminal.send width false (← Markup.render markup) with
    | .ok text => return text
    | .error e => .error (.color e)
  draw t :=
    match t.draw width with
    | .ok text => .ok text
    | .error e => .error (.color e)

/-- Put columns side by side, as rows. -/
def rowsOf : List (List StyledText) → List (List StyledText)
  | [] => []
  | [last] => last.map fun c => [c]
  | first :: rest => List.zipWith (fun c row => c :: row) first (rowsOf rest)

/-- The table of columns of marked-up cells, each under its heading.  Columns are rendered from
the left, and each from the top down. -/
def tableOf (p : Printer) (title : String) (columns : List (String × List String)) :
    Except Markup.Error Table := do
  let rendered ← columns.mapM fun c => c.2.mapM p.render
  return ⟨title, columns.map (·.1), rowsOf rendered⟩

end Printer

end BindingAudit
