import BindingAudit.Console.Style.Basic
import BindingAudit.Text.Search
import BindingAudit.Text.Width

/-!
# Styled text

Console text with the styles of its stretches, and how it is laid out in lines of a given width:
tabs become spaces up to the next column that is a multiple of eight, lines are broken between
words, and what still does not fit is cut off.

* `wrap` gives the lines of a text.
* `segments` cuts a line where its looks may change.
* `Segment.adjust` cuts or pads the segments of a line.
-/

namespace BindingAudit

/-- A stretch of text and the name or definition of its style. -/
structure Stretch where
  start : Nat
  stop : Nat
  style : String
deriving DecidableEq, Repr

/-- Text and the styles of its stretches, of which a later one lies on top of an earlier. -/
structure StyledText where
  text : List Char
  stretches : List Stretch := []
deriving DecidableEq, Repr

/-- What becomes of a word that is wider than a line. -/
inductive Overflow where
  /-- It goes on in the next line. -/
  | fold
  /-- It is cut, with an ellipsis in the place of the rest. -/
  | ellipsis
deriving DecidableEq, Repr

/-- How text is laid out in lines. -/
structure Layout where
  width : Nat
  overflow : Overflow
  /-- Whether lines are padded to the width. -/
  padded : Bool
deriving DecidableEq, Repr

namespace Stretch

/-- The part of a stretch between two offsets, counted from the first, unless it is empty. -/
def within? (start stop : Nat) (s : Stretch) : Option Stretch :=
  let first := max start s.start
  let last := min stop s.stop
  if first < last then some ⟨first - start, last - start, s.style⟩ else none

/-- A stretch that starts before the end of a text, cut off there. -/
def before? (length : Nat) (s : Stretch) : Option Stretch :=
  if s.start < length then some { s with stop := min length s.stop } else none

end Stretch

namespace StyledText

/-! ## Cutting -/

/-- The part of a text between two offsets. -/
def part (t : StyledText) (start stop : Nat) : StyledText where
  text := (t.text.drop start).take (stop - start)
  stretches := t.stretches.filterMap (Stretch.within? start stop)

/-- The parts of a text from an offset on, which end at the given offsets and at its end. -/
def partsFrom (t : StyledText) (start : Nat) : List Nat → List StyledText
  | [] => [t.part start t.text.length]
  | stop :: rest => t.part start stop :: partsFrom t stop rest

/-- Cut a text at offsets.  Stretches that hold nothing are lost by a cut, and kept without. -/
def divide (t : StyledText) (offsets : List Nat) : List StyledText :=
  if offsets.isEmpty then [t] else t.partsFrom 0 offsets

/-- The offsets, from `i` on, right after each occurrence of a character. -/
def offsetsAfter (c : Char) (i : Nat) : List Char → List Nat
  | [] => []
  | d :: rest =>
    let others := offsetsAfter c (i + 1) rest
    if d = c then (i + 1) :: others else others

/-- A text without its last characters. -/
def dropLast (t : StyledText) (count : Nat) : StyledText :=
  if count = 0 then t
  else
    let length := t.text.length - count
    ⟨t.text.take length, t.stretches.filterMap (Stretch.before? length)⟩

/-- A text without the line feed it may end in. -/
def withoutFeed (t : StyledText) : StyledText :=
  if t.text.getLast? == some '\n' then t.dropLast 1 else t

/-- The lines of a text. -/
def lines (t : StyledText) : List StyledText :=
  (t.divide (offsetsAfter '\n' 0 t.text)).map withoutFeed

/-- Texts one after another. -/
def join : List StyledText → StyledText
  | [] => ⟨[], []⟩
  | t :: rest =>
    let others := join rest
    ⟨t.text ++ others.text,
      t.stretches ++ others.stretches.map fun s =>
        { s with start := t.text.length + s.start, stop := t.text.length + s.stop }⟩

/-! ## Tabs -/

/-- The width of a tab. -/
def tabWidth : Nat := 8

/-- Add spaces in the style of the last character. -/
def extend (t : StyledText) (spaces : Nat) : StyledText where
  text := t.text ++ List.replicate spaces ' '
  stretches := t.stretches.map fun s =>
    if t.text.length ≤ s.stop then { s with stop := s.stop + spaces } else s

/-- Put spaces in the place of the tab that ends each part of a line but the last.  `column` is
where the parts start. -/
def fillTabs (column : Nat) : List StyledText → List StyledText
  | [] => []
  | t :: rest =>
    if t.text.getLast? == some '\t' then
      let spaced := { t with text := t.text.dropLast ++ [' '] }
      let reached := column + Text.displayWidth spaced.text
      let missing := (tabWidth - reached % tabWidth) % tabWidth
      spaced.extend missing :: fillTabs (reached + missing) rest
    else t :: fillTabs (column + Text.displayWidth t.text) rest

/-- Put spaces in the place of the tabs of a line. -/
def expandTabs (t : StyledText) : StyledText :=
  let offsets := offsetsAfter '\t' 0 t.text
  if offsets.isEmpty then t else join (fillTabs 0 (t.divide offsets))

/-! ## Lines of a given width -/

/-- The words of a line, each with the blanks after it, and the first with those before it.
`current` is the word under way, in reverse, and `begun` tells whether it holds more than
blanks. -/
def spacedWords (begun : Bool) (current : List Char) : List Char → List (List Char)
  | [] => if begun then [current.reverse] else []
  | c :: rest =>
    if begun && !Text.isBlank c && current.head?.any Text.isBlank then
      current.reverse :: spacedWords true [c] rest
    else spacedWords (begun || !Text.isBlank c) (c :: current) rest

/-- The offsets at which pieces that follow each other start. -/
def startsOf (start : Nat) : List (List Char) → List Nat
  | [] => []
  | piece :: rest => start :: startsOf (start + piece.length) rest

/-- The offsets at which a line is broken.  `start` is where the given words start, and `used` the
cells of the line under way. -/
def breaksFrom (width : Nat) (overflow : Overflow) (start used : Nat) :
    List (List Char) → List Nat
  | [] => []
  | word :: rest =>
    let size := Text.displayWidth (Text.trimEnd word)
    let spaced := Text.displayWidth word
    let next := start + word.length
    if used + size ≤ width then breaksFrom width overflow next (used + spaced) rest
    else if width < size then
      match overflow with
      | .fold =>
        let pieces := Text.chop width word
        (startsOf start pieces).filter (· != 0)
          ++ breaksFrom width overflow next (Text.displayWidth (pieces.getLastD [])) rest
      | .ellipsis => [start].filter (· != 0) ++ breaksFrom width overflow next spaced rest
    else if used = 0 ∨ start = 0 then breaksFrom width overflow next used rest
    else start :: breaksFrom width overflow next spaced rest

/-- Drop blanks at the end of a line as long as it has more characters than the width. -/
def trimExcess (width : Nat) (t : StyledText) : StyledText :=
  let blanks := (t.text.reverse.takeWhile Text.isBlank).length
  t.dropLast (min blanks (t.text.length - width))

/-- Cut a line that is too wide, and pad one that is not if lines are padded. -/
def fit (layout : Layout) (t : StyledText) : StyledText :=
  let size := Text.displayWidth t.text
  if layout.width < size then
    let text :=
      match layout.overflow with
      | .fold => Text.fit layout.width t.text
      | .ellipsis => Text.fit (layout.width - 1) t.text ++ ['…']
    ⟨text, t.stretches.filterMap (Stretch.before? text.length)⟩
  else if layout.padded then
    { t with text := t.text ++ List.replicate (layout.width - size) ' ' }
  else t

/-- A line laid out in lines of a given width. -/
def wrapLine (layout : Layout) (t : StyledText) : List StyledText :=
  let line := t.expandTabs
  let offsets := breaksFrom layout.width layout.overflow 0 0 (spacedWords false [] line.text)
  (line.divide offsets).map fun piece => (piece.trimExcess layout.width).fit layout

/-- A text laid out in lines. -/
def wrap (layout : Layout) (t : StyledText) : List StyledText :=
  t.lines.flatMap (wrapLine layout)

end StyledText

/-! ## Segments -/

/-- A part of a line that looks the same throughout. -/
structure Segment where
  text : List Char
  style : Style := {}
deriving DecidableEq, Repr

namespace Segment

/-- The cells a segment takes. -/
def width (s : Segment) : Nat :=
  Text.displayWidth s.text

/-- The cells the segments of a line take together. -/
def totalWidth (line : List Segment) : Nat :=
  (line.map width).foldr (· + ·) 0

/-- Cut a line off after a number of cells. -/
def cut (room : Nat) : List Segment → List Segment
  | [] => []
  | s :: rest =>
    if s.width < room then s :: cut (room - s.width) rest
    else [{ s with text := Text.fit room s.text }]

/-- Cut a line to a width. -/
def crop (width : Nat) (line : List Segment) : List Segment :=
  if width < totalWidth line then cut width line else line

/-- Cut or pad a line to a width. -/
def adjust (width : Nat) (line : List Segment) : List Segment :=
  let missing := width - totalWidth line
  if missing = 0 then crop width line else line ++ [{ text := List.replicate missing ' ' }]

end Segment

namespace StyledText

/-- Put a number into an ascending list unless it is there. -/
def insertOffset (n : Nat) : List Nat → List Nat
  | [] => [n]
  | m :: rest =>
    if n = m then m :: rest
    else if n < m then n :: m :: rest
    else m :: insertOffset n rest

/-- The offsets at which the looks of a text may change, in ascending order. -/
def boundaries (t : StyledText) : List Nat :=
  t.stretches.foldl (fun offsets s => insertOffset s.start (insertOffset s.stop offsets))
    (insertOffset 0 [t.text.length])

/-- The looks at an offset, where `styles` are those of the stretches. -/
def styleAt (t : StyledText) (styles : List Style) (offset : Nat) : Style :=
  (t.stretches.zip styles).foldl
    (fun below (s, style) =>
      if s.start ≤ offset && offset < s.stop then style.onTop below else below) {}

/-- The segments between offsets. -/
def segmentsBetween (t : StyledText) (styles : List Style) : List Nat → List Segment
  | start :: stop :: rest =>
    ⟨(t.text.drop start).take (stop - start), t.styleAt styles start⟩
      :: segmentsBetween t styles (stop :: rest)
  | _ => []

/-- The segments of a line. -/
def segments (t : StyledText) : Except ColorError (List Segment) := do
  let styles ← t.stretches.mapM fun s => Style.named s.style
  return t.segmentsBetween styles t.boundaries

end StyledText

end BindingAudit
