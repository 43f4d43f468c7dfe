import BindingAudit.Text.Ranges
import BindingAudit.Text.Width.Table

/-!
# Display width

How many terminal cells a text takes: two for a wide character, none for a control character, a
combining mark or another character without extent, and one for anything else.

Two characters change what stands around them.  A joiner binds the character after it into the
one before, so that it takes no cells of its own; an emoji variation selector makes the narrow
symbol before it wide.  `clusters` cuts a text so that no such bond is broken, and `fit` and
`chop` cut and pad texts by cells.
-/

namespace BindingAudit.Text

/-- The cells a single character takes. -/
def charWidth (c : Char) : Nat :=
  let n := c.toNat
  if 0x20 ≤ n && n < 0x7F then 1
  else if inRanges extentlessRanges n then 0
  else if inRanges wideRanges n then 2
  else 1

/-- The joiner of two characters. -/
def joiner : Char := '\u200D'

/-- The selector that asks for the emoji form of a symbol. -/
def emojiSelector : Char := '\uFE0F'

/-- Whether the emoji form of a character is wider than the character. -/
def widens (c : Char) : Bool :=
  inRanges widenedRanges c.toNat

/-- The cells a selector adds to the character it applies to, if there is one. -/
def addedWidth (last : Option Char) : Nat :=
  if last.any widens then 1 else 0

/-- The cells a text takes, where `last` is the character a selector at its head applies to. -/
def widthAfter (last : Option Char) : List Char → Nat
  | [] => 0
  | [c] =>
    if c == joiner then 0
    else if c == emojiSelector then addedWidth last
    else charWidth c
  | c :: d :: rest =>
    if c == joiner then widthAfter last rest
    else if c == emojiSelector then addedWidth last + widthAfter none (d :: rest)
    else if charWidth c == 0 then widthAfter last (d :: rest)
    else charWidth c + widthAfter (some c) (d :: rest)

/-- The cells a text takes. -/
def displayWidth (cs : List Char) : Nat :=
  widthAfter none cs

/-! ## Cutting by cells -/

/-- Characters that are shown as one, and the cells they take. -/
structure Cluster where
  text : List Char
  width : Nat
deriving DecidableEq, Repr

/-- Add characters to the last of the clusters read so far, which are in reverse. -/
def extendCluster (cs : List Char) (added : Nat) : List Cluster → List Cluster
  | [] => [⟨cs, added⟩]
  | k :: rest => ⟨k.text ++ cs, k.width + added⟩ :: rest

/-- The clusters of a text, in reverse, after those read so far.  `last` is the character a
selector at its head applies to. -/
def clustersAfter (done : List Cluster) (last : Option Char) : List Char → List Cluster
  | [] => done
  | [c] =>
    if c == joiner then extendCluster [c] 0 done
    else if c == emojiSelector then extendCluster [c] (addedWidth last) done
    else if charWidth c == 0 then extendCluster [c] 0 done
    else ⟨[c], charWidth c⟩ :: done
  | c :: d :: rest =>
    if c == joiner then
      if done.isEmpty then clustersAfter [⟨[c], 0⟩] last (d :: rest)
      else clustersAfter (extendCluster [c, d] 0 done) last rest
    else if c == emojiSelector then
      clustersAfter (extendCluster [c] (addedWidth last) done)
        (if last.any widens then none else last) (d :: rest)
    else if charWidth c == 0 then clustersAfter (extendCluster [c] 0 done) last (d :: rest)
    else clustersAfter (⟨[c], charWidth c⟩ :: done) (some c) (d :: rest)

/-- The clusters of a text. -/
def clusters (cs : List Char) : List Cluster :=
  (clustersAfter [] none cs).reverse

/-- The first clusters that fit in a number of cells; a wide one that is cut in two leaves a
space. -/
def takeCells : Nat → List Cluster → List Char
  | _, [] => []
  | room, k :: rest =>
    if k.width ≤ room then
      if k.width == room then k.text else k.text ++ takeCells (room - k.width) rest
    else if room == 0 then [] else [' ']

/-- A text cut or padded to a number of cells. -/
def fit (width : Nat) (cs : List Char) : List Char :=
  let size := displayWidth cs
  if size ≤ width then cs ++ List.replicate (width - size) ' '
  else if width == 0 then []
  else takeCells width (clusters cs)

/-- Cut clusters into lines of at most `width` cells.  `line` and `used` are the line under way
and its cells. -/
def chopFrom (width : Nat) (line : List Char) (used : Nat) : List Cluster → List (List Char)
  | [] => if used == 0 then [] else [line]
  | k :: rest =>
    if width < used + k.width then line :: chopFrom width k.text k.width rest
    else chopFrom width (line ++ k.text) (used + k.width) rest

/-- Cut a text into lines of at most `width` cells. -/
def chop (width : Nat) (cs : List Char) : List (List Char) :=
  chopFrom width [] 0 (clusters cs)

end BindingAudit.Text
