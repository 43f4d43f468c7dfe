import BindingAudit.Console.Color.Table
import BindingAudit.Number.Numeral
import BindingAudit.Text.LowerCase

/-!
# Colours

A colour is written by its name, as `color(n)` for a place in the palette, as `#rrggbb`, or as
`rgb(r,g,b)`.  A terminal has sixteen colours and one of its own; any other colour is shown as the
nearest of the sixteen.
-/

namespace BindingAudit

/-- What a colour looks like. -/
inductive Shade where
  /-- The terminal's own colour. -/
  | own
  /-- A place in the palette of 256 colours, which starts with the sixteen of a terminal. -/
  | palette (index : Nat)
  | mixed (red green blue : Nat)
deriving DecidableEq, Repr

/-- A colour with the name it was written by. -/
structure Color where
  name : String
  shade : Shade
deriving DecidableEq, Repr

/-- Why a text is no colour. -/
inductive ColorError where
  | unknown
  /-- A part of a mixture is empty. -/
  | emptyPart
  /-- A part of a mixture has too many digits. -/
  | digits (error : DigitError)
deriving DecidableEq, Repr

/-- The wording of a colour error. -/
def ColorError.message : ColorError → String
  | .unknown => "unknown color"
  | .emptyPart => "invalid literal for int() with base 10: ''"
  | .digits error => error.message

namespace Color

/-! ## Reading -/

/-- The text between an opening, which ends in a bracket, and a closing bracket. -/
def enclosed? (opening : String) (cs : List Char) : Option (List Char) :=
  if opening.toList.isPrefixOf cs then
    match (cs.drop opening.length).reverse with
    | ')' :: inner => some inner.reverse
    | _ => none
  else none

/-- The shade of six hexadecimal digits. -/
def ofHex? (digits : List Char) : Option Shade :=
  if digits.length = 6 ∧ digits.all Text.isHexDigit then
    let part (i : Nat) := Text.readDigits 16 ((digits.drop i).take 2)
    some (.mixed (part 0) (part 2) (part 4))
  else none

/-- The shade at a place in the palette, written in up to three digits. -/
def ofPlace? (digits : List Char) : Option Shade :=
  let place := Text.readDigits 10 digits
  if digits ≠ [] ∧ digits.length ≤ 3 ∧ digits.all Char.isDigit ∧ place ≤ 255 then
    some (.palette place)
  else none

/-- One part of a mixture. -/
def readPart (cs : List Char) : Except ColorError Nat :=
  match Numeral.integer 10 cs with
  | .ok n => .ok n.toNat
  | .error (.digits e) => .error (.digits e)
  | .error .invalid => .error .emptyPart

/-- The shade of three parts, each up to 255. -/
def ofParts (cs : List Char) : Except ColorError Shade :=
  if cs.isEmpty || !cs.all (fun c => c == ',' || Text.isDecimalDigit c) then .error .unknown
  else
    match Text.splitAt ',' cs with
    | [red, green, blue] => do
      let red ← readPart red
      let green ← readPart green
      let blue ← readPart blue
      if red ≤ 255 ∧ green ≤ 255 ∧ blue ≤ 255 then return .mixed red green blue
      else .error .unknown
    | _ => .error .unknown

/-- The shade of a word in lower case. -/
def readShade (word : List Char) : Except ColorError Shade :=
  if word = "default".toList then .ok .own
  else
    match names.find? fun n => n.1.toList == word with
    | some (_, index) => .ok (.palette index)
    | none =>
      match word with
      | '#' :: digits => ((ofHex? digits).map Except.ok).getD (.error .unknown)
      | _ =>
        match enclosed? "color(" word, enclosed? "rgb(" word with
        | some digits, _ => ((ofPlace? digits).map Except.ok).getD (.error .unknown)
        | none, some parts => ofParts parts
        | none, none => .error .unknown

/-- The colour a word without blanks stands for, in any case. -/
def read (word : List Char) : Except ColorError Color := do
  let lowered := Text.lowerCase word
  return ⟨String.ofList lowered, ← readShade lowered⟩

/-! ## The colours of a terminal -/

/-- Red, green and blue. -/
abbrev Mixture := Nat × Nat × Nat

/-- The sixteen colours of a terminal. -/
def standard : List Mixture := [
  (0, 0, 0), (170, 0, 0), (0, 170, 0), (170, 85, 0), (0, 0, 170), (170, 0, 170), (0, 170, 170),
  (170, 170, 170), (85, 85, 85), (255, 85, 85), (85, 255, 85), (255, 255, 85), (85, 85, 255),
  (255, 85, 255), (85, 255, 255), (255, 255, 255)]

/-- The strength of a step along an edge of the colour cube. -/
def cubeLevel (step : Nat) : Nat :=
  if step = 0 then 0 else 55 + 40 * step

/-- The mixture at a place of the palette: the sixteen colours, a cube with six steps along each
edge, and 24 greys. -/
def mixtureAt (place : Nat) : Mixture :=
  if place < 16 then standard.getD place (0, 0, 0)
  else if place < 232 then
    let n := place - 16
    (cubeLevel (n / 36), cubeLevel (n / 6 % 6), cubeLevel (n % 6))
  else
    let grey := 8 + 10 * (place - 232)
    (grey, grey, grey)

/-- How far apart two colours look; the weights of red and blue hang on how red they are. -/
def distance : Mixture → Mixture → Nat
  | (r, g, b), (r', g', b') =>
    let mean := (r + r') / 2
    let square (m n : Nat) :=
      let gap := max m n - min m n
      gap * gap
    (512 + mean) * square r r' / 256 + 4 * square g g' + (767 - mean) * square b b' / 256

/-- The place of the first of the given mixtures, the first of which is at `place`, that is
nearest to a colour.  `best` is the nearest before them, with its distance. -/
def nearestFrom (target : Mixture) (best : Nat × Nat) (place : Nat) : List Mixture → Nat
  | [] => best.1
  | m :: rest =>
    let d := distance target m
    nearestFrom target (if d < best.2 then (place, d) else best) (place + 1) rest

/-- The nearest of the sixteen colours. -/
def nearest (target : Mixture) : Nat :=
  nearestFrom target (0, distance target (0, 0, 0)) 0 standard

/-- The place of a colour among the sixteen; none for the terminal's own colour. -/
def place? (c : Color) : Option Nat :=
  match c.shade with
  | .own => none
  | .palette index => some (if index < 16 then index else nearest (mixtureAt index))
  | .mixed red green blue => some (nearest (red, green, blue))

/-- The code that sets a colour, where `base` is the code of the first of the eight plain
colours. -/
def code (base : Nat) (c : Color) : Nat :=
  match c.place? with
  | none => base + 9
  | some n => if n < 8 then base + n else base + 60 + (n - 8)

end Color

end BindingAudit
