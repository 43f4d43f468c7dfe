import BindingAudit.Console.Color.Basic
import BindingAudit.Console.Style.Table
import BindingAudit.Text.Blank

/-!
# Styles

How a stretch of console text looks: attributes that are turned on or off, a colour, a background
and a link.  A style is written as words in any order, such as `bold red on white` or
`not italic link address`.

* `read` gives the style of a definition, and `definition` writes it in a standard order.
* `onTop` lays one style over another.
* `codes` are the numbers of the escape sequence that turns a style on.
-/

namespace BindingAudit

/-- The attributes of text on a terminal, in the order they are written in. -/
inductive Attribute where
  | bold
  | dim
  | italic
  | underline
  | blink
  | blinkFast
  | reverse
  | conceal
  | strike
  | underlineTwice
  | frame
  | encircle
  | overline
deriving DecidableEq, Repr

namespace Attribute

/-- All attributes in order. -/
def all : List Attribute := [
  .bold, .dim, .italic, .underline, .blink, .blinkFast, .reverse, .conceal, .strike,
  .underlineTwice, .frame, .encircle, .overline]

/-- The word for an attribute. -/
def name : Attribute → String
  | .bold => "bold"
  | .dim => "dim"
  | .italic => "italic"
  | .underline => "underline"
  | .blink => "blink"
  | .blinkFast => "blink2"
  | .reverse => "reverse"
  | .conceal => "conceal"
  | .strike => "strike"
  | .underlineTwice => "underline2"
  | .frame => "frame"
  | .encircle => "encircle"
  | .overline => "overline"

/-- The short word for an attribute. -/
def shortName? : Attribute → Option String
  | .bold => some "b"
  | .dim => some "d"
  | .italic => some "i"
  | .underline => some "u"
  | .reverse => some "r"
  | .conceal => some "c"
  | .strike => some "s"
  | .underlineTwice => some "uu"
  | .overline => some "o"
  | _ => none

/-- The code that turns an attribute on. -/
def code : Attribute → Nat
  | .bold => 1
  | .dim => 2
  | .italic => 3
  | .underline => 4
  | .blink => 5
  | .blinkFast => 6
  | .reverse => 7
  | .conceal => 8
  | .strike => 9
  | .underlineTwice => 21
  | .frame => 51
  | .encircle => 52
  | .overline => 53

/-- The attribute of a word. -/
def ofWord? (word : List Char) : Option Attribute :=
  all.find? fun a => a.name.toList == word || a.shortName?.any fun s => s.toList == word

end Attribute

/-- A style. -/
structure Style where
  /-- The attributes that are turned on or off; the first that names an attribute counts. -/
  settings : List (Attribute × Bool) := []
  color : Option Color := none
  background : Option Color := none
  link : Option String := none
deriving DecidableEq, Repr

namespace Style

/-- Whether an attribute is turned on or off, if the style says so. -/
def setting? (s : Style) (a : Attribute) : Option Bool :=
  (s.settings.find? fun p => p.1 == a).map (·.2)

/-! ## Reading -/

/-- Turn an attribute on or off. -/
def turn (s : Style) (a : Attribute) (on : Bool) : Style :=
  { s with settings := (a, on) :: s.settings }

/-- Whether a word says what the next word is. -/
def leads (word : List Char) : Bool :=
  word == "on".toList || word == "not".toList || word == "link".toList

/-- Add a word that says what the next word is, and that word. -/
def addPair (s : Style) (word next : List Char) : Except ColorError Style :=
  if word = "on".toList then do
    return { s with background := some (← Color.read next) }
  else if word = "not".toList then
    match Attribute.ofWord? next with
    | some a => .ok (s.turn a false)
    | none => .error .unknown
  else .ok { s with link := some (String.ofList next) }

/-- Add a word in lower case that stands for itself. -/
def addWord (s : Style) (word : List Char) : Except ColorError Style :=
  match Attribute.ofWord? word with
  | some a => .ok (s.turn a true)
  | none => do return { s with color := some (← Color.read word) }

/-- Add the words of a definition. -/
def addWords (s : Style) : List (List Char) → Except ColorError Style
  | [] => .ok s
  | [word] =>
    let lowered := Text.lowerCase word
    if leads lowered then .error .unknown else s.addWord lowered
  | word :: next :: rest =>
    let lowered := Text.lowerCase word
    if leads lowered then do addWords (← s.addPair lowered next) rest
    else do addWords (← s.addWord lowered) (next :: rest)

/-- The style of a definition. -/
def read (cs : List Char) : Except ColorError Style :=
  if Text.trim cs = "none".toList then .ok {} else addWords {} (Text.words cs)

/-- The style that a name or a definition stands for; what is neither stands for no style. -/
def named (text : String) : Except ColorError Style :=
  let definition := ((names.find? fun n => n.1 == text).map (·.2)).getD text
  match read definition.toList with
  | .error .unknown => .ok {}
  | other => other

/-! ## Writing -/

/-- The words of an attribute that is turned on or off. -/
def settingWords (s : Style) (a : Attribute) : List String :=
  match s.setting? a with
  | some true => [a.name]
  | some false => ["not", a.name]
  | none => []

/-- The words of a style in the standard order. -/
def words (s : Style) : List String :=
  Attribute.all.flatMap s.settingWords
    ++ s.color.toList.map Color.name
    ++ (s.background.toList.flatMap fun c => ["on", c.name])
    ++ s.link.toList.flatMap fun url => ["link", url]

/-- The definition of a style in the standard order. -/
def definition (s : Style) : String :=
  if s.words.isEmpty then "none" else String.intercalate " " s.words

/-! ## Looks -/

/-- One style over another: what the upper one says counts. -/
def onTop (upper lower : Style) : Style where
  settings := upper.settings ++ lower.settings
  color := upper.color.or lower.color
  background := upper.background.or lower.background
  link := upper.link.or lower.link

/-- The codes that turn a style on. -/
def codes (s : Style) : List Nat :=
  (Attribute.all.filter fun a => s.setting? a == some true).map Attribute.code
    ++ s.color.toList.map (Color.code 30)
    ++ s.background.toList.map (Color.code 40)

end Style

end BindingAudit
