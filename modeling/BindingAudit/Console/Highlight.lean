import BindingAudit.Console.Pattern
import BindingAudit.Text.Digit

/-!
# Highlighting

What stands out in console text by itself: tags and attributes, brackets, addresses, calls, words
for values, numbers, paths, quoted texts and links.
-/

namespace BindingAudit.Highlight

open Pattern

/-! ## Character classes -/

/-- A decimal digit. -/
def digit : Pattern := .one Char.isDigit

/-- A decimal digit of any script. -/
def anyDigit : Pattern := .one Text.isDecimalDigit

/-- A hexadecimal digit. -/
def hexDigit : Pattern := .one Text.isHexDigit

/-- A letter, a number or an underscore. -/
def wordCharacter : Pattern := .one Text.isWordCharacter

/-- A word character or one of the given characters. -/
def wordOr (chars : String) : Pattern :=
  let others := chars.toList
  .one fun c => Text.isWordCharacter c || others.contains c

/-- Any character but a line feed. -/
def inLine : Pattern := .one (· != '\n')

/-! ## Tags, attributes and brackets -/

/-- A tag between angle brackets, from the first to the last of them. -/
def tag : Pattern := all [
  .marked "bold" (word "<"), .marked "bold bright_magenta" (star (wordOr "-.:|")),
  .marked "default" (star (.one fun _ => true)), .marked "bold" (word ">")]

/-- A name with an equals sign and a value. -/
def assignment : Pattern :=
  let value := all [optional (word "\""), plus wordCharacter, optional (word "\"")]
  all [.marked "yellow not italic" (between 1 50 wordCharacter), word "=",
    optional (.marked "magenta not italic" value)]

/-- A bracket. -/
def bracket : Pattern := .marked "bold" (oneOf "[]\x7b\x7d()")

/-! ## Addresses -/

/-- The style of an address. -/
def addressStyle : String := "bold bright_green"

/-- Copies of a group of hexadecimal digits, with a mark after each but the last. -/
def hexGroups (copies : Nat) (group : Pattern) (mark : String) : Pattern :=
  .seq (between copies copies (.seq group (word mark))) group

/-- Four numbers with points between them. -/
def fourNumbers : Pattern :=
  let number := between 1 3 digit
  all [number, word ".", number, word ".", number, word ".", number]

/-- Up to eight groups of digits with one or two colons between them. -/
def colonGroups : Pattern :=
  let group := between 1 4 hexDigit
  .seq (between 1 7 (all [group, word ":", optional (word ":")])) group

/-- The address of a device: pairs of digits, or groups of four. -/
def deviceAddress (pairs fours : Nat) : Pattern :=
  let pair := between 1 2 hexDigit
  any (hexGroups pairs pair "-")
    [hexGroups pairs pair ":", hexGroups fours (between 4 4 hexDigit) "."]

/-- An identifier of five groups of digits. -/
def longIdentifier : Pattern :=
  let group (n : Nat) := between n n hexDigit
  all [group 8, word "-", group 4, word "-", group 4, word "-", group 4, word "-", group 12]

/-! ## Values -/

/-- A word that stands alone. -/
def loneWord (style text : String) : Pattern :=
  all [.edge true, .marked style (word text), .edge true]

/-- Digits with an optional fraction. -/
def decimal : Pattern := all [plus digit, optional (word "."), star digit]

/-- An exponent with the given digits. -/
def exponent (digits : Pattern) : Pattern :=
  all [word "e", optional (oneOf "-+"), digits]

/-- As few digits as possible, and at least one. -/
def fewDigits : Pattern := .many 1 none false anyDigit

/-- The style of a number. -/
def numberStyle : String := "bold cyan not italic"

/-- A complex number. -/
def complexNumber : Pattern :=
  .marked numberStyle (all [
    .notAfter Text.isWordCharacter, optional (word "-"), decimal, optional (exponent fewDigits),
    optional (all [oneOf "-+", decimal, optional (exponent (plus anyDigit))]), word "j"])

/-- A number. -/
def number : Pattern :=
  .marked numberStyle (.either
    (all [.notAfter Text.isWordCharacter, optional (word "-"), decimal,
      optional (exponent fewDigits), .edge true])
    (.seq (word "0x") (star hexDigit)))

/-- A path, with the name of the file in a style of its own. -/
def path : Pattern :=
  let inName := wordOr "-.+"
  all [
    .marked "magenta" (all [.edge false, star (.seq (word "/") (plus inName)), word "/"]),
    optional (.marked "bright_magenta" (star inName))]

/-- A text between two marks of the same kind, the last of which has no backslash in front. -/
def quotedBy (mark : String) : Pattern :=
  all [optional (word "b"), word mark, lazyStar inLine, .notAfter (· == '\\'), word mark]

/-- A quoted text. -/
def quotedText : Pattern :=
  .seq (.notAfter fun c => c == '\\' || Text.isWordCharacter c)
    (.marked "green not italic not bold"
      (any (quotedBy "'''") [quotedBy "'", quotedBy "\"\"\"", quotedBy "\""]))

/-- A link. -/
def link : Pattern :=
  let scheme := any (word "file") [word "https", word "http", word "ws", word "wss"]
  let others := "-$_+!`(),.?/;:&=%#~@".toList
  let inLink := .one fun c => c.isAlphanum || others.contains c
  .marked "underline bright_blue not italic not bold" (all [scheme, word "://", star inLink])

/-- A value of any kind. -/
def value : Pattern :=
  any (.marked addressStyle fourNumbers) [
    .marked addressStyle colonGroups,
    .marked addressStyle (deviceAddress 7 3),
    .marked addressStyle (deviceAddress 5 2),
    .marked "bright_yellow not bold" longIdentifier,
    .seq (.marked "magenta bold" (lazyStar (wordOr "."))) (word "("),
    loneWord "italic bright_green" "True", loneWord "italic bright_red" "False",
    loneWord "italic magenta" "None",
    .marked "yellow" (word "..."),
    complexNumber, number, path, quotedText, link]

/-- The stretches of a text that stand out. -/
def stretches (cs : List Char) : List Stretch :=
  [tag, assignment, bracket, value].flatMap fun pattern => pattern.findAll cs

end BindingAudit.Highlight
