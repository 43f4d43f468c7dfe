import BindingAudit.Text.Emoji.Table
import BindingAudit.Text.Blank
import BindingAudit.Text.LowerCase
import BindingAudit.Text.Search

/-!
# Emoji codes

An emoji may be written by its name between colons, in any case.  Behind the name may stand
`-emoji` or `-text`, which asks for one of the two ways to show it.  A code whose name is not
known is text.
-/

namespace BindingAudit.Text.Emoji

/-- The characters of a list of code points in hexadecimal, between hyphens. -/
def ofCodePoints (cs : List Char) : List Char :=
  (splitAt '-' cs).map fun digits => Char.ofNat (readDigits 16 digits)

/-- What an entry of the table says a name stands for, if it is the entry of that name. -/
def entryValue? (name entry : List Char) : Option (List Char) :=
  if (name ++ ['=']).isPrefixOf entry then some (ofCodePoints (entry.drop (name.length + 1)))
  else none

/-- The emoji of a name. -/
def ofName? (name : List Char) : Option (List Char) :=
  nameLines.findSome? fun line => (splitAt ' ' line.toList).findSome? (entryValue? name)

/-- The name between two colons without its ending, and the selector the ending asks for. -/
def nameAndSelector (code : List Char) : List Char × List Char :=
  let textEnding := "-text".toList
  let emojiEnding := "-emoji".toList
  if textEnding.reverse.isPrefixOf code.reverse then
    (code.take (code.length - textEnding.length), ['\uFE0E'])
  else if emojiEnding.reverse.isPrefixOf code.reverse then
    (code.take (code.length - emojiEnding.length), ['\uFE0F'])
  else (code, [])

/-- What the text between two colons stands for, colons included. -/
def expand (code : List Char) : List Char :=
  let (name, selector) := nameAndSelector code
  match ofName? (lowerCase name) with
  | some emoji => emoji ++ selector
  | none => ':' :: code ++ [':']

/-- Put emoji in the place of their codes.  `fuel` bounds the number of steps. -/
def replaceUpTo : Nat → List Char → List Char
  | 0, cs => cs
  | _, [] => []
  | fuel + 1, c :: cs =>
    if c == ':' then
      let code := cs.takeWhile fun d => d != ':' && !isBlank d
      match cs.drop code.length with
      | ':' :: rest => expand code ++ replaceUpTo fuel rest
      | _ => c :: replaceUpTo fuel cs
    else c :: replaceUpTo fuel cs

/-- Put emoji in the place of their codes. -/
def replace (cs : List Char) : List Char :=
  replaceUpTo cs.length cs

end BindingAudit.Text.Emoji
