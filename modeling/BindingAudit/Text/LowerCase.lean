import BindingAudit.Text.CaseFold
import BindingAudit.Text.LowerCase.Table
import BindingAudit.Text.Ranges

/-!
# Lower case

The lower case of a text, character by character but for one: a capital sigma at the end of a
word has a form of its own.  The capital `İ` becomes two characters.
-/

namespace BindingAudit.Text

namespace LowerCase

/-- Whether the nearest character that counts has case. -/
def nextHasCase (cs : List Char) : Bool :=
  match cs.dropWhile (inRanges ignorableRanges ·.toNat) with
  | c :: _ => inRanges casedRanges c.toNat
  | [] => false

end LowerCase

/-- The lower case of a character other than a capital sigma. -/
def lowerChar (c : Char) : List Char :=
  let n := c.toNat
  if n < 0x80 then [c.toLower]
  else if n == 0x130 then ['i', '\u0307']
  else
    match LowerCase.runs.find? (fun r => r.covers n) with
    | some r => [Char.ofNat ((n : Int) + r.offset).toNat]
    | none => [c]

/-- The lower case of a text whose characters in front are given in reverse. -/
def lowerFrom (before : List Char) : List Char → List Char
  | [] => []
  | c :: rest =>
    let lowered :=
      if c == '\u03A3' then
        if LowerCase.nextHasCase before && !LowerCase.nextHasCase rest then ['\u03C2']
        else ['\u03C3']
      else lowerChar c
    lowered ++ lowerFrom (c :: before) rest

/-- The lower case of a text. -/
def lowerCase (cs : List Char) : List Char :=
  lowerFrom [] cs

end BindingAudit.Text
