import BindingAudit.Text.Search

/-!
# Base 64

Bytes written with 64 characters, six bits each.  Characters outside the alphabet do not count.
An equals sign ends the text once the last group of four is full with it; without one the last
group has to be full.
-/

namespace BindingAudit.Text.Base64

/-- The six bits of a character of the alphabet. -/
def sextet? (c : Char) : Option Nat :=
  if c.isUpper then some (c.toNat - 'A'.toNat)
  else if c.isLower then some (c.toNat - 'a'.toNat + 26)
  else if c.isDigit then some (c.toNat - '0'.toNat + 52)
  else if c == '+' then some 62
  else if c == '/' then some 63
  else none

/-- The groups of six bits of a text.  `count` groups and then `pads` equals signs came before;
`none` if the last group of four is not full. -/
def sextets? (count pads : Nat) : List Char → Option (List Nat)
  | [] => if count % 4 == 0 then some [] else none
  | c :: rest =>
    if c == '=' then
      if count % 4 < 2 then sextets? count pads rest
      else if count % 4 + pads + 1 < 4 then sextets? count (pads + 1) rest
      else some []
    else
      match sextet? c with
      | none => sextets? count pads rest
      | some bits => (sextets? (count + 1) 0 rest).map (bits :: ·)

/-- Groups of six bits as bytes; bits that make no full byte are dropped. -/
def bytesOf : List Nat → List UInt8
  | a :: b :: c :: d :: rest =>
    (a * 4 + b / 16).toUInt8 :: (b * 16 + c / 4).toUInt8 :: (c * 64 + d).toUInt8 :: bytesOf rest
  | [a, b, c] => [(a * 4 + b / 16).toUInt8, (b * 16 + c / 4).toUInt8]
  | [a, b] => [(a * 4 + b / 16).toUInt8]
  | _ => []

/-- The bytes a text stands for. -/
def decode? (cs : List Char) : Option (List UInt8) :=
  (sextets? 0 0 cs).map bytesOf

end BindingAudit.Text.Base64
