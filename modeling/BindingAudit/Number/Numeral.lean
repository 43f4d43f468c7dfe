import BindingAudit.Number.Binary64
import BindingAudit.Number.DigitLimit
import BindingAudit.Text.Blank
import BindingAudit.Text.Digit
import BindingAudit.Text.Search

/-!
# Numerals

Texts as numbers.  Blanks may stand around a numeral and a sign in front of it, and its digits may
be those of any script.  An integer in base two, eight or sixteen may have the mark of its base in
front of its digits; one in base ten has a limit on their number.
-/

namespace BindingAudit.Numeral

/-- A character as numerals are read: a digit of any script is that of ASCII, a blank beyond ASCII
is a space. -/
def plainChar (c : Char) : Char :=
  if c.toNat < 0x7F then c
  else if Text.isBlank c then ' '
  else
    match Text.digitValue? c with
    | some n => Char.ofNat ('0'.toNat + n)
    | none => c

/-- Whether a character may stand around a numeral. -/
def isSpace (c : Char) : Bool :=
  c == ' ' || (0x09 ≤ c.toNat && c.toNat ≤ 0x0D)

/-- A text as numerals are read, without the blanks around it. -/
def plain (cs : List Char) : List Char :=
  (((cs.map plainChar).dropWhile isSpace).reverse.dropWhile isSpace).reverse

/-- A text without the sign it may start with. -/
def dropSign : List Char → List Char
  | '+' :: rest => rest
  | '-' :: rest => rest
  | cs => cs

/-- The letter that marks a base. -/
def baseMark? (base : Nat) : Option Char :=
  if base = 2 then some 'b'
  else if base = 8 then some 'o'
  else if base = 16 then some 'x'
  else none

/-- Digits without the mark of their base. -/
def dropMark (base : Nat) (cs : List Char) : List Char :=
  match cs with
  | '0' :: c :: rest => if baseMark? base = some c.toLower then rest else cs
  | _ => cs

/-- Why a text is no integer. -/
inductive Problem where
  | invalid
  | digits (error : DigitError)
deriving DecidableEq, Repr

/-- The integer a text denotes in a base. -/
def integer (base : Nat) (cs : List Char) : Except Problem Int :=
  let body := plain cs
  let digits := dropMark base (dropSign body)
  let run := digits.takeWhile fun c => (Text.hexValue? c).any fun n => decide (n < base)
  if base = 10 ∧ digitLimit < run.length then .error (.digits (.reading run.length))
  else if run.isEmpty ∨ run.length < digits.length then .error .invalid
  else
    let n : Int := Text.readDigits base run
    .ok (if body.head? == some '-' then -n else n)

/-- The digits, scale and rest of a decimal number with an optional fraction at the head of a
text. -/
def decimal? (cs : List Char) : Option (Nat × Int × List Char) :=
  let whole := cs.takeWhile Char.isDigit
  let rest := cs.drop whole.length
  let (fraction, rest) :=
    match rest with
    | '.' :: more => (more.takeWhile Char.isDigit, more.dropWhile Char.isDigit)
    | _ => ([], rest)
  if whole.isEmpty && fraction.isEmpty then none
  else some (Text.readDigits 10 (whole ++ fraction), -(fraction.length : Int), rest)

/-- The exponent a text is. -/
def exponent? : List Char → Option Int
  | [] => some 0
  | e :: more =>
    let digits := dropSign more
    if (e == 'e' || e == 'E') && !digits.isEmpty && digits.all Char.isDigit then
      let magnitude : Int := Text.readDigits 10 digits
      some (if more.head? == some '-' then -magnitude else magnitude)
    else none

/-- The real number a text denotes: decimal, with an optional fraction and exponent, or a word for
infinity or not-a-number. -/
def real? (cs : List Char) : Option Binary64 :=
  let body := plain cs
  let negative := body.head? == some '-'
  let body := dropSign body
  let word := String.ofList (body.map Char.toLower)
  if word == "inf" || word == "infinity" then some (.infinite negative)
  else if word == "nan" then some (.nan 1)
  else do
    let (digits, scale, rest) ← decimal? body
    let exponent ← exponent? rest
    return Binary64.ofDecimal negative digits (scale + exponent)

end BindingAudit.Numeral
