import BindingAudit.Data.Scalar
import BindingAudit.Number.Numeral
import BindingAudit.Text.Base64
import BindingAudit.Text.LowerCase
import BindingAudit.Yaml.Fault

/-!
# Tags and the values of scalars

A tag says what kind of value a node denotes.  A plain scalar without one gets its tag from its
spelling (`Tag.ofPlain`): `yes` is a boolean, `0x1F` and `1:30` are integers, `1.5` is a real
number, `2020-01-01` a date, and what fits no pattern is text.  `Tag.scalar` then gives the
value.
-/

namespace BindingAudit.Yaml

/-- The kind of value a node denotes. -/
inductive Tag where
  | null
  | bool
  | int
  | real
  | text
  | timestamp
  | binary
  /-- The key `<<`, which merges another mapping in. -/
  | merge
  /-- The key `=`. -/
  | value
  | sequence
  | mapping
  | set
  /-- A sequence of mappings with one entry each. -/
  | pairs
  | unknown
deriving DecidableEq, Repr, Inhabited

/-- The tag a full name denotes. -/
def Tag.ofName (name : String) : Tag :=
  let known : List (String × Tag) := [
    ("null", .null), ("bool", .bool), ("int", .int), ("float", .real), ("str", .text),
    ("timestamp", .timestamp), ("binary", .binary), ("merge", .merge), ("value", .value),
    ("seq", .sequence), ("map", .mapping), ("set", .set), ("omap", .pairs), ("pairs", .pairs)]
  match known.find? (fun k => "tag:yaml.org,2002:" ++ k.1 == name) with
  | some (_, tag) => tag
  | none => .unknown

/-! ## The spelling of numbers -/

/-- A decimal digit or an underscore. -/
def isDigitMark (c : Char) : Bool :=
  c.isDigit || c == '_'

open Numeral (dropSign)

/-- Whether a text starts with a digit and goes on with digits and underscores. -/
def isDigitRun : List Char → Bool
  | c :: rest => c.isDigit && rest.all isDigitMark
  | [] => false

/-- Whether a text is one digit, or two of which the first is below six. -/
def isSixtieth : List Char → Bool
  | [a] => a.isDigit
  | [a, b] => '0' ≤ a && a ≤ '5' && b.isDigit
  | _ => false

/-- Whether a text is empty or an exponent with an explicit sign. -/
def isExponentPart : List Char → Bool
  | [] => true
  | e :: s :: digits =>
    (e == 'e' || e == 'E') && (s == '+' || s == '-') && !digits.isEmpty && digits.all Char.isDigit
  | _ => false

/-- Whether a text spells an integer: binary, octal, decimal, hexadecimal, or base sixty with
colons. -/
def spellsInt (cs : List Char) : Bool :=
  match dropSign cs with
  | '0' :: 'b' :: digits =>
    !digits.isEmpty && digits.all (fun c => c == '0' || c == '1' || c == '_')
  | '0' :: 'x' :: digits => !digits.isEmpty && digits.all (fun c => Text.isHexDigit c || c == '_')
  | ['0'] => true
  | '0' :: digits => digits.all (fun c => ('0' ≤ c && c ≤ '7') || c == '_')
  | body =>
    match Text.splitAt ':' body with
    | first :: rest => isDigitRun first && rest.all isSixtieth
    | [] => false

/-- Whether a text spells a number with a point. -/
def spellsReal (cs : List Char) : Bool :=
  let body := dropSign cs
  let signed := body.length != cs.length
  let word := String.ofList body
  if word == ".inf" || word == ".Inf" || word == ".INF" then true
  else if word == ".nan" || word == ".NaN" || word == ".NAN" then !signed
  else
    let whole := body.takeWhile (· != '.')
    match body.drop whole.length with
    | '.' :: fraction =>
      let digits := fraction.takeWhile isDigitMark
      let exponent := fraction.drop digits.length
      if whole.isEmpty then !signed && isDigitRun digits && isExponentPart exponent
      else if whole.contains ':' then
        exponent.isEmpty &&
          match Text.splitAt ':' whole with
          | first :: rest => isDigitRun first && rest.all isSixtieth
          | [] => false
      else isDigitRun whole && isExponentPart exponent
    | _ => false

/-! ## Dates and times -/

/-- Between `least` and `most` digits at the head of a text, as many as there are. -/
def digitsAt (least most : Nat) (cs : List Char) : Option (Nat × List Char) :=
  let digits := (cs.take most).takeWhile Char.isDigit
  if digits.length < least then none else some (Text.readDigits 10 digits, cs.drop digits.length)

/-- The rest of a text after a given character. -/
def after? (c : Char) : List Char → Option (List Char)
  | d :: rest => if c = d then some rest else none
  | [] => none

/-- Read the time zone a timestamp ends with: nothing, `Z`, or a signed offset. -/
def zone? (cs : List Char) : Option (Option Int) :=
  match cs.dropWhile (fun c => c == ' ' || c == '\t') with
  | ['Z'] => some (some 0)
  | s :: rest =>
    if s == '+' || s == '-' then do
      let (hours, rest) ← digitsAt 1 2 rest
      let minutes ←
        match rest with
        | [] => some 0
        | _ => do
          let rest ← after? ':' rest
          let (minutes, rest) ← digitsAt 2 2 rest
          if rest.isEmpty then some minutes else none
      let total : Int := hours * 60 + minutes
      return some (if s == '-' then -total else total)
    else none
  | [] => if cs.isEmpty then some none else none

/-- Read a timestamp; month and day may be written with one digit. -/
def timestamp? (cs : List Char) : Option Moment := do
  let (year, rest) ← digitsAt 4 4 cs
  let rest ← after? '-' rest
  let (month, rest) ← digitsAt 1 2 rest
  let rest ← after? '-' rest
  let (day, rest) ← digitsAt 1 2 rest
  if rest.isEmpty then return .date ⟨year, month, day⟩
  else
    let rest ←
      match rest with
      | 'T' :: rest => some rest
      | 't' :: rest => some rest
      | _ =>
        let trimmed := rest.dropWhile (fun c => c == ' ' || c == '\t')
        if trimmed.length == rest.length then none else some trimmed
    let (hour, rest) ← digitsAt 1 2 rest
    let rest ← after? ':' rest
    let (minute, rest) ← digitsAt 2 2 rest
    let rest ← after? ':' rest
    let (second, rest) ← digitsAt 2 2 rest
    let (fraction, rest) :=
      match rest with
      | '.' :: more => (more.takeWhile Char.isDigit, more.dropWhile Char.isDigit)
      | _ => ([], rest)
    let zone ← zone? rest
    return .dateTime ⟨year, month, day⟩ ⟨hour, minute, second, microseconds fraction⟩ zone

/-- Whether a plain scalar spells a timestamp: without a time of day, month and day have two
digits. -/
def spellsTimestamp (cs : List Char) : Bool :=
  match timestamp? cs with
  | some (.date _) => cs.length == 10
  | some _ => true
  | none => false

/-! ## From spelling to value -/

/-- The spelling of a scalar without the line feed it may end with. -/
def spelling (cs : List Char) : List Char :=
  if 1 < cs.length && cs.getLast? == some '\n' then cs.dropLast else cs

/-- The tag of a plain scalar without one of its own.  A line feed at its end does not count. -/
def Tag.ofPlain (s : String) : Tag :=
  let cs := spelling s.toList
  let word := String.ofList cs
  if ["yes", "Yes", "YES", "no", "No", "NO", "true", "True", "TRUE", "false", "False", "FALSE",
      "on", "On", "ON", "off", "Off", "OFF"].contains word then .bool
  else if spellsReal cs then .real
  else if spellsInt cs then .int
  else if word == "<<" then .merge
  else if ["", "~", "null", "Null", "NULL"].contains word then .null
  else if spellsTimestamp cs then .timestamp
  else if word == "=" then .value
  else if ["!", "&", "*"].contains word then .unknown
  else .text

/-- Read an integer in a base. -/
def integerOf (base : Nat) (cs : List Char) : Except Fault Int :=
  match Numeral.integer base cs with
  | .ok i => .ok i
  | .error .invalid => .error (.value (.integer base (String.ofList cs)))
  | .error (.digits e) => .error (.value (.digits e))

/-- The number whose digits in base sixty are given. -/
def sixties (parts : List Int) : Int :=
  parts.foldl (fun n part => n * 60 + part) 0

/-- The value of an integer's spelling. -/
def intValue (s : String) : Except Fault Int :=
  let cs := s.toList.filter (· != '_')
  let negative := cs.head? == some '-'
  let body := dropSign cs
  let sign : Int := if negative then -1 else 1
  match body with
  | [] => .error (.value .emptyNumber)
  | ['0'] => .ok 0
  | '0' :: 'b' :: digits => (sign * ·) <$> integerOf 2 digits
  | '0' :: 'x' :: digits => (sign * ·) <$> integerOf 16 digits
  | '0' :: _ => (sign * ·) <$> integerOf 8 body
  | _ =>
    if body.contains ':' then
      (sign * sixties ·) <$> (Text.splitAt ':' body).mapM (integerOf 10)
    else (sign * ·) <$> integerOf 10 body

/-- Read a real number. -/
def realOf (cs : List Char) : Except Fault Binary64 :=
  match Numeral.real? cs with
  | some x => .ok x
  | none => .error (.value (.real (String.ofList cs)))

/-- Add up the parts of a number in base sixty, from the last part to the first, rounding at
each step.  A place value has to be a real number itself. -/
def realSixties (parts : List Binary64) : Except Fault Binary64 := do
  let (total, _) ← parts.reverse.foldlM
    (fun (acc : Binary64 × Nat) part =>
      match Binary64.ofRatio false acc.2 1 with
      | .infinite _ => Except.error (Fault.value .placeValue)
      | place => .ok (acc.1.add (part.mul place), acc.2 * 60))
    (Binary64.zero false, 1)
  return total

/-- The value of a real number's spelling. -/
def realValue (s : String) : Except Fault Binary64 := do
  let cs := Text.lowerCase (s.toList.filter (· != '_'))
  let negative := cs.head? == some '-'
  let body := dropSign cs
  let signed := fun (x : Binary64) => if negative then x.neg else x
  if cs.isEmpty then .error (.value .emptyNumber)
  else if body == ".inf".toList then return .infinite negative
  else if body == ".nan".toList then return .nan 0
  else if body.contains ':' then
    let parts ← (Text.splitAt ':' body).mapM realOf
    return signed (← realSixties parts)
  else return signed (← realOf body)

/-- The value of a boolean's spelling. -/
def boolValue (s : String) : Except Fault Bool :=
  let word := String.ofList (Text.lowerCase s.toList)
  if ["yes", "true", "on"].contains word then .ok true
  else if ["no", "false", "off"].contains word then .ok false
  else .error (.value (.boolean word))

/-- The value of a timestamp's spelling. -/
def timestampValue (s : String) : Except Fault Moment :=
  match timestamp? (spelling s.toList) with
  | none => .error (.value .timestamp)
  | some m =>
    match m.fault? with
    | some fault => .error (.value (.moment fault))
    | none => .ok m

/-- The bytes a text stands for in base 64. -/
def binaryValue (s : String) : Except Fault (List UInt8) :=
  if s.toList.all fun c => c.toNat < 0x80 then
    match Text.Base64.decode? s.toList with
    | some bytes => .ok bytes
    | none => .error .malformed
  else .error .malformed

/-- The value of a scalar with a tag. -/
def Tag.scalar (tag : Tag) (s : String) : Except Fault Scalar :=
  match tag with
  | .null => .ok .null
  | .bool => .bool <$> boolValue s
  | .int => .int <$> intValue s
  | .real => .real <$> realValue s
  | .text => .ok (.text s)
  | .timestamp => .moment <$> timestampValue s
  | .binary => .bytes <$> binaryValue s
  | _ => .error .malformed

/-- Whether a tag is one of collections. -/
def Tag.isCollection : Tag → Bool
  | .sequence | .mapping | .set | .pairs => true
  | _ => false

end BindingAudit.Yaml
