import BindingAudit.Data.Basic
import BindingAudit.Text.Search

/-!
# Reading JSON

A strict reader of JSON text that also takes the words `NaN`, `Infinity` and `-Infinity` as
numbers.  A number with a point or an exponent is a real, any other an integer of any size; of
two equal keys the last value stays, at the place of the first.

The first fault ends the reading; it carries its offset, from which line and column are counted
(a line ends at a line feed only).  An integer with too many digits, and brackets nested too deep,
end it as well.
-/

namespace BindingAudit.Json

/-- What can be wrong with a JSON text. -/
inductive Problem where
  | byteOrderMark
  | value
  | propertyName
  | colon
  | comma
  | extraData
  | unterminatedString
  | controlCharacter
  | escape
  | unicodeEscape
deriving DecidableEq, Repr

/-- The wording of a problem. -/
def Problem.message : Problem → String
  | .byteOrderMark => "Unexpected UTF-8 BOM (decode using utf-8-sig)"
  | .value => "Expecting value"
  | .propertyName => "Expecting property name enclosed in double quotes"
  | .colon => "Expecting ':' delimiter"
  | .comma => "Expecting ',' delimiter"
  | .extraData => "Extra data"
  | .unterminatedString => "Unterminated string starting at"
  | .controlCharacter => "Invalid control character at"
  | .escape => "Invalid \\escape"
  | .unicodeEscape => "Invalid \\uXXXX escape"

/-- A problem and the offset at which it shows. -/
structure Fault where
  problem : Problem
  offset : Nat
deriving DecidableEq, Repr

/-- The wording of a fault, with its place in the text it was found in. -/
def Fault.message (f : Fault) (text : List Char) : String :=
  let before := text.take f.offset
  let line := before.count '\n' + 1
  let column := (before.reverse.takeWhile (· != '\n')).length + 1
  f.problem.message ++ ": line " ++ toString line ++ " column " ++ toString column
    ++ " (char " ++ toString f.offset ++ ")"

/-- The number of brackets and braces that may be open at once. -/
def maxDepth : Nat := 985

/-- Why a JSON text is not read: it has a fault, or goes beyond what is read. -/
inductive ReadError where
  | fault (f : Fault)
  | digits (error : DigitError)
  /-- The collection of the named kind is nested too deep. -/
  | tooDeep (kind : String)
deriving DecidableEq, Repr

/-- The wording of a read error, for the text it was found in. -/
def ReadError.message (e : ReadError) (text : List Char) : String :=
  match e with
  | .fault f => f.message text
  | .digits error => error.message
  | .tooDeep kind =>
    "maximum recursion depth exceeded while decoding a JSON " ++ kind ++ " from a unicode string"

/-- The unread text and its offset. -/
structure Cursor where
  rest : List Char
  offset : Nat

/-- A cursor moved past the first `n` characters. -/
def Cursor.skip (c : Cursor) (n : Nat) : Cursor :=
  ⟨c.rest.drop n, c.offset + (c.rest.take n).length⟩

/-- The blanks allowed between tokens. -/
def isSpace (c : Char) : Bool :=
  c == ' ' || c == '\t' || c == '\n' || c == '\r'

/-- A cursor moved past blanks. -/
def Cursor.skipSpace (c : Cursor) : Cursor :=
  c.skip (c.rest.takeWhile isSpace).length

/-- The code unit written by four hexadecimal digits. -/
def codeUnit? (cs : List Char) : Option Nat :=
  let digits := cs.take 4
  if digits.length = 4 ∧ digits.all Text.isHexDigit then some (Text.readDigits 16 digits) else none

/-- The characters that may follow a backslash, with what they stand for. -/
def simpleEscape? : Char → Option Char
  | '"' => some '"'
  | '\\' => some '\\'
  | '/' => some '/'
  | 'b' => some '\x08'
  | 'f' => some '\x0c'
  | 'n' => some '\n'
  | 'r' => some '\r'
  | 't' => some '\t'
  | _ => none

/-- Whether a code unit is the first half of a surrogate pair. -/
def isHighSurrogate (n : Nat) : Bool :=
  0xD800 ≤ n && n ≤ 0xDBFF

/-- Whether a code unit is the second half of a surrogate pair. -/
def isLowSurrogate (n : Nat) : Bool :=
  0xDC00 ≤ n && n ≤ 0xDFFF

/-- The character of a surrogate pair. -/
def joinSurrogates (high low : Nat) : Char :=
  Char.ofNat (0x10000 + (high - 0xD800) * 0x400 + (low - 0xDC00))

/-- Read the rest of a string whose opening quote stands at `start`.  `fuel` bounds the number
of characters read. -/
def readString (start : Nat) : Nat → Cursor → List Char → Except Fault (String × Cursor)
  | 0, _, _ => .error ⟨.unterminatedString, start⟩
  | fuel + 1, c, done =>
    match c.rest with
    | [] => .error ⟨.unterminatedString, start⟩
    | '"' :: _ => .ok (String.ofList done.reverse, c.skip 1)
    | '\\' :: [] => .error ⟨.unterminatedString, start⟩
    | '\\' :: 'u' :: more =>
      if (more.take 5).length < 5 then .error ⟨.unicodeEscape, c.offset + 1⟩
      else
        match codeUnit? more with
        | none => .error ⟨.unicodeEscape, c.offset + 1⟩
        | some unit =>
          let second := more.drop 4
          if isHighSurrogate unit ∧ (second.take 7).length = 7 ∧ second.take 2 = ['\\', 'u'] then
            match codeUnit? (second.drop 2) with
            | none => .error ⟨.unicodeEscape, c.offset + 7⟩
            | some low =>
              if isLowSurrogate low then
                readString start fuel (c.skip 12) (joinSurrogates unit low :: done)
              else readString start fuel (c.skip 6) (Char.ofNat 0xFFFD :: done)
          else if isHighSurrogate unit ∨ isLowSurrogate unit then
            readString start fuel (c.skip 6) (Char.ofNat 0xFFFD :: done)
          else readString start fuel (c.skip 6) (Char.ofNat unit :: done)
    | '\\' :: e :: _ =>
      match simpleEscape? e with
      | none => .error ⟨.escape, c.offset⟩
      | some ch => readString start fuel (c.skip 2) (ch :: done)
    | ch :: _ =>
      if ch.toNat < 0x20 then .error ⟨.controlCharacter, c.offset⟩
      else readString start fuel (c.skip 1) (ch :: done)

/-- The parts of a number: its sign, whole digits, fraction digits and exponent, and how many
characters it takes. -/
structure Numeral where
  negative : Bool
  whole : List Char
  fraction : List Char
  exponent : Option (Bool × List Char)
  length : Nat

/-- Read the longest number a text starts with. -/
def numeral? (cs : List Char) : Option Numeral :=
  let negative := cs.head? == some '-'
  let body := if negative then cs.drop 1 else cs
  let whole :=
    match body with
    | '0' :: _ => ['0']
    | _ => body.takeWhile Char.isDigit
  if whole.isEmpty then none
  else
    let afterWhole := body.drop whole.length
    let fraction :=
      match afterWhole with
      | '.' :: more => more.takeWhile Char.isDigit
      | _ => []
    let fractionLength := if fraction.isEmpty then 0 else fraction.length + 1
    let afterFraction := afterWhole.drop fractionLength
    let (exponent, exponentLength) :=
      match afterFraction with
      | e :: more =>
        if e == 'e' || e == 'E' then
          let hasSign := more.head? == some '-' || more.head? == some '+'
          let digits := (if hasSign then more.drop 1 else more).takeWhile Char.isDigit
          if digits.isEmpty then (none, 0)
          else (some (more.head? == some '-', digits), digits.length + (if hasSign then 2 else 1))
        else (none, 0)
      | [] => (none, 0)
    some ⟨negative, whole, fraction, exponent,
      (if negative then 1 else 0) + whole.length + fractionLength + exponentLength⟩

/-- The scalar a number denotes. -/
def Numeral.scalar (n : Numeral) : Except DigitError Scalar :=
  if n.fraction.isEmpty ∧ n.exponent.isNone then
    if digitLimit < n.whole.length then .error (.reading n.whole.length)
    else
      let magnitude : Int := Text.readDigits 10 n.whole
      .ok (.int (if n.negative then -magnitude else magnitude))
  else
    let exponent : Int :=
      match n.exponent with
      | none => 0
      | some (negative, digits) =>
        if negative then -(Text.readDigits 10 digits : Int) else Text.readDigits 10 digits
    .ok (.real (Binary64.ofDecimal n.negative (Text.readDigits 10 (n.whole ++ n.fraction))
      (exponent - n.fraction.length)))

/-- The words that stand for scalars. -/
def words : List (String × Scalar) := [
  ("null", .null), ("true", .bool true), ("false", .bool false), ("NaN", .real (.nan 0)),
  ("Infinity", .real (.infinite false)), ("-Infinity", .real (.infinite true))]

/-- Read a word or a number. -/
def readPlain (c : Cursor) : Except ReadError (Data × Cursor) :=
  match words.find? fun w => w.1.toList.isPrefixOf c.rest with
  | some (word, scalar) => .ok (.scalar scalar, c.skip word.length)
  | none =>
    match numeral? c.rest with
    | none => .error (.fault ⟨.value, c.offset⟩)
    | some n =>
      match n.scalar with
      | .error e => .error (.digits e)
      | .ok s => .ok (.scalar s, c.skip n.length)

/-- Read a string at its opening quote. -/
def readText (fuel : Nat) (c : Cursor) : Except ReadError (String × Cursor) :=
  match readString c.offset fuel (c.skip 1) [] with
  | .error f => .error (.fault f)
  | .ok found => .ok found

mutual

/-- Read a value where `depth` more collections may be opened.  `fuel` bounds the number of steps;
twice the number of unread characters is always enough, because no two steps in a row leave the
cursor where it is. -/
def readValue (depth : Nat) : Nat → Cursor → Except ReadError (Data × Cursor)
  | 0, c => .error (.fault ⟨.value, c.offset⟩)
  | fuel + 1, c =>
    match c.rest with
    | '"' :: _ => do
      let (s, c') ← readText (fuel + 2) c
      return (.text s, c')
    | '[' :: _ =>
      if depth = 0 then .error (.tooDeep "array")
      else
        let c' := (c.skip 1).skipSpace
        if c'.rest.head? == some ']' then .ok (.list [], c'.skip 1)
        else readItems (depth - 1) fuel c' []
    | '\x7b' :: _ =>
      if depth = 0 then .error (.tooDeep "object")
      else
        let c' := (c.skip 1).skipSpace
        if c'.rest.head? == some '\x7d' then .ok (.map [], c'.skip 1)
        else readMembers (depth - 1) fuel c' []
    | _ => readPlain c

/-- Read the items of an array up to its closing bracket. -/
def readItems (depth : Nat) : Nat → Cursor → List Data → Except ReadError (Data × Cursor)
  | 0, c, _ => .error (.fault ⟨.value, c.offset⟩)
  | fuel + 1, c, done => do
    let (d, c) ← readValue depth fuel c
    let c := c.skipSpace
    match c.rest with
    | ']' :: _ => return (.list (d :: done).reverse, c.skip 1)
    | ',' :: _ => readItems depth fuel (c.skip 1).skipSpace (d :: done)
    | _ => .error (.fault ⟨.comma, c.offset⟩)

/-- Read the members of an object up to its closing brace. -/
def readMembers (depth : Nat) :
    Nat → Cursor → List (Scalar × Data) → Except ReadError (Data × Cursor)
  | 0, c, _ => .error (.fault ⟨.value, c.offset⟩)
  | fuel + 1, c, done =>
    match c.rest with
    | '"' :: _ => do
      let (key, c) ← readText (fuel + 2) c
      let c := c.skipSpace
      match c.rest with
      | ':' :: _ =>
        let (d, c) ← readValue depth fuel (c.skip 1).skipSpace
        let c := c.skipSpace
        let done := setEntry done (.text key) d
        match c.rest with
        | '\x7d' :: _ => return (.map done, c.skip 1)
        | ',' :: _ => readMembers depth fuel (c.skip 1).skipSpace done
        | _ => .error (.fault ⟨.comma, c.offset⟩)
      | _ => .error (.fault ⟨.colon, c.offset⟩)
    | _ => .error (.fault ⟨.propertyName, c.offset⟩)

end

/-- Read a whole JSON text. -/
def read (text : List Char) : Except ReadError Data :=
  if text.head? == some '\uFEFF' then .error (.fault ⟨.byteOrderMark, 0⟩)
  else do
    let (d, c) ← readValue maxDepth (2 * text.length + 2) (Cursor.mk text 0).skipSpace
    let c := c.skipSpace
    if c.rest.isEmpty then return d
    else .error (.fault ⟨.extraData, c.offset⟩)

end BindingAudit.Json
