import BindingAudit.Data.Basic
import BindingAudit.Data.Moment

/-!
# Lexemes of TOML

Blanks, comments, keys, strings, numbers and dates.  Each reader takes the text at a lexeme and
gives what it denotes with the rest of the text, or nothing if the text is malformed there.  Line
ends have been normalised to line feeds before.
-/

namespace BindingAudit.Toml

/-- Why a TOML text is not read: it is malformed, or goes beyond what is read. -/
inductive Fault where
  | malformed
  | digits (error : DigitError)
  | tooDeep
deriving DecidableEq, Repr

/-- The wording of a fault. -/
def Fault.message : Fault → String
  | .malformed => "not valid TOML"
  | .digits error => error.message
  | .tooDeep => "maximum recursion depth exceeded"

/-- What was read, where nothing means a malformed text. -/
def required {α : Type} : Option α → Except Fault α
  | some found => .ok found
  | none => .error .malformed

/-- A space or a tab. -/
def isSpace (c : Char) : Bool :=
  c == ' ' || c == '\t'

/-- A space, a tab or a line feed. -/
def isSpaceOrBreak (c : Char) : Bool :=
  isSpace c || c == '\n'

/-- The control characters that may not stand in a comment or a string. -/
def isIllegal (c : Char) : Bool :=
  (c.toNat < 0x20 && c != '\t') || c.toNat == 0x7F

/-- The characters of a bare key. -/
def isBareKeyChar (c : Char) : Bool :=
  c.isAlphanum || c == '-' || c == '_'

/-- Skip spaces and tabs. -/
def skipSpaces (cs : List Char) : List Char :=
  cs.dropWhile isSpace

/-- Skip the comment that starts here, if one does. -/
def skipComment? : List Char → Option (List Char)
  | '#' :: rest =>
    let comment := rest.takeWhile (· != '\n')
    if comment.any isIllegal then none else some (rest.drop comment.length)
  | cs => some cs

/-- Skip blanks, line ends and comments.  `fuel` bounds the number of comments. -/
def skipBlankLines : Nat → List Char → Option (List Char)
  | 0, cs => some cs
  | fuel + 1, cs =>
    let rest := cs.dropWhile isSpaceOrBreak
    match rest with
    | '#' :: _ => do
      let rest ← skipComment? rest
      skipBlankLines fuel rest
    | _ => some rest

/-! ## Strings -/

/-- Whether a code point is a character. -/
def isCharacter (n : Nat) : Bool :=
  n < 0xD800 || (0xDFFF < n && n < 0x110000)

/-- The character written by a number of hexadecimal digits. -/
def hexChar? (count : Nat) (cs : List Char) : Option (List Char × List Char) :=
  let digits := cs.take count
  let code := Text.readDigits 16 digits
  if digits.length == count && digits.all Text.isHexDigit && isCharacter code then
    some ([Char.ofNat code], cs.drop count)
  else none

/-- Read an escape after its backslash.  In a string of several lines a backslash at the end of
a line skips the blanks that follow. -/
def escape? (multiline : Bool) : List Char → Option (List Char × List Char)
  | [] => none
  | c :: rest =>
    if multiline && isSpaceOrBreak c then
      if c == '\n' then some ([], rest.dropWhile isSpaceOrBreak)
      else
        match skipSpaces rest with
        | [] => some ([], [])
        | '\n' :: rest => some ([], rest.dropWhile isSpaceOrBreak)
        | _ => none
    else
      match c with
      | 'u' => hexChar? 4 rest
      | 'U' => hexChar? 8 rest
      | 'b' => some (['\x08'], rest)
      | 't' => some (['\t'], rest)
      | 'n' => some (['\n'], rest)
      | 'f' => some (['\x0c'], rest)
      | 'r' => some (['\r'], rest)
      | '"' => some (['"'], rest)
      | '\\' => some (['\\'], rest)
      | _ => none

/-- Read a string in double quotes after the opening ones, past the closing ones. -/
def basicString? (multiline : Bool) : Nat → List Char → Option (List Char × List Char)
  | 0, _ => none
  | fuel + 1, cs =>
    match cs with
    | [] => none
    | c :: rest =>
      if c == '"' && !multiline then some ([], rest)
      else if cs.take 3 == ['"', '"', '"'] then some ([], cs.drop 3)
      else if c == '\\' then do
        let (part, rest) ← escape? multiline rest
        let (text, rest) ← basicString? multiline fuel rest
        return (part ++ text, rest)
      else if isIllegal c && !(multiline && c == '\n') then none
      else do
        let (text, rest) ← basicString? multiline fuel rest
        return (c :: text, rest)

/-- Read a string in single quotes on one line after the opening quote. -/
def literalString? (cs : List Char) : Option (List Char × List Char) :=
  let text := cs.takeWhile (· != '\'')
  match cs.drop text.length with
  | [] => none
  | _ :: rest => if text.any isIllegal then none else some (text, rest)

/-- Read a string in three single quotes after the opening ones. -/
def literalBlock? : List Char → Option (List Char × List Char)
  | [] => none
  | c :: rest =>
    if (c :: rest).take 3 == ['\'', '\'', '\''] then some ([], rest.drop 2)
    else if isIllegal c && c != '\n' then none
    else do
      let (text, rest) ← literalBlock? rest
      return (c :: text, rest)

/-- Up to two quotes right after the closing three belong to the string. -/
def extraQuotes (quote : Char) (text rest : List Char) : List Char × List Char :=
  let extra := (rest.take 2).takeWhile (· == quote)
  (text ++ extra, rest.drop extra.length)

/-- A text without the line feed it may start with. -/
def dropFirstBreak : List Char → List Char
  | '\n' :: rest => rest
  | cs => cs

/-- Read a string of any of the four kinds. -/
def string? (fuel : Nat) (cs : List Char) : Option (List Char × List Char) :=
  match cs with
  | '"' :: '"' :: '"' :: rest => do
    let (text, rest) ← basicString? true fuel (dropFirstBreak rest)
    return extraQuotes '"' text rest
  | '\'' :: '\'' :: '\'' :: rest => do
    let (text, rest) ← literalBlock? (dropFirstBreak rest)
    return extraQuotes '\'' text rest
  | '"' :: rest => basicString? false fuel rest
  | '\'' :: rest => literalString? rest
  | _ => none

/-! ## Keys -/

/-- A key: the names of the tables on the way, and the last name. -/
abbrev Key := List String

/-- Read one name of a key: bare, or a string on one line. -/
def keyPart? (fuel : Nat) (cs : List Char) : Option (String × List Char) := do
  match cs with
  | '"' :: rest =>
    let (text, rest) ← basicString? false fuel rest
    return (String.ofList text, rest)
  | '\'' :: rest =>
    let (text, rest) ← literalString? rest
    return (String.ofList text, rest)
  | _ =>
    let name := cs.takeWhile isBareKeyChar
    if name.isEmpty then none else return (String.ofList name, cs.drop name.length)

/-- Read a key, with the blanks after it. -/
def key? : Nat → List Char → Option (Key × List Char)
  | 0, _ => none
  | fuel + 1, cs => do
    let (part, rest) ← keyPart? (fuel + 1) cs
    match skipSpaces rest with
    | '.' :: rest =>
      let (parts, rest) ← key? fuel (skipSpaces rest)
      return (part :: parts, rest)
    | rest => return ([part], rest)

/-! ## Numbers -/

/-- Digits with single underscores between them: the digits and the rest. -/
def digitGroup (isDigit : Char → Bool) : List Char → List Char × List Char
  | [] => ([], [])
  | '_' :: c :: rest =>
    if isDigit c then
      let (digits, rest) := digitGroup isDigit rest
      (c :: digits, rest)
    else ([], '_' :: c :: rest)
  | c :: rest =>
    if isDigit c then
      let (digits, rest) := digitGroup isDigit rest
      (c :: digits, rest)
    else ([], c :: rest)

/-- Digits with single underscores between them, at least one and a digit first. -/
def digits? (isDigit : Char → Bool) (cs : List Char) : Option (List Char × List Char) :=
  match cs with
  | c :: _ => if isDigit c then some (digitGroup isDigit cs) else none
  | [] => none

/-- Read an integer in one of the bases that are marked by a letter. -/
def markedInteger? : List Char → Option (Nat × List Char)
  | '0' :: mark :: rest =>
    let base : Option (Nat × (Char → Bool)) :=
      match mark with
      | 'x' => some (16, Text.isHexDigit)
      | 'b' => some (2, fun c => c == '0' || c == '1')
      | 'o' => some (8, fun c => '0' ≤ c && c ≤ '7')
      | _ => none
    match base with
    | some (base, isDigit) => do
      let (digits, rest) ← digits? isDigit rest
      return (Text.readDigits base digits, rest)
    | none => none
  | _ => none

/-- Read the fraction of a number: its digits, none if there is no fraction. -/
def fraction (cs : List Char) : List Char × List Char :=
  match cs with
  | '.' :: rest => (digits? Char.isDigit rest).getD ([], cs)
  | _ => ([], cs)

/-- Read the exponent of a number. -/
def exponent (cs : List Char) : Option Int × List Char :=
  match cs with
  | e :: rest =>
    if e == 'e' || e == 'E' then
      let (negative, body) :=
        match rest with
        | '+' :: body => (false, body)
        | '-' :: body => (true, body)
        | _ => (false, rest)
      match digits? Char.isDigit body with
      | some (digits, rest) =>
        let n : Int := Text.readDigits 10 digits
        (some (if negative then -n else n), rest)
      | none => (none, cs)
    else (none, cs)
  | [] => (none, cs)

/-- The parts of a decimal number. -/
structure Decimal where
  negative : Bool
  whole : List Char
  places : List Char
  power : Option Int

/-- Read a decimal number. -/
def decimal? (cs : List Char) : Option (Decimal × List Char) := do
  let (negative, body) :=
    match cs with
    | '+' :: body => (false, body)
    | '-' :: body => (true, body)
    | _ => (false, cs)
  let (whole, rest) ←
    match body with
    | '0' :: rest => some (['0'], rest)
    | _ => digits? Char.isDigit body
  let (places, rest) := fraction rest
  let (power, rest) := exponent rest
  return (⟨negative, whole, places, power⟩, rest)

/-- The scalar of a decimal number: an integer unless it has a fraction or an exponent. -/
def Decimal.scalar (d : Decimal) : Except Fault Scalar :=
  if d.places.isEmpty && d.power.isNone then
    if digitLimit < d.whole.length then .error (.digits (.reading d.whole.length))
    else
      let n : Int := Text.readDigits 10 d.whole
      .ok (.int (if d.negative then -n else n))
  else
    .ok (.real (Binary64.ofDecimal d.negative (Text.readDigits 10 (d.whole ++ d.places))
      (d.power.getD 0 - d.places.length)))

/-- The words that stand for numbers. -/
def numberWords : List (String × Binary64) := [
  ("inf", .infinite false), ("nan", .nan 0), ("-inf", .infinite true), ("+inf", .infinite false),
  ("-nan", .nan 0), ("+nan", .nan 0)]

/-- Read a number. -/
def number (cs : List Char) : Except Fault (Scalar × List Char) :=
  match markedInteger? cs with
  | some (n, rest) => .ok (.int n, rest)
  | none =>
    match decimal? cs with
    | some (d, rest) => do return (← d.scalar, rest)
    | none =>
      required ((numberWords.find? fun w => w.1.toList.isPrefixOf cs).map fun w =>
        (.real w.2, cs.drop w.1.length))

/-! ## Dates and times -/

/-- Exactly `count` digits that make a number in a range. -/
def numberIn? (count low high : Nat) (cs : List Char) : Option (Nat × List Char) :=
  let digits := cs.take count
  let n := Text.readDigits 10 digits
  if digits.length == count && digits.all Char.isDigit && low ≤ n && n ≤ high then
    some (n, cs.drop count)
  else none

/-- The rest of a text after a given character. -/
def past? (c : Char) : List Char → Option (List Char)
  | d :: rest => if c = d then some rest else none
  | [] => none

/-- Read a time of day. -/
def clock? (cs : List Char) : Option (Clock × List Char) := do
  let (hour, rest) ← numberIn? 2 0 23 cs
  let rest ← past? ':' rest
  let (minute, rest) ← numberIn? 2 0 59 rest
  let rest ← past? ':' rest
  let (second, rest) ← numberIn? 2 0 59 rest
  match rest with
  | '.' :: more =>
    let digits := more.takeWhile Char.isDigit
    if digits.isEmpty then return (⟨hour, minute, second, 0⟩, rest)
    else return (⟨hour, minute, second, microseconds digits⟩, more.drop digits.length)
  | _ => return (⟨hour, minute, second, 0⟩, rest)

/-- Read a day. -/
def day? (cs : List Char) : Option (Day × List Char) := do
  let (year, rest) ← numberIn? 4 0 9999 cs
  let rest ← past? '-' rest
  let (month, rest) ← numberIn? 2 1 12 rest
  let rest ← past? '-' rest
  let (day, rest) ← numberIn? 2 1 31 rest
  return (⟨year, month, day⟩, rest)

/-- Read the offset of a point in time, if there is one. -/
def offset (cs : List Char) : Option Int × List Char :=
  let signed : Option (Int × List Char) := do
    let s ← cs.head?
    if s == '+' || s == '-' then
      let (hours, rest) ← numberIn? 2 0 23 cs.tail
      let rest ← past? ':' rest
      let (minutes, rest) ← numberIn? 2 0 59 rest
      let total : Int := hours * 60 + minutes
      return (if s == '-' then -total else total, rest)
    else none
  match cs, signed with
  | 'Z' :: rest, _ => (some 0, rest)
  | 'z' :: rest, _ => (some 0, rest)
  | _, some (minutes, rest) => (some minutes, rest)
  | _, none => (none, cs)

/-- Read a date, a point in time or a time of day, without asking whether it exists. -/
def moment? (cs : List Char) : Option (Moment × List Char) :=
  match day? cs with
  | some (d, rest) =>
    let timed : Option (Moment × List Char) := do
      let mark ← rest.head?
      if mark == 'T' || mark == 't' || mark == ' ' then
        let (c, rest) ← clock? rest.tail
        let (zone, rest) := offset rest
        return (.dateTime d c zone, rest)
      else none
    some (timed.getD (.date d, rest))
  | none => (clock? cs).map fun found => (.time found.1, found.2)

end BindingAudit.Toml
