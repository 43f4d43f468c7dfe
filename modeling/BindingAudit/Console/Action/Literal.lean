import BindingAudit.Console.Action.Expression
import BindingAudit.Console.Action.Fault
import BindingAudit.Text.CharacterName

/-!
# Quoted texts of action parameters

Checks on what stands between quotes: the escapes of texts and of bytes, and the expressions in
braces of formatted texts.

* `escapeFault?` is the first wrong escape of a text.
* `checkFormatted` checks a formatted text, given how its expressions are read.
* `readTexts` joins quoted texts that follow each other.
-/

namespace BindingAudit.Action

/-! ## Escapes -/

/-- How many places a character takes up where escapes are counted: one beyond ASCII counts as its
own escape. -/
def places (c : Char) : Nat :=
  if c.toNat < 0x80 then 1 else 10

/-- How many places characters take up. -/
def placesOf (cs : List Char) : Nat :=
  (cs.map places).foldr (· + ·) 0

/-- The fault of an escape by code point at `start`, which takes `count` hexadecimal digits of the
text after it. -/
def codeFault? (start count : Nat) (reason : String) (cs : List Char) : Option EscapeFault :=
  let digits := (cs.take count).takeWhile Text.isHexDigit
  if digits.length < count then some (.text start (start + 1 + digits.length) reason)
  else if 0x10FFFF < Text.readDigits 16 digits then
    some (.text start (start + 1 + count) "illegal Unicode character")
  else none

/-- The fault of an escape by name at `start`, with the text after its letter. -/
def nameFault? (start : Nat) (cs : List Char) : Option EscapeFault :=
  match cs with
  | '\x7b' :: rest =>
    let name := rest.takeWhile (· != '\x7d')
    if name.length = rest.length then
      some (.text start (start + 2 + placesOf rest) "malformed \\N character escape")
    else if name.isEmpty then some (.text start (start + 2) "malformed \\N character escape")
    else if Text.isCharacterName (String.ofList name) then none
    else some (.text start (start + 3 + placesOf name) "unknown Unicode character name")
  | _ => some (.text start (start + 1) "malformed \\N character escape")

/-- The first wrong escape of a text that starts at a place. -/
def escapeFaultFrom? : Nat → List Char → Option EscapeFault
  | _, [] | _, ['\\'] => none
  | start, '\\' :: c :: rest =>
    let fault :=
      if c == 'x' then codeFault? start 2 "truncated \\xXX escape" rest
      else if c == 'u' then codeFault? start 4 "truncated \\uXXXX escape" rest
      else if c == 'U' then codeFault? start 8 "truncated \\UXXXXXXXX escape" rest
      else if c == 'N' then nameFault? start rest
      else none
    let width := if c.toNat < 0x80 then 2 else 16
    fault.or (escapeFaultFrom? (start + width) rest)
  | start, c :: rest => escapeFaultFrom? (start + places c) rest

/-- The first wrong escape of a text. -/
def escapeFault? (cs : List Char) : Option EscapeFault :=
  escapeFaultFrom? 0 cs

/-- The first wrong escape of a text of bytes that starts at a place. -/
def bytesFaultFrom? : Nat → List Char → Option EscapeFault
  | _, [] | _, ['\\'] => none
  | start, '\\' :: c :: rest =>
    if c == 'x' && ((rest.take 2).takeWhile Text.isHexDigit).length < 2 then some (.bytes start)
    else bytesFaultFrom? (start + 2) rest
  | start, _ :: rest => bytesFaultFrom? (start + 1) rest

/-! ## Formatted texts -/

/-- How the expression in a formatted text is read; the number is its line. -/
abbrev Embedding := Nat → List Char → Except Fault Expression

/-- The text up to the next brace that stands for itself or starts an expression. -/
structure Stretch where
  text : List Char
  rest : List Char
  /-- Whether the text ends with a doubled brace. -/
  doubled : Bool := false

/-- Put a character in front of a stretch. -/
def Stretch.cons (c : Char) (s : Stretch) : Stretch :=
  { s with text := c :: s.text }

/-- The stretch at a brace. -/
def braceStretch (outer : Bool) (c : Char) (rest : List Char) : Except FormatFault Stretch :=
  if outer && rest.head? == some c then .ok ⟨[c], rest.drop 1, true⟩
  else if outer && c == '\x7d' then .error .singleBrace
  else .ok ⟨[], c :: rest, false⟩

/-- The text after the escape of a character by name up to the next brace after it: the braces of
the name belong to it. -/
def skipName (cs : List Char) : List Char × List Char :=
  match cs with
  | '\x7b' :: rest =>
    let name := rest.takeWhile (· != '\x7d')
    let more := rest.drop name.length
    ('\x7b' :: (name ++ more.take 1), more.drop 1)
  | c :: rest => ([c], rest)
  | [] => ([], [])

/-- The stretch at the head of a formatted text.  Outside expressions, `outer`, doubled braces
stand for one.  `fuel` bounds the number of characters. -/
def stretchUpTo (raw outer : Bool) : Nat → List Char → Except FormatFault Stretch
  | 0, cs => .ok ⟨cs, [], false⟩
  | _, [] => .ok ⟨[], [], false⟩
  | fuel + 1, c :: rest => do
    match raw, c, rest with
    | false, '\\', 'N' :: more =>
      let (name, after) := skipName more
      let next ← stretchUpTo raw outer fuel after
      return { next with text := '\\' :: 'N' :: (name ++ next.text) }
    | false, '\\', d :: more =>
      let next ←
        if d == '\x7b' || d == '\x7d' then braceStretch outer d more
        else (·.cons d) <$> stretchUpTo raw outer fuel more
      return next.cons '\\'
    | _, _, _ =>
      if c == '\x7b' || c == '\x7d' then braceStretch outer c rest
      else (·.cons c) <$> stretchUpTo raw outer fuel rest

/-- Whether a character may end an expression. -/
def endsEmbedded (c : Char) : Bool :=
  c == '!' || c == ':' || c == '\x7d' || c == '='

/-- Where the reading of an expression in a formatted text stands. -/
structure EmbeddedScan where
  /-- The quote of a text inside the expression, and whether it is a long one. -/
  quote : Option (Char × Bool) := none
  /-- The open brackets, the last first. -/
  opened : List Char := []
  /-- How many characters belong to what was read last. -/
  pending : Nat := 0

/-- What the end of the text means for an expression. -/
def EmbeddedScan.atEnd (s : EmbeddedScan) : Except FormatFault Unit :=
  match s.quote, s.opened with
  | some _, _ => .error .openText
  | none, c :: _ => .error (.unmatched c)
  | none, [] => .ok ()

/-- Pass a character inside a text. -/
def EmbeddedScan.inText (s : EmbeddedScan) (quote : Char) (long : Bool) (c : Char)
    (rest : List Char) : EmbeddedScan :=
  if c != quote then s
  else if !long then { s with quote := none }
  else if [quote, quote].isPrefixOf rest then { s with quote := none, pending := 2 }
  else s

/-- Pass a character outside texts; there is no result where the expression ends. -/
def EmbeddedScan.pass? (s : EmbeddedScan) (c : Char) (rest : List Char) :
    Except FormatFault (Option EmbeddedScan) :=
  if c == '\'' || c == '"' then
    let long := [c, c].isPrefixOf rest
    .ok (some { s with quote := some (c, long), pending := if long then 2 else 0 })
  else if isOpening c then
    if bracketLimit ≤ s.opened.length then .error .tooManyBrackets
    else .ok (some { s with opened := c :: s.opened })
  else if c == '#' then .error .comment
  else if s.opened.isEmpty && (endsEmbedded c || c == '<' || c == '>') then
    let compares := c == '!' || c == '=' || c == '<' || c == '>'
    if compares && rest.head? == some '=' then .ok (some { s with pending := 1 })
    else if c == '<' || c == '>' then .ok (some s)
    else .ok none
  else
    match opening? c, s.opened with
    | some _, [] => .error (.unmatched c)
    | some bracket, last :: others =>
      if bracket == last then .ok (some { s with opened := others })
      else .error (.mismatched c last)
    | none, _ => .ok (some s)

/-- Split a text where the expression at its head ends. -/
def embeddedExpression (s : EmbeddedScan) :
    List Char → Except FormatFault (List Char × List Char)
  | [] => do
    s.atEnd
    return ([], [])
  | c :: rest => do
    let next ←
      if 0 < s.pending then pure (some { s with pending := s.pending - 1 })
      else if c == '\\' then .error .backslash
      else
        match s.quote with
        | some (quote, long) => pure (some (s.inText quote long c rest))
        | none => s.pass? c rest
    match next with
    | none => return ([], c :: rest)
    | some next =>
      let (expression, more) ← embeddedExpression next rest
      return (c :: expression, more)

/-- Whether an expression is blank. -/
def isBlankExpression (cs : List Char) : Bool :=
  cs.all fun c => c == ' ' || c == '\t' || c == '\n' || c == '\x0c'

/-- The fault of a blank expression before the given text. -/
def blankFault (rest : List Char) : FormatFault :=
  match rest with
  | c :: _ => if endsEmbedded c && c != '\x7d' then .missingExpression c else .emptyExpression
  | [] => .emptyExpression

/-- The text after an equals sign that may follow an expression, and after the letter of a
conversion. -/
def afterConversion (cs : List Char) : Except FormatFault (List Char) :=
  let rest := if cs.head? == some '=' then cs.drop 1 else cs
  match rest with
  | '!' :: c :: more => if c == 's' || c == 'r' || c == 'a' then .ok more else .error .conversion
  | ['!'] => .error .missingBrace
  | _ => .ok rest

/-- The place of faults: a whole expression or one inside a formatted text. -/
def formatFault (inFormatted : Bool) (fault : FormatFault) : Fault :=
  .placed inFormatted (.grammar (.format fault))

/-- Lift a fault of a formatted text to one of the expression it stands in. -/
def liftFormat {α : Type} (inFormatted : Bool) (x : Except FormatFault α) : Except Fault α :=
  x.mapError (formatFault inFormatted)

/-- Check the escapes of a part of a formatted text. -/
def checkEscapes (inFormatted raw : Bool) (cs : List Char) : Except Fault Unit :=
  if raw then .ok ()
  else
    match escapeFault? cs with
    | some fault => .error (.placed inFormatted (.grammar (.escape fault)))
    | none => .ok ()

/-- Check a formatted text from a place on, and give what is left at the brace that ends it.
`level` tells how many expressions it stands in, `line` where the place is; `fuel` bounds the number
of steps. -/
def checkFormattedFrom (embed : Embedding) (inFormatted raw : Bool) :
    Nat → Nat → Nat → List Char → Except Fault (List Char)
  | 0, _, _, _ => .ok []
  | fuel + 1, level, line, cs => do
    let stretch ← liftFormat inFormatted (stretchUpTo raw (level = 0) (cs.length + 1) cs)
    checkEscapes inFormatted raw stretch.text
    let line := line + feeds stretch.text
    if stretch.doubled then checkFormattedFrom embed inFormatted raw fuel level line stretch.rest
    else
      match stretch.rest with
      | '\x7b' :: inner =>
        if 2 ≤ level then .error (formatFault inFormatted .tooDeep)
        else
          let (expression, rest) ← liftFormat inFormatted (embeddedExpression {} inner)
          if rest.isEmpty then .error (formatFault inFormatted .missingBrace)
          else if isBlankExpression expression then
            .error (formatFault inFormatted (blankFault rest))
          else
            let _ ← embed line expression
            let rest ← liftFormat inFormatted (afterConversion rest)
            let line := line + feeds expression
            let after ←
              match rest with
              | [':'] => .error (formatFault inFormatted .missingBrace)
              | ':' :: spec => checkFormattedFrom embed inFormatted raw fuel (level + 1) line spec
              | _ => .ok rest
            match after with
            | '\x7d' :: more =>
              let passed := rest.take (rest.length - after.length)
              checkFormattedFrom embed inFormatted raw fuel level (line + feeds passed) more
            | _ => .error (formatFault inFormatted .missingBrace)
      | rest =>
        if level ≠ 0 ∧ rest.isEmpty then .error (formatFault inFormatted .missingBrace)
        else return rest

/-- Check a formatted text that starts in a line. -/
def checkFormatted (embed : Embedding) (inFormatted raw : Bool) (line : Nat) (cs : List Char) :
    Except Fault Unit := do
  let _ ← checkFormattedFrom embed inFormatted raw (2 * cs.length + 2) 0 line cs

/-! ## Reading -/

/-- Check one quoted text that starts in a line. -/
def checkLiteral (inFormatted : Bool) (l : Literal) : Except Fault Unit :=
  if l.formatted then .ok ()
  else if l.bytes then
    if l.body.any fun c => 0x80 ≤ c.toNat then
      .error (.placed inFormatted (.grammar .bytesCharacter))
    else
      match if l.raw then none else bytesFaultFrom? 0 l.body with
      | some fault => .error (.placed inFormatted (.grammar (.escape fault)))
      | none => .ok ()
  else checkEscapes inFormatted l.raw l.body

/-- Check quoted texts that follow each other.  `bytes` tells what those before them are. -/
def checkTexts (embed : Embedding) (inFormatted : Bool) :
    Option Bool → List Token → Except Fault Unit
  | _, [] => .ok ()
  | bytes, t :: rest =>
    match t.kind with
    | .text l => do
      checkLiteral inFormatted l
      if bytes.any (· != l.bytes) then throw (.placed inFormatted (.grammar .mixedTexts))
      if l.formatted then checkFormatted embed inFormatted l.raw t.line l.body
      checkTexts embed inFormatted (some l.bytes) rest
    | _ => checkTexts embed inFormatted bytes rest

/-- Join quoted texts that follow each other to one expression. -/
def readTexts (embed : Embedding) (inFormatted : Bool) (tokens : List Token) :
    Except Fault Expression := do
  checkTexts embed inFormatted none tokens
  let has (test : Literal → Bool) : Bool :=
    tokens.any fun t => match t.kind with
      | .text l => test l
      | _ => false
  if has Literal.formatted then return .other "f-string expression"
  else if has Literal.bytes then return .bytes
  else return .text

end BindingAudit.Action
