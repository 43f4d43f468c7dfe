import BindingAudit.Number.DigitLimit
import BindingAudit.Text.Identifier
import BindingAudit.Text.Printable
import BindingAudit.Text.Search

/-!
# Words of action parameters

The parameters of an action are read as names, numbers, quoted texts, brackets and marks.  Reading
goes on up to the first thing that cannot be read, and the result tells what that is.

* `Token` is a word with its line and the number of brackets open after it.
* `LexicalFault` is what cannot be read.
* `lex` reads a text.
-/

namespace BindingAudit.Action

/-- A number as it is written. -/
inductive Numeral where
  | integer (value : Nat)
  /-- A decimal integer with more digits than are read. -/
  | oversized (digits : Nat)
  | real
  | imaginary
deriving DecidableEq, Repr

/-- A text between quotes as it is written, without the quotes and the letters before them. -/
structure Literal where
  body : List Char
  bytes : Bool := false
  raw : Bool := false
  formatted : Bool := false
  /-- Whether it is nothing but two quotes. -/
  emptyShort : Bool := false
deriving DecidableEq, Repr

/-- The kinds of words of action parameters. -/
inductive TokenKind where
  | name (text : String)
  | number (numeral : Numeral)
  | text (literal : Literal)
  /-- One or more characters that stand for themselves. -/
  | mark (chars : String)
  /-- The end of a line outside brackets. -/
  | lineEnd
  /-- The start of a line that is set in deeper than those before it. -/
  | indent
  /-- The end of the text. -/
  | finish
deriving DecidableEq, Repr

/-- A word of action parameters. -/
structure Token where
  kind : TokenKind
  line : Nat
  /-- How many brackets are open after the word. -/
  depth : Nat
  /-- Whether the end of the text is met where the end of the word is looked for. -/
  meetsEnd : Bool := false
deriving DecidableEq, Repr

/-- What cannot be read. -/
inductive LexicalFault where
  | unmatched (bracket : Char)
  /-- A bracket that closes one of another kind, which was opened in the given line unless that is
  the same line. -/
  | mismatched (closing opening : Char) (line : Option Nat)
  | tooManyBrackets
  | openText (line : Nat) (long : Bool)
  /-- A number of the named kind that breaks off or runs on into a word. -/
  | number (kind : String)
  | digit (digit : Char) (kind : String)
  | leadingZeros
  | character (c : Char)
  /-- The text ends before a bracket is closed. -/
  | unclosed (bracket : Char)
  /-- The text ends after a line that is to be continued. -/
  | unfinished
  /-- A backslash that does not end its line. -/
  | continuation
  /-- A line that is set in less than the one before it, and like none before that. -/
  | unevenIndent
  /-- A line whose tabs and spaces do not compare with those of the lines before it. -/
  | mixedIndent
  | deepIndent
deriving DecidableEq, Repr

/-- The code point of a character in hexadecimal, as it is shown in messages. -/
def codePoint (c : Char) : String :=
  "U+" ++ String.ofList ((Text.hexDigits 4 c.toNat).map Char.toUpper)

/-- The wording of a fault. -/
def LexicalFault.message : LexicalFault → String
  | .unmatched c => "unmatched '" ++ c.toString ++ "'"
  | .mismatched closing opening line =>
    "closing parenthesis '" ++ closing.toString ++ "' does not match opening parenthesis '"
      ++ opening.toString ++ "'"
      ++ (line.map fun n => " on line " ++ toString n).getD ""
  | .tooManyBrackets => "too many nested parentheses"
  | .openText line long =>
    "unterminated " ++ (if long then "triple-quoted " else "")
      ++ "string literal (detected at line " ++ toString line ++ ")"
  | .number kind => "invalid " ++ kind ++ " literal"
  | .digit c kind => "invalid digit '" ++ c.toString ++ "' in " ++ kind ++ " literal"
  | .leadingZeros =>
    "leading zeros in decimal integer literals are not permitted; "
      ++ "use an 0o prefix for octal integers"
  | .character c =>
    if Text.isPrintable c then
      "invalid character '" ++ c.toString ++ "' (" ++ codePoint c ++ ")"
    else "invalid non-printable character " ++ codePoint c
  | .unclosed c => "'" ++ c.toString ++ "' was never closed"
  | .unfinished => "unexpected EOF while parsing"
  | .continuation => "unexpected character after line continuation character"
  | .unevenIndent => "unindent does not match any outer indentation level"
  | .mixedIndent => "inconsistent use of tabs and spaces in indentation"
  | .deepIndent => "too many levels of indentation"

/-- Whether a fault counts wherever it stands.  The others count only if reading gets to them. -/
def LexicalFault.isLoud : LexicalFault → Bool
  | .unclosed _ | .unfinished | .continuation | .unevenIndent | .mixedIndent | .deepIndent => false
  | _ => true

/-! ## Numbers -/

/-- Whether a character may be part of a name, or is taken for one until the name is checked. -/
def maybeInName (c : Char) : Bool :=
  Text.isWordChar c || 0x80 ≤ c.toNat

/-- Whether a word that may follow a number without a blank is at the head of a text.  For two
letters it is enough that they start a word. -/
def wordAfterNumber (cs : List Char) : Bool :=
  (["if", "in", "is"].any fun w => w.toList.isPrefixOf cs)
    || ["and", "else", "for", "not", "or"].any fun w =>
      w.toList.isPrefixOf cs && !(cs[w.length]?.any maybeInName)

/-- Check that a number of the named kind ends where the given text starts. -/
def endNumber (kind : String) (cs : List Char) : Except LexicalFault (List Char) :=
  if wordAfterNumber cs then .ok cs
  else if cs.head?.any maybeInName then .error (.number kind)
  else .ok cs

/-- Drop digits of a class, with single underscores between them, from the head of a text. -/
def dropDigits (isDigit : Char → Bool) : List Char → Except LexicalFault (List Char)
  | '_' :: c :: rest => if isDigit c then dropDigits isDigit rest else .error (.number "decimal")
  | ['_'] => .error (.number "decimal")
  | c :: rest => if isDigit c then dropDigits isDigit rest else .ok (c :: rest)
  | [] => .ok []

/-- The rest after the digits of a number with a marked base.  `fresh` tells that a digit has to
follow. -/
def basedRest (kind : String) (isDigit : Char → Bool) (fresh : Bool) :
    List Char → Except LexicalFault (List Char)
  | [] => if fresh then .error (.number kind) else .ok []
  | c :: rest =>
    if isDigit c then basedRest kind isDigit false rest
    else if c.isDigit then .error (.digit c kind)
    else if fresh then .error (.number kind)
    else if c == '_' then basedRest kind isDigit true rest
    else endNumber kind (c :: rest)

/-- The rest after the digits of a number with a marked base; one underscore may stand before
them. -/
def basedNumber (kind : String) (isDigit : Char → Bool) (cs : List Char) :
    Except LexicalFault (List Char) :=
  match cs with
  | '_' :: rest => basedRest kind isDigit true rest
  | _ => basedRest kind isDigit true cs

/-- The rest after the mark of an imaginary number, or after the end of a number without. -/
def imaginaryRest (cs : List Char) : Except LexicalFault (List Char) :=
  match cs with
  | c :: rest => if c.toLower == 'j' then endNumber "imaginary" rest else endNumber "decimal" cs
  | [] => .ok []

/-- The rest after the exponent of a number, or after the end of a number without. -/
def exponentRest (cs : List Char) : Except LexicalFault (List Char) :=
  match cs with
  | e :: rest =>
    if e.toLower != 'e' then imaginaryRest cs
    else
      match rest with
      | c :: more =>
        if c == '+' || c == '-' then
          if more.head?.any Char.isDigit then do imaginaryRest (← dropDigits Char.isDigit more)
          else .error (.number "decimal")
        else if c.isDigit then do imaginaryRest (← dropDigits Char.isDigit rest)
        else endNumber "decimal" cs
      | [] => endNumber "decimal" cs
  | [] => .ok []

/-- The rest after the digits of a fraction and what may follow them. -/
def fractionRest (cs : List Char) : Except LexicalFault (List Char) :=
  if cs.head?.any Char.isDigit then do exponentRest (← dropDigits Char.isDigit cs)
  else exponentRest cs

/-- The rest after a decimal number.  One that starts with a zero and goes on with other digits
must be no integer. -/
def decimalRest (cs : List Char) : Except LexicalFault (List Char) := do
  let whole ← dropDigits Char.isDigit cs
  let digits := (cs.take (cs.length - whole.length)).filter Char.isDigit
  let octal := digits.head? == some '0' && digits.any (· != '0')
  match whole with
  | '.' :: rest => fractionRest rest
  | c :: _ =>
    if octal && c.toLower != 'e' && c.toLower != 'j' then .error .leadingZeros
    else exponentRest whole
  | [] => if octal then .error .leadingZeros else .ok []

/-- The rest after a number. -/
def numberRest (cs : List Char) : Except LexicalFault (List Char) :=
  match cs with
  | '0' :: c :: rest =>
    if c.toLower == 'x' then basedNumber "hexadecimal" Text.isHexDigit rest
    else if c.toLower == 'o' then basedNumber "octal" (fun d => '0' ≤ d && d ≤ '7') rest
    else if c.toLower == 'b' then basedNumber "binary" (fun d => d == '0' || d == '1') rest
    else decimalRest cs
  | '.' :: rest => fractionRest rest
  | _ => decimalRest cs

/-- The number of a text that was read as one. -/
def Numeral.ofChars (cs : List Char) : Numeral :=
  let digits := cs.filter (· != '_')
  match digits with
  | '0' :: c :: rest =>
    if c.toLower == 'x' then .integer (Text.readDigits 16 rest)
    else if c.toLower == 'o' then .integer (Text.readDigits 8 rest)
    else if c.toLower == 'b' then .integer (Text.readDigits 2 rest)
    else decimal digits
  | _ => decimal digits
where
  /-- The number of a text without a marked base. -/
  decimal (digits : List Char) : Numeral :=
    if digits.getLast?.any fun c => c.toLower == 'j' then .imaginary
    else if digits.any fun c => !c.isDigit then .real
    else if digits.all (· == '0') then .integer 0
    else if digitLimit < digits.length then .oversized digits.length
    else .integer (Text.readDigits 10 digits)

/-! ## Quoted texts and names -/

/-- The number of line feeds in a text. -/
def feeds (cs : List Char) : Nat :=
  cs.count '\n'

/-- Split a text after the quote that ends it.  `line` is the line it stands in. -/
def shortText (quote : Char) (line : Nat) :
    List Char → Except LexicalFault (List Char × List Char)
  | [] | ['\\'] => .error (.openText line false)
  | '\\' :: c :: rest => do
    let (body, more) ← shortText quote (line + feeds [c]) rest
    return ('\\' :: c :: body, more)
  | c :: rest =>
    if c == quote then .ok ([], rest)
    else if c == '\n' then .error (.openText line false)
    else do
      let (body, more) ← shortText quote line rest
      return (c :: body, more)

/-- Split a text after the three quotes that end it.  `line` is the last line. -/
def longText (quote : Char) (line : Nat) :
    List Char → Except LexicalFault (List Char × List Char)
  | [] | ['\\'] => .error (.openText line true)
  | '\\' :: c :: rest => do
    let (body, more) ← longText quote line rest
    return ('\\' :: c :: body, more)
  | c :: rest =>
    if [quote, quote, quote].isPrefixOf (c :: rest) then .ok ([], rest.drop 2)
    else do
      let (body, more) ← longText quote line rest
      return (c :: body, more)

/-- Split a text after its first quote where it ends.  `line` is where it starts. -/
def quotedText (quote : Char) (line : Nat) (cs : List Char) :
    Except LexicalFault (List Char × List Char) :=
  if [quote, quote].isPrefixOf cs then longText quote (line + feeds cs) (cs.drop 2)
  else shortText quote line cs

/-- The letters that may stand before a quoted text. -/
def textMarks : List String := ["b", "r", "u", "f", "br", "rb", "fr", "rf"]

/-- Check that the characters of a name belong in one. -/
def checkName (cs : List Char) : Except LexicalFault TokenKind :=
  match Text.strayCharacter? cs with
  | some c => .error (.character c)
  | none => .ok (.name (String.ofList cs))

/-! ## Lines -/

/-- A text with line feeds as the only line breaks. -/
def withFeeds : List Char → List Char
  | '\r' :: '\n' :: rest => '\n' :: withFeeds rest
  | c :: rest => (if c = '\r' then '\n' else c) :: withFeeds rest
  | [] => []

/-- How far a line is set in: the columns with tabs of eight and of one. -/
structure Indent where
  wide : Nat := 0
  narrow : Nat := 0
deriving DecidableEq, Repr

/-- The blanks at the head of a line.  A line may go on after a backslash, and then the first part
with blanks counts; `kept` is its column. -/
def measureIndent (indent : Indent) (kept lines : Nat) :
    List Char → Except LexicalFault (Indent × Nat × List Char)
  | ' ' :: rest => measureIndent ⟨indent.wide + 1, indent.narrow + 1⟩ kept lines rest
  | '\t' :: rest =>
    measureIndent ⟨(indent.wide / 8 + 1) * 8, indent.narrow + 1⟩ kept lines rest
  | '\x0c' :: rest => measureIndent {} kept lines rest
  | ['\\', '\n'] => .error .unfinished
  | '\\' :: '\n' :: rest =>
    measureIndent indent (if kept = 0 then indent.wide else kept) (lines + 1) rest
  | '\\' :: _ => .error .continuation
  | rest => .ok (if kept = 0 then indent else ⟨kept, kept⟩, lines, rest)

/-- The greatest number of indents, the lack of one included. -/
def indentLimit : Nat := 100

/-- The indents after a line that is set in by `indent`, where `indents` are those that hold before
it, the last first. -/
def nextIndents (indent : Indent) : List Indent → Except LexicalFault (List Indent)
  | [] => if indent.wide = 0 then .ok [] else .ok [indent]
  | last :: others =>
    if indent.wide = last.wide then
      if indent.narrow = last.narrow then .ok (last :: others) else .error .mixedIndent
    else if last.wide < indent.wide then
      if indentLimit ≤ others.length + 2 then .error .deepIndent
      else if indent.narrow ≤ last.narrow then .error .mixedIndent
      else .ok (indent :: last :: others)
    else
      match others with
      | [] => if indent.wide = 0 then .ok [] else .error .unevenIndent
      | next :: _ => if next.wide < indent.wide then .error .unevenIndent
        else nextIndents indent others

/-! ## Tokens -/

/-- The marks of more than one character, the longest first. -/
def longMarks : List String := [
  "...", "**=", "//=", "<<=", ">>=", "==", "!=", "<=", ">=", "->", "**", "//", "<<", ">>", ":=",
  "+=", "-=", "*=", "/=", "%=", "&=", "|=", "^=", "@=", "<>"]

/-- The mark at the head of a text that starts with the given character. -/
def markAt (c : Char) (cs : List Char) : String :=
  (longMarks.find? fun m => m.toList.isPrefixOf cs).getD c.toString

/-- Whether a character is an opening bracket. -/
def isOpening (c : Char) : Bool :=
  c == '(' || c == '[' || c == '\x7b'

/-- The opening bracket of a closing one. -/
def opening? (c : Char) : Option Char :=
  if c == ')' then some '('
  else if c == ']' then some '['
  else if c == '\x7d' then some '\x7b'
  else none

/-- The greatest number of brackets that are open at once. -/
def bracketLimit : Nat := 200

/-- How far a text was read. -/
structure Scan where
  rest : List Char
  line : Nat := 1
  /-- The open brackets with their lines, the last first. -/
  opened : List (Char × Nat) := []
  /-- How far lines are set in, the last first. -/
  indents : List Indent := []
  /-- Whether a line starts here. -/
  fresh : Bool := true

/-- The next step of reading: a token or none, and what is left. -/
abbrev Step := Except LexicalFault (Option Token × Scan)

namespace Scan

/-- Go on without a token. -/
def skip (s : Scan) : Step :=
  .ok (none, s)

/-- Whether the end of a token is only known from what follows it. -/
def looksAhead : TokenKind → Bool
  | .name _ | .number _ => true
  | .mark chars => chars.length < 3
  | .text l => l.emptyShort
  | _ => false

/-- Go on after a token of the given kind that starts in the given line. -/
def emit (s : Scan) (kind : TokenKind) (line : Nat) : Step :=
  .ok (some ⟨kind, line, s.opened.length, s.rest.isEmpty && looksAhead kind⟩, s)

/-- Read the start of a line. -/
def lineStart (s : Scan) : Step := do
  let (indent, lines, rest) ← measureIndent {} 0 0 s.rest
  let here := { s with rest, line := s.line + lines, fresh := false }
  match rest with
  | '#' :: more =>
    let more := more.dropWhile (· != '\n')
    skip { here with rest := more.drop 1, line := here.line + (more.take 1).length, fresh := true }
  | '\n' :: more => skip { here with rest := more, line := here.line + 1, fresh := true }
  | [] => skip here
  | _ =>
    if s.opened.isEmpty then
      let indents ← nextIndents indent s.indents
      let here := { here with indents }
      if s.indents.length < indents.length then here.emit .indent here.line else skip here
    else skip here

/-- Read a quoted text after its first quote. -/
def text (s : Scan) (marks : List Char) (quote : Char) (cs : List Char) : Step := do
  let (body, rest) ← quotedText quote s.line cs
  let marked (c : Char) : Bool := marks.any fun m => m.toLower == c
  Scan.emit { s with rest, line := s.line + feeds body }
    (.text {
      body, bytes := marked 'b', raw := marked 'r', formatted := marked 'f'
      emptyShort := cs.head? == some quote && !([quote, quote].isPrefixOf cs) }) s.line

/-- Read a bracket or a mark. -/
def mark (s : Scan) (c : Char) (rest : List Char) : Step :=
  if isOpening c then
    if bracketLimit ≤ s.opened.length then .error .tooManyBrackets
    else
      Scan.emit { s with rest, opened := (c, s.line) :: s.opened } (.mark c.toString) s.line
  else
    match opening? c, s.opened with
    | some _, [] => .error (.unmatched c)
    | some bracket, (last, line) :: opened =>
      if bracket == last then Scan.emit { s with rest, opened } (.mark c.toString) s.line
      else .error (.mismatched c last (if line = s.line then none else some line))
    | none, _ =>
      if c.toNat < 0x20 || c.toNat == 0x7F then .error (.character c)
      else
        let chars := markAt c s.rest
        Scan.emit { s with rest := s.rest.drop chars.length } (.mark chars) s.line

/-- Read a name, or a quoted text with letters before it. -/
def word (s : Scan) : Step := do
  let chars := s.rest.takeWhile maybeInName
  let more := s.rest.drop chars.length
  match more with
  | quote :: inner =>
    if (quote == '"' || quote == '\'')
        && textMarks.any fun m => m.toList == chars.map Char.toLower then
      s.text chars quote inner
    else Scan.emit { s with rest := more } (← checkName chars) s.line
  | [] => Scan.emit { s with rest := [] } (← checkName chars) s.line

/-- Read on at a character inside a line. -/
def inLine (s : Scan) (c : Char) (rest : List Char) : Step :=
  if c == ' ' || c == '\t' || c == '\x0c' then skip { s with rest }
  else if c == '\n' then
    let next := { s with rest, line := s.line + 1, fresh := true }
    if s.opened.isEmpty then next.emit .lineEnd s.line else skip next
  else if c == '#' then skip { s with rest := rest.dropWhile (· != '\n') }
  else if c == '\\' then
    match rest with
    | ['\n'] => .error .unfinished
    | '\n' :: more => skip { s with rest := more, line := s.line + 1 }
    | _ => .error .continuation
  else if c == '"' || c == '\'' then s.text [] c rest
  else if c.isDigit || (c == '.' && rest.head?.any Char.isDigit) then do
    let more ← numberRest (c :: rest)
    let chars := (c :: rest).take (rest.length + 1 - more.length)
    Scan.emit { s with rest := more } (.number (Numeral.ofChars chars)) s.line
  else if maybeInName c then s.word
  else s.mark c rest

/-- Read on. -/
def step (s : Scan) : Step :=
  match s.rest with
  | [] => s.emit .finish s.line
  | c :: rest => if s.fresh then s.lineStart else s.inLine c rest

end Scan

/-- What a text was read as. -/
structure Lexed where
  tokens : Array Token
  /-- Why reading stopped before the end of the text. -/
  fault : Option LexicalFault := none
  /-- The line of the last bracket that is open where reading stopped. -/
  bracket : Option (Char × Nat) := none

/-- Read on after the tokens so far.  `fuel` bounds the number of steps. -/
def lexFrom (tokens : Array Token) (s : Scan) : Nat → Lexed
  | 0 => { tokens }
  | fuel + 1 =>
    if s.rest.isEmpty && !s.opened.isEmpty then
      { tokens, fault := s.opened.head?.map fun b => .unclosed b.1, bracket := s.opened.head? }
    else
      match s.step with
      | .error fault => { tokens, fault := some fault, bracket := s.opened.head? }
      | .ok (none, next) => lexFrom tokens next fuel
      | .ok (some t, next) =>
        if t.kind = .finish then { tokens := tokens.push t } else lexFrom (tokens.push t) next fuel

/-- Read a text whose first line has the given number. -/
def lex (line : Nat) (cs : List Char) : Lexed :=
  let text := withFeeds cs
  lexFrom #[] { rest := text, line } (3 * text.length + 3)

end BindingAudit.Action
