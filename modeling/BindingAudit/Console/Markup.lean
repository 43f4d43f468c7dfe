import BindingAudit.Console.Action.Basic
import BindingAudit.Console.StyledText
import BindingAudit.Text.Emoji

/-!
# Console markup

Text for the console may hold tags: `[name]` starts a style and `[/name]` or `[/]` ends it.  A
tag starts with a lower-case letter or one of `#`, `/`, `@`, and holds no opening bracket; any
other bracket is text.  A backslash in front makes a tag text.  Emoji may be written by name.

* `escape` makes any text show as itself, but for emoji codes, and for a single backslash at its
  very end, which it doubles.
* `render` gives the text without its tags, and the styles of its stretches.
-/

namespace BindingAudit.Markup

/-- What can be wrong with marked-up text. -/
inductive Error where
  /-- A closing tag that matches no open one. -/
  | unmatched (tag : String) (position : Nat)
  /-- A closing tag where none is open. -/
  | nothingToClose (position : Nat)
  /-- The parameters of an action are wrong. -/
  | action (problem : Action.Problem)
  /-- A tag holds a colour that cannot be read. -/
  | color (error : ColorError)
deriving DecidableEq, Repr

/-- The wording of an error. -/
def Error.message : Error → String
  | .action problem => problem.message
  | .color error => error.message
  | .unmatched tag position =>
    "closing tag '" ++ tag ++ "' at position " ++ toString position
      ++ " doesn't match any open tag"
  | .nothingToClose position =>
    "closing tag '[/]' at position " ++ toString position ++ " has nothing to close"

/-! ## Tags -/

/-- Whether a character can start a tag. -/
def startsTag (c : Char) : Bool :=
  c.isLower || c == '#' || c == '/' || c == '@'

/-- A tag with the backslashes in front of it. -/
structure Found where
  /-- The number of backslashes. -/
  escapes : Nat
  /-- The text between the brackets. -/
  content : List Char
  /-- The text after the tag. -/
  rest : List Char

/-- The tag, with its backslashes, that a text starts with. -/
def tagAt? (cs : List Char) : Option Found :=
  let escapes := (cs.takeWhile (· == '\\')).length
  match cs.drop escapes with
  | '[' :: c :: more =>
    if startsTag c then
      let content := more.takeWhile (fun d => d != ']' && d != '[')
      match more.drop content.length with
      | ']' :: rest => some ⟨escapes, c :: content, rest⟩
      | _ => none
    else none
  | _ => none

/-- The tag as written, without its backslashes. -/
def Found.shown (f : Found) : List Char :=
  '[' :: f.content ++ [']']

/-- Put a backslash in front of every tag and double those that are there.  `fuel` bounds the
number of steps. -/
def escapeTags : Nat → List Char → List Char
  | 0, cs => cs
  | _, [] => []
  | fuel + 1, c :: cs =>
    match tagAt? (c :: cs) with
    | some f => List.replicate (2 * f.escapes + 1) '\\' ++ f.shown ++ escapeTags fuel f.rest
    | none => c :: escapeTags fuel cs

/-- Make a text show as itself. -/
def escape (s : String) : String :=
  let cs := escapeTags (s.toList.length + 1) s.toList
  let endsSingle := (cs.reverse.takeWhile (· == '\\')).length == 1
  String.ofList (if endsSingle then cs ++ ['\\'] else cs)

/-! ## Pieces -/

/-- A piece of marked-up text: plain text, or a tag with its position. -/
inductive Piece where
  | text (cs : List Char)
  | tag (position : Nat) (content : List Char)

/-- The plain text read so far as a piece, unless it is empty. -/
def pendingPiece (pending : List Char) : List Piece :=
  if pending.isEmpty then [] else [.text pending.reverse]

/-- Cut marked-up text into pieces.  `pending` is the plain text before, in reverse. -/
def pieces : Nat → Nat → List Char → List Char → List Piece
  | 0, _, pending, cs => pendingPiece (cs.reverse ++ pending)
  | _, _, pending, [] => pendingPiece pending
  | fuel + 1, position, pending, c :: cs =>
    match tagAt? (c :: cs) with
    | none => pieces fuel (position + 1) (c :: pending) cs
    | some f =>
      let after := position + f.escapes + f.shown.length
      let slashes :=
        if f.escapes < 2 then [] else [Piece.text (List.replicate (f.escapes / 2) '\\')]
      let piece :=
        if f.escapes % 2 = 1 then Piece.text f.shown
        else Piece.tag (position + f.escapes) f.content
      pendingPiece pending ++ slashes ++ [piece] ++ pieces fuel after [] f.rest

/-! ## Rendering -/

/-- The name a style is compared by: its definition in the standard order, or, for what is no
definition, the name in lower case without the blanks around it. -/
def styleName (cs : List Char) : Except Error String :=
  match Style.read cs with
  | .ok style => .ok style.definition
  | .error .unknown => .ok (String.ofList (Text.lowerCase (Text.trim cs)))
  | .error e => .error (.color e)

/-- The characters that are dropped from console text. -/
def isControl (c : Char) : Bool :=
  let n := c.toNat
  n == 7 || n == 8 || n == 11 || n == 12 || n == 13

/-- Drop the backslash in front of every bracket. -/
def unescapeBrackets : List Char → List Char
  | '\\' :: '[' :: rest => '[' :: unescapeBrackets rest
  | c :: rest => c :: unescapeBrackets rest
  | [] => []

/-- The text of a plain piece: without the backslashes in front of brackets, with emoji in the
place of their codes, and without control characters. -/
def plainText (cs : List Char) : List Char :=
  (Text.Emoji.replace (unescapeBrackets cs)).filter fun c => !isControl c

/-- A tag without its brackets. -/
structure Tag where
  name : String
  parameters : Option (List Char)

/-- The tag of a text between brackets. -/
def Tag.ofContent (content : List Char) : Tag :=
  let name := content.takeWhile (· != '=')
  ⟨String.ofList name, (content.drop name.length).tail?⟩

/-- The style a tag asks for. -/
def Tag.style (t : Tag) : String :=
  match t.parameters with
  | none => t.name
  | some parameters => t.name ++ " " ++ String.ofList parameters

/-- An open tag, and where it started. -/
structure OpenTag where
  start : Nat
  tag : Tag

/-- Take the innermost open tag of a name out of a stack. -/
def closeNamed (name : String) : List OpenTag → Option (OpenTag × List OpenTag)
  | [] => none
  | t :: rest =>
    if t.tag.name = name then some (t, rest)
    else (closeNamed name rest).map fun found => (found.1, t :: found.2)

/-- Find what a closing tag closes, and what stays open.  `name` is the tag without its slash, and
`content` the text between its brackets. -/
def close (opened : List OpenTag) (position : Nat) (name content : List Char) :
    Except Error (OpenTag × List OpenTag) :=
  if (Text.trim name).isEmpty then
    match opened with
    | t :: others => .ok (t, others)
    | [] => .error (.nothingToClose position)
  else do
    match closeNamed (← styleName (Text.trim name)) opened with
    | some found => return found
    | none => .error (.unmatched (String.ofList ('[' :: content ++ [']'])) position)

/-- The style of a closed tag.  A tag that starts with `@` calls an action and looks like
nothing. -/
def closedStyle (t : Tag) : Except Error String :=
  if "@".toList.isPrefixOf t.name.toList then
    match Action.problem? (t.parameters.getD []) with
    | some p => .error (.action p)
    | none => .ok "none"
  else .ok t.style

/-- Render pieces.  `opened` is the stack of open tags, the innermost first, and `closed` the
stretches of those that were closed, the last first. -/
def renderPieces :
    List Piece → List OpenTag → List Char → List Stretch → Except Error StyledText
  | [], opened, text, closed =>
    let left := opened.map fun t => Stretch.mk t.start text.length t.tag.style
    .ok ⟨text, (left.reverse ++ closed).mergeSort fun s t => s.start ≤ t.start⟩
  | .text cs :: rest, opened, text, closed => renderPieces rest opened (text ++ plainText cs) closed
  | .tag position content :: rest, opened, text, closed => do
    match content with
    | '/' :: more =>
      let (t, others) ← close opened position (more.takeWhile (· != '=')) content
      let stretch := Stretch.mk t.start text.length (← closedStyle t.tag)
      renderPieces rest others text (stretch :: closed)
    | _ =>
      let tag := Tag.ofContent content
      let name ← styleName tag.name.toList
      renderPieces rest (⟨text.length, { tag with name }⟩ :: opened) text closed

/-- Render marked-up text. -/
def render (s : String) : Except Error StyledText :=
  renderPieces (pieces (s.toList.length + 1) 0 [] s.toList) [] [] []

end BindingAudit.Markup
