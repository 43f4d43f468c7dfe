import BindingAudit.Console.Action.Rules
import BindingAudit.Text.Blank
import BindingAudit.Text.Quoted
import BindingAudit.Text.WordChar

/-!
# Actions

The parameters of a tag that calls an action: the name of a handler, with its arguments in
parentheses, or an expression.  `problem?` tells what is wrong with them.

A text is read in two rounds.  The first finds out whether it is an expression, and if it is not,
the second looks for a description of what is wrong.
-/

namespace BindingAudit.Action

/-! ## Expressions -/

/-- The fault that counts where one was found.  A fault of words that counts wherever it stands
comes first, and then a bracket that is not closed, if it was opened in an earlier line than that
of the last token that was looked at. -/
def leadingFault (c : Course Rule) (last : Option Token) (found : Fault) : Fault :=
  match c.lexed.fault with
  | none => found
  | some fault =>
    if fault.isLoud then .ofLexical c.inFormatted fault
    else
      match c.lexed.bracket, last with
      | some (bracket, line), some t =>
        if line < t.line then .ofLexical c.inFormatted (.unclosed bracket) else found
      | _, _ => found

/-- The last token that was looked at. -/
def lastSeen (c : Course Rule) (s : State Rule) : Option Token :=
  c.lexed.tokens[s.seen - 1]?

/-- The fault that ends the reading of a text.  Where the end of the text was met, no other is
looked for. -/
def haltFault (c : Course Rule) (s : State Rule) (halt : Halt) : Fault :=
  match halt with
  | .lexical fault => .ofLexical c.inFormatted fault
  | .fault fault =>
    if (lastSeen c s).any Token.meetsEnd then fault else leadingFault c (lastSeen c s) fault

/-- The fault of a text that nothing describes, after two rounds. -/
def plainFault (c : Course Rule) (first second : State Rule) : Fault :=
  if (lastSeen c first).any fun t => t.kind = .indent then
    .placed c.inFormatted (.grammar .indent)
  else leadingFault c (lastSeen c second) (.placed c.inFormatted (.grammar .misplaced))

/-- Follow the rules through a text from the given one on. -/
def followRule (c : Course Rule) (start : Rule) : Except Fault Expression :=
  let follow := Phrase.follow c (100 * (c.lexed.tokens.size + 2)) (.rule start)
  match follow.run.run {} with
  | (.error halt, s) => .error (haltFault c s halt)
  | (.ok (some node), _) => .ok node.toExpression
  | (.ok none, first) =>
    match follow.run.run { seen := first.seen, hints := true } with
    | (.error halt, s) => .error (haltFault c s halt)
    | (.ok _, s) => .error (plainFault c first s)

/-- Read an expression in a formatted text that starts in a line.  `depth` bounds how deep
formatted texts stand in each other. -/
def readEmbedded : Nat → Embedding
  | 0, _, _ => .ok (.other "")
  | depth + 1, line, cs =>
    followRule ⟨define (readEmbedded depth) true, lex line ('(' :: cs ++ [')']), true⟩ .embedded

/-- Read an expression. -/
def readExpression (cs : List Char) : Except Fault Expression :=
  followRule ⟨define (readEmbedded (cs.length + 1)) false, lex 1 cs, false⟩ .whole

/-! ## Parameters -/

/-- What is wrong with the parameters of an action. -/
inductive Problem where
  /-- The arguments are no expression. -/
  | reading (arguments parameters : String) (fault : Fault)
  /-- The expression has no value. -/
  | value (parameters : String) (fault : Expression.ValueFault)
  /-- The parameters hold a character that no text may hold. -/
  | zeroCharacter (parameters : String)
deriving DecidableEq, Repr

/-- The wording of a problem. -/
def Problem.message : Problem → String
  | reading arguments parameters fault =>
    "error parsing " ++ Text.quoted arguments ++ " in " ++ Text.quoted parameters ++ "; "
      ++ fault.message
  | value parameters fault => "error parsing " ++ Text.quoted parameters ++ "; " ++ fault.message
  | zeroCharacter parameters =>
    "error parsing " ++ Text.quoted parameters ++ "; source code string cannot contain null bytes"

/-- The arguments in parameters: what follows the name of a handler, if that is in parentheses or
empty, and else all of it. -/
def arguments (parameters : List Char) : List Char :=
  let whole := Text.trim parameters
  let rest := whole.dropWhile fun c => Text.isWordCharacter c || c == '.'
  match rest, rest.getLast? with
  | [], _ => "()".toList
  | '(' :: _ :: _, some ')' => if rest.contains '\n' then whole else rest
  | _, _ => whole

/-- What is wrong with the parameters of an action. -/
def problem? (parameters : List Char) : Option Problem :=
  let cs := arguments parameters
  let shown := String.ofList parameters
  if cs.any fun c => c.toNat == 0 then some (.zeroCharacter shown)
  else
    match readExpression cs with
    | .error fault => some (.reading (String.ofList cs) shown fault)
    | .ok e =>
      match e.evaluate with
      | .error fault => some (.value shown fault)
      | .ok _ => none

end BindingAudit.Action
