import BindingAudit.Console.Action.Token
import BindingAudit.Number.DigitLimit

/-!
# Faults of action parameters

How parameters break the rules for expressions, with the wording of each fault.  A fault of an
expression inside a formatted text says so.
-/

namespace BindingAudit.Action

/-- How a quoted text breaks the rules for escapes. -/
inductive EscapeFault where
  /-- A wrong escape from one place to another, with what is wrong. -/
  | text (start stop : Nat) (reason : String)
  /-- A wrong escape in a text of bytes. -/
  | bytes (start : Nat)
deriving DecidableEq, Repr

/-- The wording of a fault. -/
def EscapeFault.message : EscapeFault → String
  | .text start stop reason =>
    "(unicode error) 'unicodeescape' codec can't decode bytes in position " ++ toString start
      ++ "-" ++ toString stop ++ ": " ++ reason
  | .bytes start => "(value error) invalid \\x escape at position " ++ toString start

/-- How a formatted text breaks its rules. -/
inductive FormatFault where
  | emptyExpression
  /-- A mark that needs an expression before it. -/
  | missingExpression (mark : Char)
  | missingBrace
  | singleBrace
  | tooDeep
  | backslash
  | comment
  | openText
  | unmatched (bracket : Char)
  | mismatched (closing opening : Char)
  | tooManyBrackets
  | conversion
deriving DecidableEq, Repr

/-- The wording of a fault. -/
def FormatFault.message : FormatFault → String
  | .emptyExpression => "f-string: empty expression not allowed"
  | .missingExpression c => "f-string: expression required before '" ++ c.toString ++ "'"
  | .missingBrace => "f-string: expecting '\x7d'"
  | .singleBrace => "f-string: single '\x7d' is not allowed"
  | .tooDeep => "f-string: expressions nested too deeply"
  | .backslash => "f-string expression part cannot include a backslash"
  | .comment => "f-string expression part cannot include '#'"
  | .openText => "f-string: unterminated string"
  | .unmatched c => "f-string: unmatched '" ++ c.toString ++ "'"
  | .mismatched closing opening =>
    "f-string: closing parenthesis '" ++ closing.toString
      ++ "' does not match opening parenthesis '" ++ opening.toString ++ "'"
  | .tooManyBrackets => "f-string: too many nested parenthesis"
  | .conversion => "f-string: invalid conversion character: expected 's', 'r', or 'a'"

/-- How the parameters of a nameless function break the rules. -/
inductive ParameterFault where
  | order
  | brackets
  | leadingSlash
  | secondSlash
  | slashAfterStar
  | missingComma
  | bareStar
  | starDefault
  | secondStar
  | doubleStarDefault
  | afterDoubleStar
  | missingDefault
deriving DecidableEq, Repr

/-- The wording of a fault. -/
def ParameterFault.message : ParameterFault → String
  | .order => "non-default argument follows default argument"
  | .brackets => "Lambda expression parameters cannot be parenthesized"
  | .leadingSlash => "at least one argument must precede /"
  | .secondSlash => "/ may appear only once"
  | .slashAfterStar => "/ must be ahead of *"
  | .missingComma => "expected comma between / and *"
  | .bareStar => "named arguments must follow bare *"
  | .starDefault => "var-positional argument cannot have default value"
  | .secondStar => "* argument may appear only once"
  | .doubleStarDefault => "var-keyword argument cannot have default value"
  | .afterDoubleStar => "arguments cannot follow var-keyword argument"
  | .missingDefault => "expected default value expression"

/-- How an expression breaks the rules. -/
inductive GrammarFault where
  | misplaced
  | indent
  | missingComma
  /-- A condition without the word for its other side. -/
  | missingElse
  /-- A word that calls for parentheses. -/
  | bareCall (name : String)
  /-- An assignment inside an expression to what is no name. -/
  | inlineAssignment (kind : String)
  /-- An equals sign after a name. -/
  | assignment
  /-- An equals sign after what is no name. -/
  | assignmentTo (kind : String)
  /-- What cannot be assigned to. -/
  | noTarget (kind : String)
  /-- An equals sign after an argument that is no name. -/
  | argumentAssignment
  | unpackingOrder
  | bareGenerator
  /-- An argument by position after one by name, or after the entries of a dictionary. -/
  | argumentOrder (unpacked : Bool)
  | starredComprehension
  | bareComprehension
  | spreadComprehension
  /-- An expression behind a star, or two, that stands alone in its parentheses. -/
  | starred (double : Bool)
  | missingColon
  | starredValue
  | missingValue
  | parameter (fault : ParameterFault)
  | mixedTexts
  | bytesCharacter
  | escape (fault : EscapeFault)
  | format (fault : FormatFault)
  /-- An integer with too many digits. -/
  | digits (error : DigitError)
deriving DecidableEq, Repr

/-- The wording of a fault. -/
def GrammarFault.message : GrammarFault → String
  | .misplaced => "invalid syntax"
  | .indent => "unexpected indent"
  | .missingComma => "invalid syntax. Perhaps you forgot a comma?"
  | .missingElse => "expected 'else' after 'if' expression"
  | .bareCall name =>
    "Missing parentheses in call to '" ++ name ++ "'. Did you mean " ++ name ++ "(...)?"
  | .inlineAssignment kind => "cannot use assignment expressions with " ++ kind
  | .assignment => "invalid syntax. Maybe you meant '==' or ':=' instead of '='?"
  | .assignmentTo kind =>
    "cannot assign to " ++ kind ++ " here. Maybe you meant '==' instead of '='?"
  | .noTarget kind => "cannot assign to " ++ kind
  | .argumentAssignment => "expression cannot contain assignment, perhaps you meant \"==\"?"
  | .unpackingOrder => "iterable argument unpacking follows keyword argument unpacking"
  | .bareGenerator => "Generator expression must be parenthesized"
  | .argumentOrder unpacked =>
    "positional argument follows keyword argument" ++ (if unpacked then " unpacking" else "")
  | .starredComprehension => "iterable unpacking cannot be used in comprehension"
  | .bareComprehension => "did you forget parentheses around the comprehension target?"
  | .spreadComprehension => "dict unpacking cannot be used in dict comprehension"
  | .starred double =>
    "cannot use " ++ (if double then "double " else "") ++ "starred expression here"
  | .missingColon => "':' expected after dictionary key"
  | .starredValue => "cannot use a starred expression in a dictionary value"
  | .missingValue => "expression expected after dictionary key and ':'"
  | .parameter fault => fault.message
  | .mixedTexts => "cannot mix bytes and nonbytes literals"
  | .bytesCharacter => "bytes can only contain ASCII literal characters"
  | .escape fault => fault.message
  | .format fault => fault.message
  | .digits error =>
    error.message ++ " - Consider hexadecimal for huge integer literals "
      ++ "to avoid decimal conversion limits."

/-- What is wrong with an expression: with its words or with their order. -/
inductive Fault where
  | lexical (fault : LexicalFault)
  | grammar (fault : GrammarFault)
  /-- A fault of an expression inside a formatted text. -/
  | embedded (fault : Fault)
deriving DecidableEq, Repr

namespace Fault

/-- The wording of a fault. -/
def message : Fault → String
  | lexical fault => fault.message
  | grammar fault => fault.message
  | embedded fault => "f-string: " ++ fault.message

/-- A fault of a whole expression, or of one inside a formatted text. -/
def placed (inFormatted : Bool) (fault : Fault) : Fault :=
  if inFormatted then embedded fault else fault

/-- A fault of words.  Those that count wherever they stand do not say where that is. -/
def ofLexical (inFormatted : Bool) (fault : LexicalFault) : Fault :=
  placed (inFormatted && !fault.isLoud) (lexical fault)

end Fault

end BindingAudit.Action
