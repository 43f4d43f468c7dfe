import BindingAudit.Console.Action.Literal
import BindingAudit.Console.Action.Phrase

/-!
# The rules for expressions

The rules that the parameters of an action follow, in the order in which they are tried, and with
them the rules that describe common faults.

`Rule` are the names of the rules and `define` gives their definitions.  The rules without square
brackets are all there are: a tag cannot hold them.
-/

namespace BindingAudit.Action

/-- The names of the rules.  Those that start with `faulty` describe what is wrong. -/
inductive Rule where
  | whole
  | embedded
  | expressions
  | expression
  | yielded
  | starExpressions
  | starExpression
  | starNamedExpressions
  | starNamedExpression
  | assignment
  | namedExpression
  | disjunction
  | conjunction
  | inversion
  | comparison
  | comparisonPair
  | bitwiseOr
  | bitwiseXor
  | bitwiseAnd
  | shift
  | sum
  | term
  | factor
  | power
  | awaited
  | primary
  | atom
  | group
  | function
  | parameters
  | parameterList
  | slashPlain
  | slashDefault
  | starParameters
  | doubleStarParameter
  | plainParameter
  | defaultParameter
  | anyParameter
  | defaultValue
  | texts
  | tuple
  | setDisplay
  | dictionary
  | entry
  | pair
  | loops
  | loop
  | generator
  | setComprehension
  | dictionaryComprehension
  | arguments
  | argumentList
  | keywordArguments
  | starred
  | keywordOrStarred
  | keywordOrSpread
  | targets
  | targetTuple
  | target
  | qualifiedTarget
  | targetAtom
  | targetPrimary
  | quietExpression
  | faultyExpression
  | faultyCall
  | faultyNamed
  | faultyArguments
  | faultyKeyword
  | faultyComprehension
  | faultyDictionaryComprehension
  | faultyParameters
  | faultyDefaults
  | faultyStar
  | faultyDoubleStar
  | faultyDefault
  | faultyLoop
  | faultyGroup
  | faultyEntries
  | faultyPair
deriving DecidableEq, Hashable, Repr

/-! ## Writing rules down -/

namespace Rule

/-- A rule as a part of another. -/
def ref (r : Rule) : Phrase Rule :=
  .rule r

end Rule

/-- A mark as a part of a rule. -/
def mark (chars : String) : Phrase Rule :=
  .terminal (.mark chars)

/-- A word as a part of a rule. -/
def word (text : String) : Phrase Rule :=
  .terminal (.word text)

/-- A name as a part of a rule. -/
def anyName : Phrase Rule :=
  .terminal .name

/-- One of some marks. -/
def anyMark (marks : List String) : Phrase Rule :=
  .choice (marks.map mark)

/-- A phrase with commas in between. -/
def commas (p : Phrase Rule) : Phrase Rule :=
  .separated (mark ",") p

/-- An alternative that comes to an expression. -/
def gives (parts : List (Phrase Rule)) (build : List Node → Expression) : Alternative Rule :=
  { parts, outcome := fun _ nodes => .node (.expression (build nodes)) }

/-- An alternative that comes to an expression of which only the kind is of interest. -/
def isKind (parts : List (Phrase Rule)) (kind : String) : Alternative Rule :=
  gives parts fun _ => .other kind

/-- An alternative that comes to what its parts give. -/
def gathers (parts : List (Phrase Rule)) (build : List Node → Node) : Alternative Rule :=
  { parts, outcome := fun _ nodes => .node (build nodes) }

/-- An alternative of which only the presence is of interest. -/
def present (parts : List (Phrase Rule)) : Alternative Rule :=
  gathers parts fun _ => .nothing

/-- An alternative that comes to what a phrase gives. -/
def passes (p : Phrase Rule) : Alternative Rule :=
  gathers [p] fun nodes => nodes.head?.getD .nothing

/-- An alternative that only describes what is wrong. -/
def hints (r : Rule) : Alternative Rule :=
  { present [r.ref] with hint := true }

/-- An alternative that is a fault. -/
def faults (parts : List (Phrase Rule)) (fault : GrammarFault) : Alternative Rule :=
  { parts, outcome := fun _ _ => .fault fault }

/-- An alternative that may be a fault, depending on what its parts give. -/
def mayFault (parts : List (Phrase Rule)) (fault? : List Node → Option GrammarFault) :
    Alternative Rule :=
  { parts, outcome := fun _ nodes => ((fault? nodes).map Outcome.fault).getD .refusal }

/-! ## What parts give -/

namespace Node

/-- The expression of a node. -/
def toExpression : Node → Expression
  | expression e => e
  | token t =>
    match t.kind with
    | .name text => .name text
    | .number n => .number n
    | _ => .other ""
  | _ => .other ""

/-- The nodes of a list. -/
def toList : Node → List Node
  | list nodes => nodes
  | _ => []

/-- The expressions of a list. -/
def toExpressions (n : Node) : List Expression :=
  n.toList.map toExpression

/-- The quoted texts of a list. -/
def toTokens (n : Node) : List Token :=
  n.toList.filterMap fun node =>
    match node with
    | token t => some t
    | _ => none

/-- The argument by name that a node is. -/
def keyword? : Node → Option Bool
  | keyword unpacked => some unpacked
  | _ => none

end Node

/-- The first expression of some nodes. -/
def firstExpression (nodes : List Node) : Expression :=
  (nodes.head?.getD .nothing).toExpression

/-- The node at a place among some nodes. -/
def nodeAt (nodes : List Node) (i : Nat) : Node :=
  (nodes[i]?).getD .nothing

/-- The expression at a place among some nodes. -/
def expressionAt (nodes : List Node) (i : Nat) : Expression :=
  (nodeAt nodes i).toExpression

/-- A call of what is not known yet with the given arguments. -/
def callWith (arguments : List Node) : Expression :=
  let keywords := arguments.filterMap Node.keyword?
  .call (.name "") (arguments.length - keywords.length) keywords

/-- The call of an expression, given a call of what is not known yet. -/
def callOf (callee arguments : Expression) : Expression :=
  match arguments with
  | .call _ positional unpacks => .call callee positional unpacks
  | _ => .call callee 0 []

/-- Whether an expression is a word that was once followed by what it writes or runs. -/
def isLegacyWord (e : Expression) : Bool :=
  match e with
  | .name text => text == "print" || text == "exec"
  | _ => false

/-! ## The rules -/

open Rule

/-- An argument by position: what is starred, or an expression without an equals sign after it. -/
def positionalArgument : Phrase Rule :=
  .choice [ref starred,
    .sequence [
      .choice [ref assignment, .sequence [ref expression, .notAhead (mark ":=")]],
      .notAhead (mark "=")]]

/-- Operators between operands of the next rule, from left to right. -/
def leftToRight (r next : Rule) (operators : List String) : Definition Rule where
  alternatives :=
    operators.map (fun o => isKind [ref r, mark o, ref next] "expression") ++ [passes (ref next)]
  keeping := .growing

/-- Words between operands of the next rule. -/
def chained (next : Rule) (operator : String) : Definition Rule where
  alternatives := [
    isKind [ref next, .atLeastOne (.sequence [word operator, ref next])] "expression",
    passes (ref next)]
  keeping := .remembered

/-- A parameter of a nameless function with what follows it. -/
def parameterWith (parts : List (Phrase Rule)) : Definition Rule where
  alternatives := [
    present (anyName :: parts ++ [mark ","]),
    present (anyName :: parts ++ [.ahead (mark ":")])]

/-- The alternatives that describe faults in the parameters of a nameless function. -/
def parameterFaults (cases : List (List (Phrase Rule) × ParameterFault)) : Definition Rule where
  alternatives := cases.map fun c => faults c.1 (.parameter c.2)

/-- The value of a number that is not too long. -/
def numberOutcome (n : Numeral) : Outcome :=
  match n with
  | .oversized digits => .fault (.digits (.reading digits))
  | _ => .node (.expression (.number n))

/-- What a number comes to. -/
def numbers : Alternative Rule where
  parts := [.terminal .number]
  outcome := fun _ nodes =>
    match firstExpression nodes with
    | .number n => numberOutcome n
    | e => .node (.expression e)

/-- What quoted texts come to, given how the expressions in them are read. -/
def textRun (embed : Embedding) (inFormatted : Bool) : Alternative Rule where
  parts := [.atLeastOne (.terminal .text)]
  outcome := fun _ nodes =>
    match readTexts embed inFormatted (nodeAt nodes 0).toTokens with
    | .ok e => .node (.expression e)
    | .error fault => .failure fault

/-- Two expressions without a comma between them, inside brackets. -/
def neighbours : Alternative Rule where
  parts := [
    .notAhead (.choice [.sequence [anyName, .terminal .text], .terminal .contextual]),
    ref disjunction, ref quietExpression]
  outcome := fun depth nodes =>
    if isLegacyWord (expressionAt nodes 1) || depth = 0 then .refusal else .fault .missingComma

/-- The definitions of the rules, given how the expressions in formatted texts are read. -/
def define (embed : Embedding) (inFormatted : Bool) : Rule → Definition Rule
  | whole => {
    alternatives := [
      gathers [ref expressions, .many (.terminal .lineEnd), .terminal .finish]
        fun nodes => nodeAt nodes 0] }
  | embedded => { alternatives := [passes (ref starExpressions)] }
  | expressions => {
    alternatives := [
      gives [ref expression, .atLeastOne (.sequence [mark ",", ref expression]),
          .optional (mark ",")]
        fun nodes =>
          .tuple (expressionAt nodes 0
            :: (unseparated (nodeAt nodes 1).toList).map Node.toExpression),
      gives [ref expression, mark ","] fun nodes => .tuple [expressionAt nodes 0],
      passes (ref expression)] }
  | expression => {
    alternatives := [
      hints faultyExpression,
      hints faultyCall,
      isKind [ref disjunction, word "if", ref disjunction, word "else", ref expression]
        "conditional expression",
      passes (ref disjunction),
      passes (ref function)]
    keeping := .remembered }
  | yielded => {
    alternatives := [
      isKind [word "yield", word "from", ref expression] "yield expression",
      isKind [word "yield", .optional (ref starExpressions)] "yield expression"] }
  | starExpressions => {
    alternatives := [
      gives [ref starExpression, .atLeastOne (.sequence [mark ",", ref starExpression]),
          .optional (mark ",")]
        fun nodes =>
          .tuple (expressionAt nodes 0
            :: (unseparated (nodeAt nodes 1).toList).map Node.toExpression),
      gives [ref starExpression, mark ","] fun nodes => .tuple [expressionAt nodes 0],
      passes (ref starExpression)] }
  | starExpression => {
    alternatives := [
      gives [mark "*", ref bitwiseOr] fun nodes => .starred (expressionAt nodes 1),
      passes (ref expression)]
    keeping := .remembered }
  | starNamedExpressions => {
    alternatives := [
      gathers [commas (ref starNamedExpression), .optional (mark ",")]
        fun nodes => nodeAt nodes 0] }
  | starNamedExpression => {
    alternatives := [
      gives [mark "*", ref bitwiseOr] fun nodes => .starred (expressionAt nodes 1),
      passes (ref namedExpression)] }
  | assignment => {
    alternatives := [
      isKind [anyName, mark ":=", .commit, ref expression] "named expression"] }
  | namedExpression => {
    alternatives := [
      passes (ref assignment),
      hints faultyNamed,
      gathers [ref expression, .notAhead (mark ":=")] fun nodes => nodeAt nodes 0] }
  | disjunction => chained conjunction "or"
  | conjunction => chained inversion "and"
  | inversion => {
    alternatives := [
      isKind [word "not", ref inversion] "expression",
      passes (ref comparison)]
    keeping := .remembered }
  | comparison => {
    alternatives := [
      gives [ref bitwiseOr, .atLeastOne (ref comparisonPair)] fun nodes =>
        let first := firstExpression (nodeAt nodes 1).toList
        .comparison (first matches .name "in") (expressionAt nodes 0),
      passes (ref bitwiseOr)] }
  | comparisonPair => {
    alternatives :=
      let operators := ["==", "!=", "<=", "<", ">=", ">"]
      (operators.map fun o => gathers [mark o, ref bitwiseOr] fun nodes => nodeAt nodes 0)
        ++ ([["not", "in"], ["in"], ["is", "not"], ["is"]].map fun words =>
          gathers (words.map word ++ [ref bitwiseOr]) fun nodes => nodeAt nodes 0) }
  | bitwiseOr => leftToRight bitwiseOr bitwiseXor ["|"]
  | bitwiseXor => leftToRight bitwiseXor bitwiseAnd ["^"]
  | bitwiseAnd => leftToRight bitwiseAnd shift ["&"]
  | shift => leftToRight shift sum ["<<", ">>"]
  | sum => {
    alternatives := [
      gives [ref sum, mark "+", ref term] fun nodes =>
        .sum (expressionAt nodes 0) (expressionAt nodes 2),
      gives [ref sum, mark "-", ref term] fun nodes =>
        .sum (expressionAt nodes 0) (expressionAt nodes 2),
      passes (ref term)]
    keeping := .growing }
  | term => leftToRight term factor ["*", "/", "//", "%", "@"]
  | factor => {
    alternatives := [
      gives [mark "+", ref factor] fun nodes => .signed (expressionAt nodes 1),
      gives [mark "-", ref factor] fun nodes => .signed (expressionAt nodes 1),
      isKind [mark "~", ref factor] "expression",
      passes (ref power)]
    keeping := .remembered }
  | power => {
    alternatives := [
      isKind [ref awaited, mark "**", ref factor] "expression",
      passes (ref awaited)] }
  | awaited => {
    alternatives := [
      isKind [word "await", ref primary] "await expression",
      passes (ref primary)]
    keeping := .remembered }
  | primary => {
    alternatives := [
      isKind [ref primary, mark ".", anyName] "attribute",
      gives [ref primary, ref generator] fun nodes => .call (expressionAt nodes 0) 1 [],
      gives [ref primary, mark "(", .optional (ref arguments), mark ")"] fun nodes =>
        callOf (expressionAt nodes 0) (expressionAt nodes 2),
      passes (ref atom)]
    keeping := .growing }
  | atom => {
    alternatives := [
      gives [anyName] firstExpression,
      gives [word "True"] fun _ => .constant "True",
      gives [word "False"] fun _ => .constant "False",
      gives [word "None"] fun _ => .constant "None",
      gathers [.ahead (.terminal .text), ref texts] fun nodes => nodeAt nodes 1,
      numbers,
      gathers [.ahead (mark "("), .choice [ref tuple, ref group, ref generator]]
        fun nodes => nodeAt nodes 1,
      gathers [.ahead (mark "\x7b"), .choice [ref dictionary, ref setDisplay,
          ref dictionaryComprehension, ref setComprehension]]
        fun nodes => nodeAt nodes 1,
      gives [mark "..."] fun _ => .ellipsis] }
  | group => {
    alternatives := [
      gathers [mark "(", .choice [ref yielded, ref namedExpression], mark ")"]
        fun nodes => nodeAt nodes 1,
      hints faultyGroup] }
  | function => {
    alternatives := [
      isKind [word "lambda", .optional (ref parameters), mark ":", ref expression] "lambda"] }
  | parameters => {
    alternatives := [hints faultyParameters, passes (ref parameterList)] }
  | parameterList => {
    alternatives :=
      let star := .optional (ref starParameters)
      [ present [ref slashPlain, .many (ref plainParameter), .many (ref defaultParameter), star],
        present [ref slashDefault, .many (ref defaultParameter), star],
        present [.atLeastOne (ref plainParameter), .many (ref defaultParameter), star],
        present [.atLeastOne (ref defaultParameter), star],
        present [ref starParameters]] }
  | slashPlain => {
    alternatives := [
      present [.atLeastOne (ref plainParameter), mark "/", mark ","],
      present [.atLeastOne (ref plainParameter), mark "/", .ahead (mark ":")]] }
  | slashDefault => {
    alternatives := [
      present [.many (ref plainParameter), .atLeastOne (ref defaultParameter), mark "/", mark ","],
      present [.many (ref plainParameter), .atLeastOne (ref defaultParameter), mark "/",
        .ahead (mark ":")]] }
  | starParameters => {
    alternatives :=
      let last := .optional (ref doubleStarParameter)
      [ hints faultyStar,
        present [mark "*", ref plainParameter, .many (ref anyParameter), last],
        present [mark "*", mark ",", .atLeastOne (ref anyParameter), last],
        present [ref doubleStarParameter]] }
  | doubleStarParameter => {
    alternatives := [
      hints faultyDoubleStar,
      present [mark "**", ref plainParameter]] }
  | plainParameter => parameterWith []
  | defaultParameter => parameterWith [ref defaultValue]
  | anyParameter => parameterWith [.optional (ref defaultValue)]
  | defaultValue => {
    alternatives := [present [mark "=", ref expression], hints faultyDefault] }
  | texts => { alternatives := [textRun embed inFormatted], keeping := .remembered }
  | tuple => {
    alternatives := [
      gives [mark "(",
          .optional (.sequence [ref starNamedExpression, mark ",",
            .optional (ref starNamedExpressions)]),
          mark ")"]
        fun nodes =>
          let items := (nodeAt nodes 1).toList
          .tuple ((items.take 1).map Node.toExpression ++ (nodeAt items 2).toExpressions)] }
  | setDisplay => {
    alternatives := [
      gives [mark "\x7b", ref starNamedExpressions, mark "\x7d"] fun nodes =>
        .set (nodeAt nodes 1).toExpressions] }
  | dictionary => {
    alternatives := [
      gives [mark "\x7b",
          .optional (.sequence [commas (ref entry), .optional (mark ",")]),
          mark "\x7d"]
        fun nodes => .dictionary (nodeAt (nodeAt nodes 1).toList 0).toExpressions,
      present [mark "\x7b", ref faultyEntries, mark "\x7d"]] }
  | entry => {
    alternatives := [
      gives [mark "**", ref bitwiseOr] fun nodes => .spread (expressionAt nodes 1),
      passes (ref pair)] }
  | pair => {
    alternatives := [
      gives [ref expression, mark ":", ref expression] fun nodes =>
        .entry (expressionAt nodes 0) (expressionAt nodes 2)] }
  | loops => { alternatives := [present [.atLeastOne (ref loop)]] }
  | loop => {
    alternatives :=
      let conditions := .many (.sequence [word "if", ref disjunction])
      [ present [word "async", word "for", ref targets, word "in", .commit, ref disjunction,
          conditions],
        present [word "for", ref targets, word "in", .commit, ref disjunction, conditions],
        hints faultyLoop] }
  | generator => {
    alternatives := [
      isKind [mark "(",
          .choice [ref assignment, .sequence [ref expression, .notAhead (mark ":=")]],
          ref loops, mark ")"]
        "generator expression",
      hints faultyComprehension] }
  | setComprehension => {
    alternatives := [
      isKind [mark "\x7b", ref namedExpression, ref loops, mark "\x7d"] "set comprehension",
      hints faultyComprehension] }
  | dictionaryComprehension => {
    alternatives := [
      isKind [mark "\x7b", ref pair, ref loops, mark "\x7d"] "dict comprehension",
      hints faultyDictionaryComprehension] }
  | arguments => {
    alternatives := [
      gathers [ref argumentList, .optional (mark ","), .ahead (mark ")")]
        fun nodes => nodeAt nodes 0,
      hints faultyArguments]
    keeping := .remembered }
  | argumentList => {
    alternatives := [
      gives [commas positionalArgument, .optional (.sequence [mark ",", ref keywordArguments])]
        fun nodes =>
          callWith ((nodeAt nodes 0).toList ++ (nodeAt (nodeAt nodes 1).toList 1).toList),
      gives [ref keywordArguments] fun nodes => callWith (nodeAt nodes 0).toList] }
  | keywordArguments => {
    alternatives := [
      gathers [commas (ref keywordOrStarred), mark ",", commas (ref keywordOrSpread)]
        fun nodes => .list ((nodeAt nodes 0).toList ++ (nodeAt nodes 2).toList),
      passes (commas (ref keywordOrStarred)),
      passes (commas (ref keywordOrSpread))] }
  | starred => {
    alternatives := [
      gives [mark "*", ref expression] fun nodes => .starred (expressionAt nodes 1)] }
  | keywordOrStarred => {
    alternatives := [
      hints faultyKeyword,
      gathers [anyName, mark "=", ref expression] fun _ => .keyword false,
      passes (ref starred)] }
  | keywordOrSpread => {
    alternatives := [
      hints faultyKeyword,
      gathers [anyName, mark "=", ref expression] fun _ => .keyword false,
      gathers [mark "**", ref expression] fun _ => .keyword true] }
  | targets => {
    alternatives := [
      present [ref target, .notAhead (mark ",")],
      present [ref target, .many (.sequence [mark ",", ref target]), .optional (mark ",")]] }
  | targetTuple => {
    alternatives := [
      present [ref target, .atLeastOne (.sequence [mark ",", ref target]), .optional (mark ",")],
      present [ref target, mark ","]] }
  | target => {
    alternatives := [
      present [mark "*", .notAhead (mark "*"), ref target],
      passes (ref qualifiedTarget)]
    keeping := .remembered }
  | qualifiedTarget => {
    alternatives := [
      present [ref targetPrimary, mark ".", anyName, .notAhead (anyMark ["(", "[", "."])],
      passes (ref targetAtom)]
    keeping := .remembered }
  | targetAtom => {
    alternatives := [
      present [anyName],
      present [mark "(", ref qualifiedTarget, mark ")"],
      present [mark "(", .optional (ref targetTuple), mark ")"]] }
  | targetPrimary => {
    alternatives :=
      let more := .ahead (anyMark ["(", "[", "."])
      [ present [ref targetPrimary, mark ".", anyName, more],
        present [ref targetPrimary, ref generator, more],
        present [ref targetPrimary, mark "(", .optional (ref arguments), mark ")", more],
        present [ref atom, more]]
    keeping := .growing }
  | quietExpression => {
    alternatives := [
      isKind [ref disjunction, word "if", ref disjunction, word "else", ref expression]
        "conditional expression",
      passes (ref disjunction),
      passes (ref function)]
    silent := true }
  | faultyExpression => {
    alternatives := [
      neighbours,
      faults [ref disjunction, word "if", ref disjunction,
          .notAhead (.choice [word "else", mark ":"])]
        .missingElse] }
  | faultyCall => {
    alternatives := [
      mayFault [anyName, .notAhead (mark "("), ref starExpressions] fun nodes =>
        match firstExpression nodes with
        | .name text =>
          if isLegacyWord (.name text) then some (.bareCall text) else none
        | _ => none] }
  | faultyNamed => {
    alternatives :=
      let noSecond := .notAhead (anyMark ["=", ":="])
      [ mayFault [ref expression, mark ":=", ref expression] fun nodes =>
          some (.inlineAssignment (firstExpression nodes).kind),
        faults [anyName, mark "=", ref bitwiseOr, noSecond] .assignment,
        mayFault [
            .notAhead (.choice [ref tuple, ref generator, word "True", word "None", word "False"]),
            ref bitwiseOr, mark "=", ref bitwiseOr, noSecond]
          fun nodes => some (.assignmentTo (expressionAt nodes 1).kind)]
    keeping := .remembered }
  | faultyArguments => {
    alternatives := [
      faults [ref argumentList, mark ",", mark "*"] .unpackingOrder,
      faults [ref expression, ref loops, mark ",",
          .optional (.choice [ref argumentList, .sequence [ref expression, ref loops]])]
        .bareGenerator,
      faults [anyName, mark "=", ref expression, ref loops] .assignment,
      mayFault [ref argumentList, ref loops] fun nodes =>
        match firstExpression nodes with
        | .call _ positional _ => if positional ≤ 1 then none else some .bareGenerator
        | _ => none,
      faults [ref argumentList, mark ",", ref expression, ref loops] .bareGenerator,
      mayFault [ref argumentList, mark ",", ref argumentList] fun nodes =>
        match firstExpression nodes with
        | .call _ _ unpacks => some (.argumentOrder (unpacks.any id))
        | _ => none] }
  | faultyKeyword => {
    alternatives := [
      mayFault [.choice [word "True", word "False", word "None"], mark "="] fun nodes =>
        match firstExpression nodes with
        | .name text => some (.noTarget text)
        | _ => none,
      faults [anyName, mark "=", ref expression, ref loops] .assignment,
      faults [.notAhead (.sequence [anyName, mark "="]), ref expression, mark "="]
        .argumentAssignment] }
  | faultyComprehension => {
    alternatives := [
      faults [anyMark ["[", "(", "\x7b"], ref starred, ref loops] .starredComprehension,
      faults [anyMark ["[", "\x7b"], ref starNamedExpression, mark ",", ref starNamedExpressions,
          ref loops]
        .bareComprehension,
      faults [anyMark ["[", "\x7b"], ref starNamedExpression, mark ",", ref loops]
        .bareComprehension] }
  | faultyDictionaryComprehension => {
    alternatives := [
      faults [mark "\x7b", mark "**", ref bitwiseOr, ref loops, mark "\x7d"]
        .spreadComprehension] }
  | faultyParameters =>
    let slash := .choice [ref slashPlain, ref slashDefault]
    parameterFaults [
      ([.many (ref plainParameter), ref faultyDefaults, ref plainParameter], .order),
      ([.many (ref plainParameter), mark "(", commas anyName, .optional (mark ","), mark ")"],
        .brackets),
      ([mark "/", mark ","], .leadingSlash),
      ([slash, .many (ref anyParameter), mark "/"], .secondSlash),
      ([.optional slash, .many (ref anyParameter), mark "*",
          .choice [mark ",", ref plainParameter], .many (ref anyParameter), mark "/"],
        .slashAfterStar),
      ([.atLeastOne (ref anyParameter), mark "/", mark "*"], .missingComma)]
  | faultyDefaults => {
    alternatives := [
      present [ref slashDefault],
      present [.atLeastOne (ref defaultParameter)]] }
  | faultyStar =>
    parameterFaults [
      ([mark "*", .choice [mark ":", .sequence [mark ",", .choice [mark ":", mark "**"]]]],
        .bareStar),
      ([mark "*", anyName, mark "="], .starDefault),
      ([mark "*", .choice [ref plainParameter, mark ","], .many (ref anyParameter), mark "*",
          .choice [ref plainParameter, mark ","]],
        .secondStar)]
  | faultyDoubleStar =>
    parameterFaults [
      ([mark "**", anyName, mark "="], .doubleStarDefault),
      ([mark "**", anyName, mark ",", anyName], .afterDoubleStar),
      ([mark "**", anyName, mark ",", anyMark ["*", "**", "/"]], .afterDoubleStar)]
  | faultyDefault =>
    parameterFaults [([mark "=", .ahead (anyMark [")", ","])], .missingDefault)]
  | faultyLoop => {
    alternatives := [
      mayFault [.optional (word "async"), word "for", ref starExpressions] fun nodes =>
        (expressionAt nodes 2).misplacedTarget?.map fun e => .noTarget e.kind] }
  | faultyGroup => {
    alternatives := [
      faults [mark "(", ref starred, mark ")"] (.starred false),
      faults [mark "(", mark "**", ref expression, mark ")"] (.starred true)] }
  | faultyEntries => {
    alternatives := [
      present [commas (ref entry), mark ",", ref faultyPair],
      faults [ref expression, mark ":", mark "*", ref bitwiseOr] .starredValue,
      faults [ref expression, mark ":", .ahead (anyMark ["\x7d", ","])] .missingValue] }
  | faultyPair => {
    alternatives := [
      faults [ref expression, .notAhead (mark ":")] .missingColon,
      faults [ref expression, mark ":", mark "*", ref bitwiseOr] .starredValue,
      faults [ref expression, mark ":", .ahead (anyMark ["\x7d", ","])] .missingValue] }

end BindingAudit.Action
