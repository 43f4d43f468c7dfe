import BindingAudit.Console.Action.Token

/-!
# Expressions of action parameters

What the parameters of an action are read as.  Only as much is kept of an expression as messages
tell about it and as its value depends on.

* `Expression.kind` names an expression in messages.
* `Expression.misplacedTarget?` is the part of a loop's target that cannot be assigned to.
* `Expression.evaluate` finds the value: constants, numbers with a sign, sums with an imaginary
  part, and tuples, sets and dictionaries of such.
-/

namespace BindingAudit.Action

/-- An expression. -/
inductive Expression where
  | name (text : String)
  /-- One of the words for truth, falsehood and nothing. -/
  | constant (word : String)
  | ellipsis
  | number (numeral : Numeral)
  | text
  | bytes
  | tuple (items : List Expression)
  | set (items : List Expression)
  | dictionary (entries : List Expression)
  /-- An entry of a dictionary. -/
  | entry (key value : Expression)
  /-- The entries of another dictionary. -/
  | spread (value : Expression)
  | starred (value : Expression)
  /-- A number with a sign, or what looks like one. -/
  | signed (operand : Expression)
  /-- A sum or a difference. -/
  | sum (left right : Expression)
  /-- A comparison, which may be a test for membership. -/
  | comparison (membership : Bool) (left : Expression)
  /-- A call with a number of arguments by position and one by name each; these may come from a
  dictionary. -/
  | call (callee : Expression) (positional : Nat) (unpacks : List Bool)
  | other (kind : String)
deriving Repr

namespace Expression

/-- What an expression is called in messages. -/
def kind : Expression → String
  | name _ => "name"
  | constant word => word
  | ellipsis => "ellipsis"
  | number _ | text | bytes => "literal"
  | tuple _ => "tuple"
  | set _ => "set display"
  | dictionary _ | entry _ _ | spread _ => "dict literal"
  | starred _ => "starred"
  | signed _ | sum _ _ => "expression"
  | comparison _ _ => "comparison"
  | call _ _ _ => "function call"
  | other kind => kind

/-- Whether a kind of expression can be assigned to. -/
def isTarget (e : Expression) : Bool :=
  e.kind == "name" || e.kind == "attribute"

mutual

/-- The first part of a loop's target that cannot be assigned to.  The target is read as an
expression, in which a test for membership stands for the word before what the loop runs
through. -/
def misplacedTarget? : Expression → Option Expression
  | tuple items => misplacedAmong? items
  | starred value => misplacedTarget? value
  | comparison membership left => if membership then misplacedTarget? left else none
  | e => if e.isTarget then none else some e

/-- The first part among expressions that cannot be assigned to. -/
def misplacedAmong? : List Expression → Option Expression
  | [] => none
  | e :: rest => (misplacedTarget? e).or (misplacedAmong? rest)

end

/-! ## Values -/

/-- Why an expression has no value. -/
inductive ValueFault where
  /-- A key, or a member of a set, of a kind that cannot be one. -/
  | unhashable (kind : String)
  /-- The entries of another dictionary, which have no key. -/
  | missingKey
  /-- An integer too large to add an imaginary part to. -/
  | overflow
  /-- An expression of a kind that has no value.  Which one it is, messages tell by its place in
  memory, which no two runs share. -/
  | malformed
deriving DecidableEq, Repr

/-- The wording of a fault. -/
def ValueFault.message : ValueFault → String
  | .unhashable kind => "unhashable type: '" ++ kind ++ "'"
  | .missingKey => "malformed node or string: None"
  | .overflow => "int too large to convert to float"
  | .malformed => "malformed node or string"

/-- The least integer that is too large for a floating-point number. -/
def floatBound : Nat := Nat.pow 2 1024 - Nat.pow 2 970

/-- What a value is as far as later steps ask: for what kind it cannot be a key, if it cannot. -/
abbrev Shape := Option String

/-- Check that a value may be a key. -/
def checkKey (shape : Shape) : Except ValueFault Unit :=
  match shape with
  | some kind => .error (.unhashable kind)
  | none => .ok ()

/-- The number of an expression. -/
def toNumeral : Expression → Except ValueFault Numeral
  | number n => .ok n
  | _ => .error .malformed

/-- The number of an expression that may have a sign. -/
def toSigned : Expression → Except ValueFault Numeral
  | signed operand => operand.toNumeral
  | e => e.toNumeral

/-- Check a sum: an imaginary number added to one that is not. -/
def checkSum (left right : Numeral) : Except ValueFault Shape :=
  match left, right with
  | .integer n, .imaginary => if floatBound ≤ n then .error .overflow else .ok none
  | .real, .imaginary => .ok none
  | _, _ => .error .malformed

mutual

/-- Find the value of an expression. -/
def evaluate : Expression → Except ValueFault Shape
  | constant _ | ellipsis | number _ | text | bytes => .ok none
  | tuple items => evaluateItems items
  | set items => do
    evaluateMembers items
    return some "set"
  | dictionary entries => do
    evaluateMembers entries
    return some "dict"
  | entry key value => do
    let shape ← evaluate key
    let _ ← evaluate value
    return shape
  | spread _ => .error .missingKey
  | call (.name callee) 0 [] => if callee = "set" then .ok (some "set") else .error .malformed
  | sum left right => do checkSum (← left.toSigned) (← right.toNumeral)
  | signed operand => do
    let _ ← operand.toNumeral
    return none
  | name _ | starred _ | comparison _ _ | call _ _ _ | other _ => .error .malformed

/-- Find the values of the items of a tuple; the first of them that cannot be a key counts. -/
def evaluateItems : List Expression → Except ValueFault Shape
  | [] => .ok none
  | e :: rest => do
    let shape ← evaluate e
    return shape.or (← evaluateItems rest)

/-- Find the values of the members of a set or the entries of a dictionary, each of which has to be
one that may be a key before the next is looked at. -/
def evaluateMembers : List Expression → Except ValueFault Unit
  | [] => .ok ()
  | e :: rest => do
    checkKey (← evaluate e)
    evaluateMembers rest

end

end Expression

end BindingAudit.Action
