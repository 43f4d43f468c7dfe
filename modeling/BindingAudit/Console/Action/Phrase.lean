import BindingAudit.Console.Action.Expression
import BindingAudit.Console.Action.Fault
import Std.Data.HashMap

/-!
# Phrases

The language in which the rules for expressions are written, and how rules are followed.  A rule
has alternatives, which are tried in order, and the first that fits counts.  A rule may start with
itself; then it takes up as much as it can, from left to right.

* `Phrase` is what a stretch of tokens may look like.
* `Definition` is a rule: its alternatives and how they are followed.
* `Phrase.follow` follows a phrase through the tokens.

Some alternatives describe what is wrong.  They are looked at only where the state asks for hints.
What a rule gives at a place is remembered for the rules that say so, and not found anew, even if
hints are asked for by then.
-/

namespace BindingAudit.Action

/-- What a single token has to be. -/
inductive Terminal where
  | name
  /-- A name that is the beginning of a word with a meaning in some places only. -/
  | contextual
  | number
  | text
  | word (text : String)
  | mark (chars : String)
  | lineEnd
  | finish
deriving DecidableEq, Repr

/-- The words with a meaning of their own. -/
def reserved : List String := [
  "False", "None", "True", "and", "as", "assert", "async", "await", "break", "class", "continue",
  "def", "del", "elif", "else", "except", "finally", "for", "from", "global", "if", "import", "in",
  "is", "lambda", "nonlocal", "not", "or", "pass", "raise", "return", "try", "while", "with",
  "yield"]

/-- The words with a meaning in some places only. -/
def contextualWords : List String := ["_", "case", "match"]

/-- Whether a token is of the kind that a terminal asks for. -/
def Terminal.fits (t : Terminal) (kind : TokenKind) : Bool :=
  match t, kind with
  | .name, .name n => !reserved.contains n
  | .contextual, .name n =>
    !reserved.contains n && contextualWords.any fun w => n.toList.isPrefixOf w.toList
  | .number, .number _ | .text, .text _ | .lineEnd, .lineEnd | .finish, .finish => true
  | .word w, .name n => w == n
  | .mark m, .mark chars => m == chars
  | _, _ => false

/-- What a stretch of tokens may look like, over rules with the given names. -/
inductive Phrase (ρ : Type) where
  | terminal (t : Terminal)
  | rule (r : ρ)
  /-- One phrase after the other. -/
  | sequence (parts : List (Phrase ρ))
  /-- The first of the phrases that fits. -/
  | choice (options : List (Phrase ρ))
  | optional (p : Phrase ρ)
  | many (p : Phrase ρ)
  | atLeastOne (p : Phrase ρ)
  /-- One or more phrases with separators between them. -/
  | separated (separator p : Phrase ρ)
  /-- A phrase that has to follow and is left there. -/
  | ahead (p : Phrase ρ)
  /-- A phrase that must not follow. -/
  | notAhead (p : Phrase ρ)
  /-- From here on no other alternative counts. -/
  | commit

/-- What a phrase gives. -/
inductive Node where
  | nothing
  | token (t : Token)
  | expression (e : Expression)
  /-- An argument by name, or the entries of a dictionary. -/
  | keyword (unpacked : Bool)
  | list (nodes : List Node)

/-- What an alternative that fits comes to. -/
inductive Outcome where
  | node (n : Node)
  /-- The rule does not fit after all. -/
  | refusal
  | fault (fault : GrammarFault)
  /-- A fault that was found elsewhere. -/
  | failure (fault : Fault)

/-- An alternative of a rule. -/
structure Alternative (ρ : Type) where
  parts : List (Phrase ρ)
  /-- What the alternative comes to, given the number of brackets open after its last token and
  what its parts give. -/
  outcome : Nat → List Node → Outcome
  /-- Whether the alternative only describes what is wrong. -/
  hint : Bool := false

/-- How the results of a rule are kept. -/
inductive Keeping where
  | forgotten
  | remembered
  /-- The rule starts with itself. -/
  | growing
deriving DecidableEq, Repr

/-- A rule. -/
structure Definition (ρ : Type) where
  alternatives : List (Alternative ρ)
  keeping : Keeping := .forgotten
  /-- Whether no hints are looked at within the rule. -/
  silent : Bool := false

/-! ## Following -/

/-- How far rules were followed. -/
structure State (ρ : Type) [BEq ρ] [Hashable ρ] where
  place : Nat := 0
  /-- How many tokens were looked at. -/
  seen : Nat := 0
  hints : Bool := false
  committed : Bool := false
  /-- What rules gave at places, with the place after it. -/
  memory : Std.HashMap (ρ × Nat) (Option Node × Nat) := {}

/-- Why following ends before the rules do. -/
inductive Halt where
  | lexical (fault : LexicalFault)
  | fault (fault : Fault)

section Following

variable {ρ : Type} [BEq ρ] [Hashable ρ]

/-- A step that may find a fault. -/
abbrev Follow (ρ : Type) [BEq ρ] [Hashable ρ] := ExceptT Halt (StateM (State ρ))

/-- Rules with the tokens they are followed through. -/
structure Course (ρ : Type) where
  rules : ρ → Definition ρ
  lexed : Lexed
  /-- Whether the tokens are those of an expression inside a formatted text. -/
  inFormatted : Bool

/-- Go to a place. -/
def goTo (place : Nat) : Follow ρ Unit :=
  modify fun s => { s with place }

/-- The token at the place that was reached. -/
def Course.token (c : Course ρ) : Follow ρ Token := do
  let s ← get
  match c.lexed.tokens[s.place]? with
  | some t =>
    if s.seen ≤ s.place then set { s with seen := s.place + 1 }
    return t
  | none => throw (.lexical (c.lexed.fault.getD .unfinished))

/-- Follow a terminal. -/
def Course.terminal (c : Course ρ) (t : Terminal) : Follow ρ (Option Node) := do
  let token ← c.token
  if t.fits token.kind then
    modify fun s => { s with place := s.place + 1 }
    return some (.token token)
  else return none

variable (follow : Phrase ρ → Follow ρ (Option Node))

/-- Follow a phrase, and stay in place if it does not fit. -/
def attempt (p : Phrase ρ) : Follow ρ (Option Node) := do
  let start := (← get).place
  let result ← follow p
  if result.isNone then goTo start
  return result

/-- Follow phrases one after the other. -/
def followAll : List (Phrase ρ) → Follow ρ (Option (List Node))
  | [] => return some []
  | p :: rest => do
    match ← follow p with
    | none => return none
    | some node => return (← followAll rest).map (node :: ·)

/-- Follow the first of some phrases that fits. -/
def followFirst : List (Phrase ρ) → Follow ρ (Option Node)
  | [] => return none
  | p :: rest => do
    match ← attempt follow p with
    | some node => return some node
    | none => followFirst rest

/-- Follow a phrase as often as it fits.  `fuel` bounds how often. -/
def followMany (p : Phrase ρ) : Nat → Follow ρ (List Node)
  | 0 => return []
  | fuel + 1 => do
    match ← attempt follow p with
    | some node => return node :: (← followMany p fuel)
    | none => return []

/-- What was given between separators. -/
def unseparated (nodes : List Node) : List Node :=
  nodes.map fun node =>
    match node with
    | .list [_, item] => item
    | other => other

/-- The number of brackets open after the last token before the place that was reached. -/
def Course.depth (c : Course ρ) : Follow ρ Nat := do
  return ((c.lexed.tokens[(← get).place - 1]?).map Token.depth).getD 0

/-- Follow the first of some alternatives that fits. -/
def Course.alternatives (c : Course ρ) : List (Alternative ρ) → Follow ρ (Option Node)
  | [] => return none
  | a :: rest => do
    let before ← get
    if a.hint && !before.hints then c.alternatives rest
    else
      set { before with committed := false }
      let nodes ← followAll follow a.parts
      let committed := (← get).committed
      modify fun s => { s with committed := before.committed }
      match nodes with
      | some nodes =>
        match a.outcome (← c.depth) nodes with
        | .node n => return some n
        | .refusal => return none
        | .fault fault => throw (.fault (.placed c.inFormatted (.grammar fault)))
        | .failure fault => throw (.fault fault)
      | none =>
        goTo before.place
        if committed then return none else c.alternatives rest

/-- Follow a rule that starts with itself: what it gave so far, up to a place, is what it starts
with, as long as that takes it further.  `fuel` bounds how often. -/
def Course.grow (c : Course ρ) (r : ρ) (start : Nat) :
    Nat → Option Node → Nat → Follow ρ (Option Node)
  | 0, result, reached => do
    goTo reached
    return result
  | fuel + 1, result, reached => do
    modify fun s =>
      { s with place := start, memory := s.memory.insert (r, start) (result, reached) }
    let next ← c.alternatives follow (c.rules r).alternatives
    let place := (← get).place
    if next.isSome && reached < place then c.grow r start fuel next place
    else
      goTo reached
      return result

/-- Follow the alternatives of a rule, with hints or without. -/
def Course.fresh (c : Course ρ) (r : ρ) : Follow ρ (Option Node) := do
  let hints := (← get).hints
  if (c.rules r).silent then modify fun s => { s with hints := false }
  let result ← c.alternatives follow (c.rules r).alternatives
  modify fun s => { s with hints }
  return result

/-- Follow a rule. -/
def Course.rule (c : Course ρ) (r : ρ) : Follow ρ (Option Node) := do
  let _ ← c.token
  let start := (← get).place
  match (c.rules r).keeping with
  | .forgotten => c.fresh follow r
  | keeping =>
    match (← get).memory[(r, start)]? with
    | some (result, place) =>
      goTo place
      return result
    | none =>
      if keeping = .growing then c.grow follow r start (c.lexed.tokens.size + 1) none start
      else
        let result ← c.fresh follow r
        modify fun s => { s with memory := s.memory.insert (r, start) (result, s.place) }
        return result

/-- Follow a phrase, given how the phrases in it are followed. -/
def Course.phrase (c : Course ρ) : Phrase ρ → Follow ρ (Option Node)
  | .terminal t => c.terminal t
  | .rule r => c.rule follow r
  | .sequence parts => do return (← followAll follow parts).map .list
  | .choice options => followFirst follow options
  | .optional p => do return some ((← attempt follow p).getD .nothing)
  | .many p => do return some (.list (← followMany follow p (c.lexed.tokens.size + 1)))
  | .atLeastOne p => do
    match ← followMany follow p (c.lexed.tokens.size + 1) with
    | [] => return none
    | nodes => return some (.list nodes)
  | .separated separator p => do
    match ← attempt follow p with
    | none => return none
    | some first =>
      let others ← followMany follow (.sequence [separator, p]) (c.lexed.tokens.size + 1)
      return some (.list (first :: unseparated others))
  | .ahead p => do
    let start := (← get).place
    let result ← follow p
    goTo start
    return result.map fun _ => .nothing
  | .notAhead p => do
    let start := (← get).place
    let result ← follow p
    goTo start
    return if result.isSome then none else some .nothing
  | .commit => do
    modify fun s => { s with committed := true }
    return some .nothing

end Following

/-- Follow a phrase.  `fuel` bounds how deep phrases stand in each other. -/
def Phrase.follow {ρ : Type} [BEq ρ] [Hashable ρ] (c : Course ρ) :
    Nat → Phrase ρ → Follow ρ (Option Node)
  | 0, _ => return none
  | fuel + 1, p => c.phrase (Phrase.follow c fuel) p

end BindingAudit.Action
