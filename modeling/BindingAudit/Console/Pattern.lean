import BindingAudit.Console.StyledText
import BindingAudit.Text.WordChar

/-!
# Patterns

Patterns that find stretches of a text and say how these look.  Alternatives are tried in order
and repetitions take as much or as little as they can, so a pattern fits a text in at most one
way, the first that is found.

* `match?` fits a pattern at one place of a text.
* `findAll` fits it wherever it fits, from the left, and gives the stretches it marks.
-/

namespace BindingAudit

/-- A pattern. -/
inductive Pattern where
  /-- The empty text. -/
  | empty
  /-- One character of a class. -/
  | one (holds : Char → Bool)
  | seq (first second : Pattern)
  /-- The first pattern, or else the second. -/
  | either (first second : Pattern)
  /-- From `least` up to `most` copies, as many as possible if `greedy`.  The body fits no empty
  text. -/
  | many (least : Nat) (most : Option Nat) (greedy : Bool) (body : Pattern)
  /-- A stretch that gets a style. -/
  | marked (style : String) (body : Pattern)
  /-- No character of a class in front. -/
  | notAfter (holds : Char → Bool)
  /-- The edge of a word, or, with `false`, any other place. -/
  | edge (holds : Bool)

namespace Pattern

/-- A place in a text. -/
structure Place where
  /-- The characters before it, in reverse. -/
  before : List Char
  rest : List Char
  index : Nat
  /-- The stretches marked so far, in reverse. -/
  marks : List Stretch

/-- The place at the start of a text. -/
def Place.start (cs : List Char) : Place :=
  ⟨[], cs, 0, []⟩

/-- The place after a character, where the rest is given. -/
def Place.after (p : Place) (c : Char) (rest : List Char) : Place :=
  { p with before := c :: p.before, rest, index := p.index + 1 }

/-- The place after the next character. -/
def Place.next? (p : Place) : Option Place :=
  match p.rest with
  | [] => none
  | c :: rest => some (p.after c rest)

/-- Whether one side of a place is part of a word and the other is not. -/
def Place.atEdge (p : Place) : Bool :=
  p.before.head?.any Text.isWordCharacter != p.rest.head?.any Text.isWordCharacter

/-- Fit copies of a pattern, given how one is fitted, and go on.  `bound` is how many there may
be. -/
def fitMany (fit : (Place → Option Place) → Place → Option Place) (greedy : Bool)
    (go : Place → Option Place) : Nat → Nat → Place → Option Place
  | least, 0, p => if least = 0 then go p else none
  | least + 1, bound + 1, p => fit (fitMany fit greedy go least bound) p
  | 0, bound + 1, p =>
    if greedy then
      match fit (fitMany fit greedy go 0 bound) p with
      | some found => some found
      | none => go p
    else
      match go p with
      | some found => some found
      | none => fit (fitMany fit greedy go 0 bound) p

/-- Fit a pattern at a place and go on from where it ends; if that fails, fit it in the next
way. -/
def fit : Pattern → (Place → Option Place) → Place → Option Place
  | .empty, go, p => go p
  | .one holds, go, p =>
    match p.rest with
    | [] => none
    | c :: rest => if holds c then go (p.after c rest) else none
  | .seq first second, go, p => first.fit (second.fit go) p
  | .either first second, go, p =>
    match first.fit go p with
    | some found => some found
    | none => second.fit go p
  | .many least most greedy body, go, p =>
    fitMany body.fit greedy go least (most.getD p.rest.length) p
  | .marked style body, go, p =>
    body.fit
      (fun q => go { q with marks := ⟨p.index, q.index, style⟩ :: q.marks }) p
  | .notAfter holds, go, p => if p.before.head?.any holds then none else go p
  | .edge holds, go, p => if p.atEdge = holds then go p else none

/-- Where a pattern ends that is fitted at a place. -/
def match? (pattern : Pattern) (p : Place) : Option Place :=
  pattern.fit some p

/-- The stretches that a pattern marks from a place on.  `fuel` bounds the number of steps. -/
def findFrom (pattern : Pattern) : Nat → Place → List Stretch
  | 0, _ => []
  | fuel + 1, p =>
    match pattern.match? { p with marks := [] }, p.next? with
    | some found, some next =>
      if p.index < found.index then
        (found.marks.filter fun s => s.start < s.stop).reverse ++ findFrom pattern fuel found
      else findFrom pattern fuel next
    | none, some next => findFrom pattern fuel next
    | _, none => []

/-- The stretches that a pattern marks in a text. -/
def findAll (pattern : Pattern) (cs : List Char) : List Stretch :=
  findFrom pattern (cs.length + 1) (Place.start cs)

/-! ## Common patterns -/

/-- Patterns one after another. -/
def all : List Pattern → Pattern
  | [] => .empty
  | [last] => last
  | first :: rest => .seq first (all rest)

/-- The first of several patterns that fits. -/
def any : Pattern → List Pattern → Pattern
  | first, [] => first
  | first, second :: rest => .either first (any second rest)

/-- One of the given characters. -/
def oneOf (chars : String) : Pattern :=
  .one chars.toList.contains

/-- A fixed text. -/
def word (text : String) : Pattern :=
  all (text.toList.map fun c => .one (· == c))

/-- A pattern or nothing. -/
def optional (body : Pattern) : Pattern :=
  .many 0 (some 1) true body

/-- As many copies as possible. -/
def star (body : Pattern) : Pattern :=
  .many 0 none true body

/-- As many copies as possible, and at least one. -/
def plus (body : Pattern) : Pattern :=
  .many 1 none true body

/-- As few copies as possible. -/
def lazyStar (body : Pattern) : Pattern :=
  .many 0 none false body

/-- As many copies as possible within bounds. -/
def between (least most : Nat) (body : Pattern) : Pattern :=
  .many least (some most) true body

end Pattern

end BindingAudit
