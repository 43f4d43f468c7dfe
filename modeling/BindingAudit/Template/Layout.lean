import BindingAudit.Number.Binary64
import BindingAudit.Template.Error
import BindingAudit.Text.Digit

/-!
# Layouts of template values

The layout of a field: how a text or a number is cut, padded, signed and grouped.  Numbers in a
layout may be written with the digits of any script.
-/

namespace BindingAudit.Template

/-- The greatest number a template may write. -/
def maxNumber : Nat := 9223372036854775807

/-- Read the digits a text starts with, after those that make `n`: the number and the rest. -/
def digitsFrom (n : Nat) : List Char → Except TemplateError (Nat × List Char)
  | [] => .ok (n, [])
  | c :: rest =>
    match Text.digitValue? c with
    | none => .ok (n, c :: rest)
    | some d =>
      if maxNumber < n * 10 + d then .error .tooManyDigits else digitsFrom (n * 10 + d) rest

/-- Read the number a text starts with. -/
def leadingNumber (cs : List Char) : Except TemplateError (Option Nat × List Char) := do
  let (n, rest) ← digitsFrom 0 cs
  return (if rest.length = cs.length then none else some n, rest)

/-- A number written in decimal, if the text is one. -/
def number? (cs : List Char) : Except TemplateError (Option Nat) := do
  let (n, rest) ← leadingNumber cs
  return if rest.isEmpty then n else none

/-- How a value is laid out in a field. -/
structure Spec where
  fill : Char := ' '
  align : Char
  sign : Option Char := none
  noNegativeZero : Bool := false
  alternate : Bool := false
  width : Option Nat := none
  separator : Option Char := none
  precision : Option Nat := none
  kind : Char

/-- Whether a character asks for an alignment. -/
def isAlignment (c : Char) : Bool :=
  c == '<' || c == '>' || c == '=' || c == '^'

/-- Read a given character, if the text starts with it. -/
def flag (c : Char) (cs : List Char) : Bool × List Char :=
  match cs with
  | d :: rest => if c = d then (true, rest) else (false, cs)
  | [] => (false, cs)

/-- What a layout is for values of a kind if it does not say so. -/
structure Standard where
  /-- The name of the kind. -/
  name : String
  align : Char
  kind : Char

/-- What the layout of a text is if it does not say so. -/
def Standard.text : Standard := ⟨"str", '<', 's'⟩

/-- What the layout of a number is if it does not say so. -/
def Standard.number : Standard := ⟨"int", '>', 'd'⟩

/-- The alignment of a layout.  Zeros before a number go between its sign and its digits. -/
def Standard.alignment (std : Standard) (given : Option Char) (zeroFill : Bool) : Char :=
  given.getD (if zeroFill && std.align == '>' then '=' else std.align)

/-- Read a layout. -/
def readSpec (std : Standard) (cs : List Char) : Except TemplateError Spec := do
  let (fill, align, rest) :=
    match cs with
    | f :: a :: more =>
      if isAlignment a then (some f, some a, more)
      else if isAlignment f then (none, some f, a :: more)
      else (none, none, cs)
    | [a] => if isAlignment a then (none, some a, []) else (none, none, cs)
    | [] => (none, none, [])
  let (sign, rest) :=
    match rest with
    | s :: more => if s == ' ' || s == '+' || s == '-' then (some s, more) else (none, rest)
    | [] => (none, rest)
  let (noNegativeZero, rest) := flag 'z' rest
  let (alternate, rest) := flag '#' rest
  let (zeroFill, rest) := if fill.isNone then flag '0' rest else (false, rest)
  let (width, rest) ← leadingNumber rest
  let (comma, rest) := flag ',' rest
  let (underscore, rest) := flag '_' rest
  if underscore && (comma || rest.head? == some ',') then .error .bothSeparators
  else
    let (point, rest) := flag '.' rest
    let (precision, rest) ← if point then leadingNumber rest else pure (none, rest)
    if point && precision.isNone then .error .missingPrecision
    else
      let separator := if comma then some ',' else if underscore then some '_' else none
      let spec : Spec :=
        { fill := fill.getD (if zeroFill then '0' else ' ')
          align := std.alignment align zeroFill, kind := std.kind
          sign, noNegativeZero, alternate, width, separator, precision }
      match rest with
      | [] => return spec
      | [kind] => return { spec with kind }
      | _ => .error (.invalidSpec (String.ofList cs) std.name)

/-- The kinds that may go with a separator. -/
def allowsSeparator (separator kind : Char) : Bool :=
  "defgEG%F\x00".toList.contains kind || (separator == '_' && "boxX".toList.contains kind)

/-- The separator of a layout that does not go with its kind. -/
def Spec.separatorFault? (s : Spec) : Option TemplateError :=
  (s.separator.filter fun c => !allowsSeparator c s.kind).map fun c => .separatorWith c s.kind

/-- The first thing a layout asks for that a text cannot give. -/
def Spec.textFault? (s : Spec) : Option TemplateError :=
  s.separatorFault?.or <|
    if s.kind != 's' then some (.unknownCode s.kind "str")
    else
      match s.sign with
      | some ' ' => some .spaceNotAllowed
      | some _ => some .signNotAllowed
      | none =>
        if s.noNegativeZero then some .negativeZero
        else if s.alternate then some .alternateForm
        else if s.align == '=' then some .equalsAlignment
        else none

/-- Pad a text to the width. -/
def Spec.pad (s : Spec) (shown : List Char) : List Char :=
  let padding := s.width.getD 0 - shown.length
  let left := if s.align == '>' then padding else if s.align == '^' then padding / 2 else 0
  List.replicate left s.fill ++ shown ++ List.replicate (padding - left) s.fill

/-- Cut a text to the greatest length and pad it to the width. -/
def Spec.apply (s : Spec) (text : List Char) : List Char :=
  s.pad ((s.precision.map text.take).getD text)

/-- The widths that still fit in memory. -/
def maxWidth : Nat := 1000000000

/-- Lay a text out. -/
def layOutText (spec text : List Char) : Except TemplateError (List Char) := do
  let s ← readSpec .text spec
  match s.textFault? with
  | some fault => .error fault
  | none => if maxWidth < s.width.getD 0 then .error .outOfMemory else return s.apply text

/-! ## Numbers -/

/-- The parts of a number as it shows. -/
structure Figures where
  sign : List Char := []
  /-- What stands before the digits to tell their base. -/
  base : List Char := []
  digits : List Char
  /-- What stands after the digits. -/
  tail : List Char := []

/-- Put separators between groups of digits, counted from the right. -/
def grouped (size : Nat) (separator : Char) (digits : List Char) : List Char :=
  (groups (digits.length + 1) digits.reverse).reverse
where
  /-- The digits from right to left with separators. -/
  groups : Nat → List Char → List Char
    | 0, cs => cs
    | fuel + 1, cs =>
      if cs.length ≤ size then cs
      else cs.take size ++ separator :: groups fuel (cs.drop size)

/-- Put zeros before digits until they are as wide as asked for, separators included. -/
def widened (view : List Char → List Char) (width : Nat) : Nat → List Char → List Char
  | 0, digits => view digits
  | fuel + 1, digits =>
    if width ≤ (view digits).length then view digits
    else widened view width fuel ('0' :: digits)

/-- Lay the parts of a number out. -/
def Spec.layOutFigures (s : Spec) (groupSize : Nat) (f : Figures) : List Char :=
  let group := fun digits => (s.separator.map fun c => grouped groupSize c digits).getD digits
  let around := f.sign.length + f.base.length + f.tail.length
  if s.align == '=' then
    let width := s.width.getD 0 - around
    let digits := if s.fill == '0' then widened group width width f.digits else group f.digits
    f.sign ++ f.base ++ List.replicate (width - digits.length) s.fill ++ digits ++ f.tail
  else s.pad (f.sign ++ f.base ++ group f.digits ++ f.tail)

/-- The sign of a number as a layout asks for it. -/
def Spec.signOf (s : Spec) (i : Int) : List Char :=
  if i < 0 then ['-'] else if s.sign == some '+' || s.sign == some ' ' then s.sign.toList else []

/-- The base of a letter. -/
def baseOf (kind : Char) : Nat :=
  if kind == 'b' then 2
  else if kind == 'o' then 8
  else if kind == 'x' || kind == 'X' then 16
  else 10

/-- Lay a number out in a base. -/
def Spec.layOutInteger (s : Spec) (i : Int) : List Char :=
  let base := baseOf s.kind
  let digits := Nat.toDigits base i.natAbs
  let digits := if s.kind == 'X' then digits.map Char.toUpper else digits
  let mark := if s.alternate && base != 10 then ['0', s.kind] else []
  s.layOutFigures (if base = 10 then 3 else 4) { sign := s.signOf i, base := mark, digits }

/-- Lay the character of a number out. -/
def Spec.layOutCharacter (s : Spec) (i : Int) : Except TemplateError (List Char) :=
  if s.sign.isSome then .error .characterSign
  else if s.alternate then .error .characterAlternate
  else if i < 0 ∨ 0x10FFFF < i then .error .characterRange
  else .ok (s.layOutFigures 3 { digits := [], tail := [Char.ofNat i.toNat] })

/-- A number of `count` significant digits and its exponent: the digits, rounded to nearest with
ties to even. -/
def significant (count n : Nat) : List Char × Nat :=
  let digits := Nat.toDigits 10 n
  if n = 0 then (List.replicate count '0', 0)
  else if digits.length ≤ count then
    (digits ++ List.replicate (count - digits.length) '0', digits.length - 1)
  else
    let rounded := Nat.toDigits 10 (Binary64.roundDiv n (Nat.pow 10 (digits.length - count)))
    if count < rounded.length then (rounded.take count, digits.length)
    else (rounded, digits.length - 1)

/-- Digits after a point, without the point if there are none. -/
def fraction (s : Spec) (digits : List Char) : List Char :=
  if digits.isEmpty && !s.alternate then [] else '.' :: digits

/-- An exponent with its letter and at least two digits. -/
def exponentText (letter : Char) (e : Nat) : List Char :=
  let digits := Nat.toDigits 10 e
  letter :: '+' :: List.replicate (2 - digits.length) '0' ++ digits

/-- The digits of a number with a point, for the letters that ask for one. -/
def Spec.pointFigures (s : Spec) (n : Nat) : List Char × List Char :=
  let kind := s.kind.toLower
  let precision := s.precision.getD 6
  let letter := if s.kind == 'E' || s.kind == 'G' then 'E' else 'e'
  if kind == 'f' then (Nat.toDigits 10 n, fraction s (List.replicate precision '0'))
  else if kind == '%' then
    (Nat.toDigits 10 (100 * n), fraction s (List.replicate precision '0') ++ ['%'])
  else if kind == 'e' then
    let (digits, e) := significant (precision + 1) n
    (digits.take 1, fraction s (digits.drop 1) ++ exponentText letter e)
  else
    let count := max precision 1
    let (digits, e) := significant count n
    let whole := if e < count then e + 1 else 1
    let rest := digits.drop whole
    let rest := if s.alternate then rest else (rest.reverse.dropWhile (· == '0')).reverse
    (digits.take whole, fraction s rest ++ if e < count then [] else exponentText letter e)

/-- Lay a number out with a point. -/
def Spec.layOutReal (s : Spec) (i : Int) : List Char :=
  let (digits, tail) := s.pointFigures i.natAbs
  s.layOutFigures 3 { sign := s.signOf i, digits, tail }

/-- The greatest number of digits after a point that may be asked for. -/
def maxPrecision : Nat := 2147483647

/-- Lay a number out. -/
def layOutNumber (spec : List Char) (i : Int) : Except TemplateError (List Char) := do
  let s ← readSpec .number spec
  match s.separatorFault? with
  | some fault => .error fault
  | none =>
    if maxWidth < s.width.getD 0 then .error .outOfMemory
    else if "bcdoxXn".toList.contains s.kind then
      if s.precision.isSome then .error .numberPrecision
      else if s.noNegativeZero then .error .numberNegativeZero
      else if s.kind == 'c' then s.layOutCharacter i
      else return s.layOutInteger i
    else if "eEfFgG%".toList.contains s.kind then
      if maxPrecision < s.precision.getD 0 then .error .precisionTooBig else return s.layOutReal i
    else .error (.unknownCode s.kind "int")

end BindingAudit.Template
