import BindingAudit.Data.Moment
import BindingAudit.Number.Binary64
import BindingAudit.Number.DigitLimit
import BindingAudit.Text.Quoted

/-!
# Scalars

The leaves of a document: null, booleans, integers, numbers, text, and what YAML and TOML have
besides, which are raw bytes and moments in time.
-/

namespace BindingAudit

/-- A leaf of a document. -/
inductive Scalar where
  | null
  | bool (value : Bool)
  | int (value : Int)
  | real (value : Binary64)
  | text (value : String)
  | bytes (value : List UInt8)
  | moment (value : Moment)
deriving DecidableEq, Repr

/-- One byte inside quotes: visible ASCII characters show as themselves. -/
def quotedByte (quote : Char) (b : UInt8) : List Char :=
  let c := Char.ofNat b.toNat
  if c = quote || c = '\\' then ['\\', c]
  else if c = '\n' then ['\\', 'n']
  else if c = '\r' then ['\\', 'r']
  else if c = '\t' then ['\\', 't']
  else if 0x20 ≤ b.toNat && b.toNat < 0x7F then [c]
  else '\\' :: 'x' :: Text.hexDigits 2 b.toNat

/-- Bytes between quotes, with escapes. -/
def quotedBytes (bytes : List UInt8) : String :=
  let quote := Text.quoteFor (bytes.map fun b => Char.ofNat b.toNat)
  "b" ++ String.ofList (quote :: (bytes.flatMap (quotedByte quote) ++ [quote]))

namespace Scalar

/-- Whether a scalar counts as true where only that matters: null, false, zero and the empty
text do not. -/
def truthy : Scalar → Bool
  | .null => false
  | .bool b => b
  | .int i => i != 0
  | .real x => !x.isZero
  | .text s => !s.toList.isEmpty
  | .bytes bs => !bs.isEmpty
  | .moment _ => true

/-- The full name of a scalar's kind, as messages give it. -/
def kindName : Scalar → String
  | .null => "NoneType"
  | .bool _ => "bool"
  | .int _ => "int"
  | .real _ => "float"
  | .text _ => "str"
  | .bytes _ => "bytes"
  | .moment m => m.kindName

/-- A scalar as it shows inside a collection: text is quoted. -/
def inner : Scalar → String
  | .null => "None"
  | .bool b => if b then "True" else "False"
  | .int i => toString i
  | .real x => x.render
  | .text s => Text.quoted s
  | .bytes bs => quotedBytes bs
  | .moment m => m.inner

/-- A scalar as text of its own. -/
def plain : Scalar → String
  | .text s => s
  | .moment m => m.shown
  | s => s.inner

/-- Whether a scalar is an integer with too many digits to be shown. -/
def tooLong : Scalar → Bool
  | .int i => exceedsDigits i
  | _ => false

/-- The integer a number or boolean equals, if it equals one. -/
def integral? : Scalar → Option Int
  | .bool b => some (if b then 1 else 0)
  | .int i => some i
  | .real x => x.toInt?
  | _ => none

/-- Whether two scalars are one key of a mapping: equal, numbers of equal value, or the same
moment. -/
def sameKey (a b : Scalar) : Bool :=
  a == b ||
    match a, b with
    | .moment m, .moment n => m.same n
    | _, _ =>
      match a.integral?, b.integral? with
      | some i, some j => i == j
      | _, _ => false

end Scalar

end BindingAudit
