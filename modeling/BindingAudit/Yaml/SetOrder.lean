import BindingAudit.Data.Scalar

/-!
# The order of sets

The members of a set of numbers show in the order of their slots.  There are eight slots for
up to four members, and beyond that the least power of two above twice their number.  A member
goes to the slot its value leads to; if that is taken, it is sent on, or tries the next nine slots
first where there are as many.  Other sets show in the order in which they were written.
-/

namespace BindingAudit.Yaml.SetOrder

/-- The least power of two above a number, from a given one on. -/
def slotsAbove (n : Nat) : Nat → Nat → Nat
  | 0, size => size
  | fuel + 1, size => if n < size then size else slotsAbove n fuel (2 * size)

/-- The number of slots for a number of members. -/
def slotCount (members : Nat) : Nat :=
  if members < 5 then 8 else slotsAbove (2 * members) (members + 1) 8

/-- The modulus of the numbers that lead values to their slots. -/
def modulus : Nat := Nat.pow 2 61 - 1

/-- What is left of a number `± mantissa · 2^exponent`: two to the 61st counts as one, so halving is
doubling sixty times. -/
def residue (negative : Bool) (mantissa : Nat) (exponent : Int) : Int :=
  let rest : Int := mantissa * Int.pow 2 (exponent % 61).toNat % modulus
  if negative then -rest else rest

/-- What is left of a number or a boolean; other scalars lead nowhere. -/
def residue? : Scalar → Option Int
  | .bool b => some (if b then 1 else 0)
  | .int i => some (residue (i < 0) i.natAbs 0)
  | .real (.finite negative mantissa exponent) => some (residue negative mantissa exponent)
  | .real (.infinite negative) => some (if negative then -314159 else 314159)
  | _ => none

/-- The number that leads a residue to its slot. -/
def lead (rest : Int) : Nat :=
  let rest := if rest = -1 then -2 else rest
  if rest < 0 then (rest + Int.pow 2 64).toNat else rest.toNat

/-- The first free slot among several. -/
def freeAmong (taken : List (Nat × Scalar)) (slots : List Nat) : Option Nat :=
  slots.find? fun slot => !taken.any fun t => t.1 == slot

/-- Find a free slot, starting from a slot.  `fuel` bounds how often a member is sent on. -/
def findSlot (taken : List (Nat × Scalar)) (size : Nat) : Nat → Nat → Nat → Nat
  | 0, slot, _ => slot
  | fuel + 1, slot, lead =>
    let near := if slot + 9 < size then (List.range 10).map (slot + ·) else [slot]
    match freeAmong taken near with
    | some free => free
    | none => findSlot taken size fuel ((slot * 5 + 1 + lead / 32) % size) (lead / 32)

/-- Give members their slots, in turn. -/
def place (size : Nat) (taken : List (Nat × Scalar)) : List (Scalar × Nat) → List (Nat × Scalar)
  | [] => taken
  | (s, lead) :: rest =>
    let slot := findSlot taken size (size + 64) (lead % size) lead
    place size ((slot, s) :: taken) rest

/-- Members in the order in which they show. -/
def ordered (members : List Scalar) : List Scalar :=
  match members.mapM fun s => (residue? s).map fun rest => (s, lead rest) with
  | none => members
  | some leads =>
    let placed := place (slotCount members.length) [] leads
    (placed.mergeSort fun a b => a.1 ≤ b.1).map (·.2)

end BindingAudit.Yaml.SetOrder
