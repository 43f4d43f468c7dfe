/-!
# Double-precision numbers

The numbers with a fraction that documents hold: binary floating point of 64 bits, as exact
values.  A finite number is `± mantissa · 2^exponent`, kept in lowest admissible form, so equal
numbers of one sign are equal terms.  Arithmetic is exact on the mantissas and rounds once, to
nearest with ties to even.

* `ofDecimal` reads a decimal number, correctly rounded.
* `shortest` finds the fewest decimal digits that read back as the same number.
* `render` writes those digits positionally between `10^-4` and `10^16` and with an exponent
  outside.
-/

namespace BindingAudit

/-- A double-precision number. -/
inductive Binary64 where
  /-- The number `± mantissa · 2^exponent`. -/
  | finite (negative : Bool) (mantissa : Nat) (exponent : Int)
  | infinite (negative : Bool)
  /-- No number.  The mark tells one from another where they are not one and the same. -/
  | nan (mark : Nat)
deriving DecidableEq, Repr, Inhabited

namespace Binary64

/-- The least exponent of a finite number. -/
def minExponent : Int := -1074

/-- The greatest exponent of a finite number. -/
def maxExponent : Int := 971

/-- The quotient rounded to the nearest integer, a tie to the even one. -/
def roundDiv (num den : Nat) : Nat :=
  let q := num / den
  let twice := 2 * (num % den)
  if twice < den then q
  else if den < twice then q + 1
  else if q % 2 = 0 then q else q + 1

/-- Zero of the given sign. -/
def zero (negative : Bool) : Binary64 :=
  .finite negative 0 minExponent

/-- The largest `e` with `2^e ≤ num / den`, for positive `num` and `den`. -/
def floorLog2 (num den : Nat) : Int :=
  let e : Int := (Nat.log2 num : Int) - (Nat.log2 den : Int)
  let fits :=
    if 0 ≤ e then den * Nat.pow 2 e.toNat ≤ num
    else den ≤ num * Nat.pow 2 (-e).toNat
  if fits then e else e - 1

/-- The number nearest to `± num / den`. -/
def ofRatio (negative : Bool) (num den : Nat) : Binary64 :=
  if num = 0 then zero negative
  else
    let q := max (floorLog2 num den - 52) minExponent
    let m :=
      if 0 ≤ q then roundDiv num (den * Nat.pow 2 q.toNat)
      else roundDiv (num * Nat.pow 2 (-q).toNat) den
    let (m, q) := if m = Nat.pow 2 53 then (Nat.pow 2 52, q + 1) else (m, q)
    if maxExponent < q then .infinite negative
    else if m = 0 then zero negative
    else .finite negative m q

/-- The number nearest to `± digits · 10^exponent`. -/
def ofDecimal (negative : Bool) (digits : Nat) (exponent : Int) : Binary64 :=
  if digits = 0 then zero negative
  else
    let magnitude := (Nat.toDigits 10 digits).length + exponent
    if 400 < magnitude then .infinite negative
    else if magnitude < -400 then zero negative
    else if 0 ≤ exponent then ofRatio negative (digits * Nat.pow 10 exponent.toNat) 1
    else ofRatio negative digits (Nat.pow 10 (-exponent).toNat)

/-- The number nearest to `mantissa · 2^exponent`; an exact zero is positive. -/
def ofScaled (mantissa exponent : Int) : Binary64 :=
  if 0 ≤ exponent then ofRatio (mantissa < 0) (mantissa.natAbs * Nat.pow 2 exponent.toNat) 1
  else ofRatio (mantissa < 0) mantissa.natAbs (Nat.pow 2 (-exponent).toNat)

/-- A mantissa with its sign. -/
def signed (negative : Bool) (mantissa : Nat) : Int :=
  if negative then -(mantissa : Int) else mantissa

/-- The number with the opposite sign. -/
def neg : Binary64 → Binary64
  | .finite s m e => .finite (!s) m e
  | .infinite s => .infinite (!s)
  | .nan mark => .nan mark

/-- The rounded sum. -/
def add : Binary64 → Binary64 → Binary64
  | .finite s m e, .finite t n f =>
    if m = 0 ∧ n = 0 then zero (s && t)
    else
      let low := min e f
      ofScaled (signed s m * Int.pow 2 (e - low).toNat + signed t n * Int.pow 2 (f - low).toNat) low
  | .infinite s, .infinite t => if s = t then .infinite s else .nan 0
  | .infinite s, .finite .. => .infinite s
  | .finite .., .infinite t => .infinite t
  | .nan mark, _ => .nan mark
  | _, .nan mark => .nan mark

/-- The rounded product. -/
def mul : Binary64 → Binary64 → Binary64
  | .finite s m e, .finite t n f =>
    if m = 0 ∨ n = 0 then zero (s != t)
    else ofScaled (signed s m * signed t n) (e + f)
  | .infinite s, .infinite t => .infinite (s != t)
  | .infinite s, .finite t n _ => if n = 0 then .nan 0 else .infinite (s != t)
  | .finite s m _, .infinite t => if m = 0 then .nan 0 else .infinite (s != t)
  | .nan mark, _ => .nan mark
  | _, .nan mark => .nan mark

/-- Whether the number is zero, of either sign. -/
def isZero : Binary64 → Bool
  | .finite _ m _ => m == 0
  | _ => false

/-- The integer a number equals, if it equals one. -/
def toInt? : Binary64 → Option Int
  | .finite s m e =>
    if 0 ≤ e then some (signed s (m * Nat.pow 2 e.toNat))
    else if m % Nat.pow 2 (-e).toNat = 0 then some (signed s (m / Nat.pow 2 (-e).toNat))
    else none
  | _ => none

/-- A positive ratio in the decimal grid of step `10^k`: the grid point at or below it, and its
distance from that point as a remainder and a divisor. -/
def gridPoints (num den : Nat) (k : Int) : Nat × Nat × Nat :=
  let (n, d) :=
    if 0 ≤ k then (num, den * Nat.pow 10 k.toNat)
    else (num * Nat.pow 10 (-k).toNat, den)
  (n / d, n % d, d)

/-- The largest `k` with `10^k ≤ num / den`, for positive `num` and `den`. -/
def floorLog10 (num den : Nat) : Int :=
  let guess : Int := ((Nat.toDigits 10 num).length : Int) - ((Nat.toDigits 10 den).length : Int)
  let fits :=
    if 0 ≤ guess then den * Nat.pow 10 guess.toNat ≤ num
    else den ≤ num * Nat.pow 10 (-guess).toNat
  if fits then guess else guess - 1

/-- The first digit count, from `count` on, at which a neighbour of the number in that decimal
grid reads back as the number; the nearer neighbour is taken if both do. -/
def shortestFrom (x : Binary64) (num den : Nat) (top : Int) (count : Nat) : Nat → Nat × Int
  | 0 => ((gridPoints num den (top - 16)).1, top - 16)
  | steps + 1 =>
    let k := top - count + 1
    let (below, rest, d) := gridPoints num den k
    let lowFits := ofDecimal false below k == x
    let highFits := ofDecimal false (below + 1) k == x
    let highNearer := d < 2 * rest ∨ (2 * rest = d ∧ below % 2 = 1)
    if lowFits ∧ (¬ highFits ∨ ¬ highNearer) then (below, k)
    else if highFits then (below + 1, k)
    else shortestFrom x num den top (count + 1) steps

/-- The fewest decimal digits, as an integer and a power of ten, that read back as the positive
number `mantissa · 2^exponent`. -/
def shortest (mantissa : Nat) (exponent : Int) : Nat × Int :=
  let (num, den) :=
    if 0 ≤ exponent then (mantissa * Nat.pow 2 exponent.toNat, 1)
    else (mantissa, Nat.pow 2 (-exponent).toNat)
  shortestFrom (.finite false mantissa exponent) num den (floorLog10 num den) 1 17

/-- Drop the zeros a digit string ends with. -/
def dropTrailingZeros (digits : List Char) : List Char :=
  (digits.reverse.dropWhile (· == '0')).reverse

/-- Digits with the point after the first `point` of them, at least one on either side. -/
def positional (digits : List Char) (point : Int) : List Char :=
  if point ≤ 0 then
    ['0', '.'] ++ List.replicate (-point).toNat '0' ++ digits
  else
    let whole := digits.take point.toNat
    let fraction := digits.drop point.toNat
    let whole := whole ++ List.replicate (point.toNat - whole.length) '0'
    whole ++ ['.'] ++ (if fraction.isEmpty then ['0'] else fraction)

/-- Digits in the form `d.ddde±xx`. -/
def scientific (digits : List Char) (exponent : Int) : List Char :=
  let mantissa :=
    match digits with
    | [] => ['0']
    | [d] => [d]
    | d :: rest => d :: '.' :: rest
  let e := Nat.toDigits 10 exponent.natAbs
  let e := List.replicate (2 - e.length) '0' ++ e
  mantissa ++ ['e', if exponent < 0 then '-' else '+'] ++ e

/-- The text of a number: the fewest digits that read back, positional from `10^-4` up to
`10^16` and with an exponent outside that range. -/
def render : Binary64 → String
  | .nan _ => "nan"
  | .infinite negative => if negative then "-inf" else "inf"
  | .finite negative m e =>
    let sign := if negative then ['-'] else []
    if m = 0 then String.ofList (sign ++ ['0', '.', '0'])
    else
      let (n, k) := shortest m e
      let all := Nat.toDigits 10 n
      let point : Int := all.length + k
      let digits := dropTrailingZeros all
      let body :=
        if -4 < point ∧ point ≤ 16 then positional digits point
        else scientific digits (point - 1)
      String.ofList (sign ++ body)

end Binary64

end BindingAudit
