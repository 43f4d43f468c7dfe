/-!
# The limit on decimal digits

Integers have any size, but in decimal they are neither read from nor shown in more than a fixed
number of digits.  Other bases have no limit.
-/

namespace BindingAudit

/-- The greatest number of decimal digits an integer is read from or shown in. -/
def digitLimit : Nat := 4300

/-- The least number with too many digits to be shown. -/
def digitBound : Nat := Nat.pow 10 digitLimit

/-- Whether an integer has too many digits to be shown. -/
def exceedsDigits (i : Int) : Bool :=
  digitBound ≤ i.natAbs

/-- Why an integer is not converted: a text has too many digits, or a number would have. -/
inductive DigitError where
  | reading (count : Nat)
  | showing
deriving DecidableEq, Repr

/-- The wording of the error. -/
def DigitError.message (e : DigitError) : String :=
  let count :=
    match e with
    | .reading count => ": value has " ++ toString count ++ " digits"
    | .showing => ""
  "Exceeds the limit (" ++ toString digitLimit ++ " digits) for integer string conversion" ++ count
    ++ "; use sys.set_int_max_str_digits() to increase the limit"

end BindingAudit
