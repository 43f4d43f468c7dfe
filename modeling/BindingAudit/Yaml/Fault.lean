import BindingAudit.Data.Moment
import BindingAudit.Number.DigitLimit
import BindingAudit.Text.Quoted

/-!
# Faults of a YAML text

A text may fail to be YAML at all, which is all that is reported of it, or it may hold a
well-formed scalar whose tag promises a value that does not exist, such as the thirteenth month
of a year.
-/

namespace BindingAudit.Yaml

/-- A scalar that denotes no value of the kind its tag promises. -/
inductive ValueFault where
  | moment (fault : MomentFault)
  | timestamp
  /-- A mapping stands where the text of a timestamp is looked at. -/
  | timestampMapping
  | boolean (text : String)
  | integer (base : Nat) (text : String)
  | digits (error : DigitError)
  | real (text : String)
  /-- A place value in base sixty is beyond all real numbers. -/
  | placeValue
  | codePoint
  | codeTooLarge
  | emptyNumber
deriving DecidableEq, Repr

/-- The greatest number of characters of a numeral's quoted form that a message gives. -/
def quotedLimit : Nat := 200

/-- The wording of a value fault. -/
def ValueFault.message : ValueFault → String
  | .moment fault => fault.message
  | .timestamp => "'NoneType' object has no attribute 'groupdict'"
  | .timestampMapping => "expected string or bytes-like object, got 'list'"
  | .boolean text => Text.quoted text
  | .integer base text =>
    "invalid literal for int() with base " ++ toString base ++ ": "
      ++ String.ofList ((Text.quotedChars text.toList).take quotedLimit)
  | .digits error => error.message
  | .real text => "could not convert string to float: " ++ Text.quoted text
  | .placeValue => "int too large to convert to float"
  | .codePoint => "chr() arg not in range(0x110000)"
  | .codeTooLarge => "Python int too large to convert to C int"
  | .emptyNumber => "string index out of range"

/-- Why a text does not denote a document. -/
inductive Fault where
  | malformed
  | value (fault : ValueFault)
deriving DecidableEq, Repr

end BindingAudit.Yaml
