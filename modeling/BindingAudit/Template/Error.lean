import BindingAudit.Text.Quoted

/-!
# Faults of templates

What can be wrong with a message template, with the wording of each fault.
-/

namespace BindingAudit

/-- What can be wrong with a template. -/
inductive TemplateError where
  | singleOpen
  | singleClose
  | openInName
  | unmatchedOpen
  | missingClose
  | conversionMissing
  | conversionNotEnded
  | unknownConversion (c : Char)
  | tooDeep
  | tooManyDigits
  | emptyMember
  | missingBracket
  | afterBracket
  | unknownName (name : String)
  | position (index : Nat)
  | textIndex
  | textKey
  | tupleIndex
  | tupleKey
  /-- A value of the named kind has no items. -/
  | noItems (kind : String)
  /-- The kind of the name has no items. -/
  | kindItems (kind : String)
  /-- A value of the named kind has no such member. -/
  | noMember (kind name : String)
  /-- The kind of the name has no such member. -/
  | kindMember (kind name : String)
  /-- A member of kinds that no kind has a value for. -/
  | abstractMembers
  /-- Among the members of a kind there is none of the key. -/
  | missingKey (key : String)
  /-- A kind with an argument takes no other. -/
  | notGeneric (shown : String)
  /-- A value of the named kind has no layout. -/
  | noLayout (kind : String)
  /-- A width is beyond all memory. -/
  | outOfMemory
  | bothSeparators
  | separatorWith (separator kind : Char)
  | missingPrecision
  /-- A layout that is none for values of the named kind. -/
  | invalidSpec (spec kind : String)
  /-- A letter that asks for no layout of values of the named kind. -/
  | unknownCode (c : Char) (kind : String)
  | signNotAllowed
  | spaceNotAllowed
  | negativeZero
  | alternateForm
  | equalsAlignment
  | numberPrecision
  | precisionTooBig
  | numberNegativeZero
  | characterSign
  | characterAlternate
  /-- A number that is that of no character. -/
  | characterRange
  /-- The template is not a text but a value of the named kind. -/
  | notText (kind : String)
deriving DecidableEq, Repr

namespace TemplateError

/-- A character as messages give it: itself between the space and a limit, else its code. -/
def showChar (c : Char) (limit : Nat := 128) : String :=
  if 32 < c.toNat ∧ c.toNat < limit then String.ofList [c]
  else "\\x" ++ String.ofList (Nat.toDigits 16 c.toNat)

/-- The wording of a template error. -/
def message : TemplateError → String
  | .singleOpen => "Single '\x7b' encountered in format string"
  | .singleClose => "Single '\x7d' encountered in format string"
  | .openInName => "unexpected '\x7b' in field name"
  | .unmatchedOpen => "unmatched '\x7b' in format spec"
  | .missingClose => "expected '\x7d' before end of string"
  | .conversionMissing => "end of string while looking for conversion specifier"
  | .conversionNotEnded => "expected ':' after conversion specifier"
  | .unknownConversion c => "Unknown conversion specifier " ++ showChar c 127
  | .tooDeep => "Max string recursion exceeded"
  | .tooManyDigits => "Too many decimal digits in format string"
  | .emptyMember => "Empty attribute in format string"
  | .missingBracket => "Missing ']' in format string"
  | .afterBracket => "Only '.' or '[' may follow ']' in format field specifier"
  | .unknownName name => Text.quoted name
  | .position index =>
    "Replacement index " ++ toString index ++ " out of range for positional args tuple"
  | .textIndex => "string index out of range"
  | .textKey => "string indices must be integers, not 'str'"
  | .tupleIndex => "tuple index out of range"
  | .tupleKey => "tuple indices must be integers or slices, not str"
  | .noItems kind => "'" ++ kind ++ "' object is not subscriptable"
  | .kindItems kind => "type '" ++ kind ++ "' is not subscriptable"
  | .noMember kind name => "'" ++ kind ++ "' object has no attribute '" ++ name ++ "'"
  | .kindMember kind name => "type object '" ++ kind ++ "' has no attribute '" ++ name ++ "'"
  | .abstractMembers => "__abstractmethods__"
  | .missingKey key => key
  | .notGeneric shown => shown ++ " is not a generic class"
  | .noLayout kind => "unsupported format string passed to " ++ kind ++ ".__format__"
  | .outOfMemory => ""
  | .bothSeparators => "Cannot specify both ',' and '_'."
  | .separatorWith separator kind =>
    "Cannot specify '" ++ String.ofList [separator] ++ "' with '" ++ showChar kind ++ "'."
  | .missingPrecision => "Format specifier missing precision"
  | .invalidSpec spec kind =>
    "Invalid format specifier '" ++ spec ++ "' for object of type '" ++ kind ++ "'"
  | .unknownCode c kind =>
    "Unknown format code '" ++ showChar c ++ "' for object of type '" ++ kind ++ "'"
  | .signNotAllowed => "Sign not allowed in string format specifier"
  | .spaceNotAllowed => "Space not allowed in string format specifier"
  | .negativeZero => "Negative zero coercion (z) not allowed in string format specifier"
  | .alternateForm => "Alternate form (#) not allowed in string format specifier"
  | .equalsAlignment => "'=' alignment not allowed in string format specifier"
  | .numberPrecision => "Precision not allowed in integer format specifier"
  | .precisionTooBig => "precision too big"
  | .numberNegativeZero =>
    "Negative zero coercion (z) not allowed in integer format specifier"
  | .characterSign => "Sign not allowed with integer format specifier 'c'"
  | .characterAlternate => "Alternate form (#) not allowed with integer format specifier 'c'"
  | .characterRange => "%c arg not in range(0x110000)"
  | .notText kind => "'" ++ kind ++ "' object has no attribute 'format'"

end TemplateError

end BindingAudit
