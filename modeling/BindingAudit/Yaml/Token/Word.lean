import BindingAudit.Text.Utf8
import BindingAudit.Yaml.Cursor
import BindingAudit.Yaml.Fault
import BindingAudit.Yaml.Token.Scalar

/-!
# Names, tags and directives

Readers for the tokens that consist of one word: the names of anchors, tags with their handles
and percent escapes, and the directives before a document.
-/

namespace BindingAudit.Yaml

/-- The characters of a name. -/
def isNameChar (c : Char) : Bool :=
  c.isAlphanum || c == '-' || c == '_'

/-- The characters of a tag's suffix, percent escapes apart. -/
def isUriChar (c : Char) : Bool :=
  c.isAlphanum || "-;/?:@&=+$,_.!~*'()[]".toList.contains c

/-- Whether a name may be followed by this. -/
def endsName : Option Char → Bool
  | none => true
  | some c => endsToken (some c) || "?:,]\x7d%@`".toList.contains c

/-- Read the name of an anchor or a reference, after its indicator. -/
def anchorName (c : Cursor) : Except Fault (String × Cursor) :=
  let (name, c) := c.takeWhile isNameChar
  if name.isEmpty || !endsName c.peek then .error .malformed
  else .ok (String.ofList name, c)

/-- The bytes of the percent escapes at the head of a text. -/
def percentBytes : Nat → List Char → Except Fault (List UInt8)
  | fuel + 1, '%' :: a :: b :: rest =>
    if Text.isHexDigit a && Text.isHexDigit b then do
      let bytes ← percentBytes fuel rest
      return (Text.readDigits 16 [a, b]).toUInt8 :: bytes
    else .error .malformed
  | _, '%' :: _ => .error .malformed
  | _, _ => .ok []

/-- Read the suffix of a tag. -/
def uriPart : Nat → Cursor → Except Fault (List Char × Cursor)
  | 0, c => .ok ([], c)
  | fuel + 1, c =>
    match c.rest with
    | [] => .ok ([], c)
    | ch :: _ =>
      if ch == '%' then do
        let bytes ← percentBytes fuel c.rest
        match Text.Utf8.decode bytes with
        | .error _ => .error .malformed
        | .ok part =>
          let (text, c) ← uriPart fuel (c.skip (3 * bytes.length))
          return (part ++ text, c)
      else if isUriChar ch then do
        let (run, c) := c.takeWhile isUriChar
        let (text, c) ← uriPart fuel c
        return (run ++ text, c)
      else .ok ([], c)

/-- Read the suffix of a tag, which must not be empty. -/
def uri (fuel : Nat) (c : Cursor) : Except Fault (String × Cursor) := do
  let (text, c) ← uriPart fuel c
  if text.isEmpty then .error .malformed
  else return (String.ofList text, c)

/-- Read the handle of a tag: `!`, or a name between two exclamation marks. -/
def tagHandle (c : Cursor) : Except Fault (String × Cursor) :=
  match c.peek with
  | some '!' =>
    if c.peek 1 == some ' ' then .ok ("!", c.next)
    else
      let (name, after) := c.next.takeWhile isNameChar
      if after.peek == some '!' then .ok (String.ofList ('!' :: name ++ ['!']), after.next)
      else .error .malformed
  | _ => .error .malformed

/-- Read a tag at its exclamation mark. -/
def tagToken (fuel : Nat) (c : Cursor) : Except Fault (Option String × String × Cursor) := do
  let (handle, suffix, c) ←
    if c.peek 1 == some '<' then do
      let (suffix, c) ← uri fuel (c.skip 2)
      if c.peek == some '>' then pure (none, suffix, c.next) else .error .malformed
    else if endsToken (c.peek 1) then pure (none, "!", c.next)
    else do
      let word := c.next.rest.takeWhile (fun ch => !(ch == ' ' || isBreak ch))
      let (handle, c) ← if word.contains '!' then tagHandle c else pure ("!", c.next)
      let (suffix, c) ← uri fuel c
      pure (some handle, suffix, c)
  if endsWord c.peek then return (handle, suffix, c) else .error .malformed

/-- A directive: a version, a handle for tags, or one that is not known. -/
inductive Directive where
  | version (major : Nat)
  | tag (handle uri : String)
  | other
deriving DecidableEq, Repr

/-- Read a number of a version directive. -/
def versionNumber (c : Cursor) : Except Fault (Nat × Cursor) :=
  let (digits, c) := c.takeWhile Char.isDigit
  if digits.isEmpty then .error .malformed
  else if digitLimit < digits.length then .error (.value (.digits (.reading digits.length)))
  else .ok (Text.readDigits 10 digits, c)

/-- Read a directive at its percent sign, with the rest of its line. -/
def directive (fuel : Nat) (c : Cursor) : Except Fault (Directive × Cursor) := do
  let (name, c) := c.next.takeWhile isNameChar
  if name.isEmpty || !endsWord c.peek then .error .malformed
  else
    let (result, c) ←
      if name == "YAML".toList then do
        let (major, c) ← versionNumber c.skipSpaces
        if c.peek != some '.' then .error .malformed
        else
          let (_, c) ← versionNumber c.next
          if endsWord c.peek then pure (Directive.version major, c) else .error .malformed
      else if name == "TAG".toList then do
        let (handle, c) ← tagHandle c.skipSpaces
        if c.peek != some ' ' then .error .malformed
        else
          let (suffix, c) ← uri fuel c.skipSpaces
          if endsWord c.peek then pure (Directive.tag handle suffix, c) else .error .malformed
      else pure (Directive.other, c.skipWhile (fun ch => !isBreak ch))
    let c ← skipRestOfLine c
    return (result, c)

end BindingAudit.Yaml
