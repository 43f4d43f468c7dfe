import BindingAudit.Template.Layout
import BindingAudit.Template.Member

/-!
# Message templates

A template is text with fields in braces.  A field names one of the given texts and may pick a
character of it by index, ask for a quoted form, and fix alignment, width and greatest length.
Numbers may be written with the digits of any script.

    {name}  {name[0]}  {name!r}  {name:*^20.8}

A doubled brace stands for itself.  The layout of a field may hold fields itself, one level
deep.  `Template.format` fills a template in or says what is wrong with it, in the order in which
a reader from left to right meets the faults.
-/

namespace BindingAudit

namespace Template

/-! ## The pieces of a template -/

/-- A field between braces, still as written. -/
structure Field where
  name : List Char
  conversion : Option Char := none
  spec : List Char := []
  /-- Whether the layout holds fields itself. -/
  nested : Bool := false

/-- The name of a field up to the character that ends it, which brackets hide.  The result is the
name, the ending character if there is one, and the rest after it. -/
def fieldName : List Char → Bool → Except TemplateError (List Char × Option Char × List Char)
  | [], _ => .ok ([], none, [])
  | c :: rest, true => do
    let (name, stop, rest) ← fieldName rest (c != ']')
    return (c :: name, stop, rest)
  | c :: rest, false =>
    if c == '\x7b' then .error .openInName
    else if c == '\x7d' || c == ':' || c == '!' then .ok ([], some c, rest)
    else do
      let (name, stop, rest) ← fieldName rest (c == '[')
      return (c :: name, stop, rest)

/-- The layout of a field up to the brace that closes it, where `depth` braces are open. -/
def fieldSpec : List Char → Nat → Except TemplateError (List Char × List Char)
  | [], _ => .error .unmatchedOpen
  | c :: rest, depth =>
    if c == '\x7d' && depth == 0 then .ok ([], rest)
    else do
      let deeper := if c == '\x7b' then depth + 1 else if c == '\x7d' then depth - 1 else depth
      let (spec, rest) ← fieldSpec rest deeper
      return (c :: spec, rest)

/-- Read a field after its opening brace. -/
def field (cs : List Char) : Except TemplateError (Field × List Char) := do
  let (name, stop, rest) ← fieldName cs false
  let layout := fun (conversion : Option Char) (rest : List Char) => do
    let (spec, rest) ← fieldSpec rest 0
    return ({ name, conversion, spec, nested := spec.contains '\x7b' : Field }, rest)
  match stop with
  | some '\x7d' => return ({ name }, rest)
  | some ':' => layout none rest
  | some '!' =>
    match rest with
    | [] => .error .conversionMissing
    | conversion :: '\x7d' :: rest => return ({ name, conversion := some conversion }, rest)
    | conversion :: ':' :: rest => layout (some conversion) rest
    | _ :: [] => .error .unmatchedOpen
    | _ :: _ :: _ => .error .conversionNotEnded
  | _ => .error .missingClose

/-! ## The value of a field -/

/-- The texts a template can name. -/
abbrev Arguments := List (String × String)

/-- The first part of a field's name, up to a point or a bracket, and the rest. -/
def splitName (name : List Char) : List Char × List Char :=
  let first := name.takeWhile (fun c => c != '.' && c != '[')
  (first, name.drop first.length)

/-- The member of a value. -/
def member (v : Reached) (name : String) : Except TemplateError Reached :=
  match v.member? name, v.kindFor? name with
  | some found, _ => .ok found
  | none, some k =>
    .error (if name = "__abstractmethods__" then .abstractMembers else .kindMember k name)
  | none, none => .error (.noMember v.kindName name)

/-- What stands between brackets: a number or a text that is none. -/
inductive Key where
  | index (i : Nat)
  | text (cs : List Char)
deriving DecidableEq, Repr

/-- A key as a value. -/
def Key.value : Key → Reached
  | .index i => .number i
  | .text cs => .text cs

/-- The item of a value. -/
def item (v : Reached) (key : Key) : Except TemplateError Reached :=
  match v, key with
  | .text cs, .index i =>
    match cs[i]? with
    | some c => .ok (.text [c])
    | none => .error .textIndex
  | .text _, .text _ => .error .textKey
  | .tuple items, .index i =>
    match items[i]? with
    | some found => .ok found
    | none => .error .tupleIndex
  | .tuple _, .text _ => .error .tupleKey
  | .members kind, .text cs =>
    match Reached.kept? kind (String.ofList cs) with
    | some found => .ok found
    | none => .error (.missingKey (String.ofList key.value.inner))
  | .members _, .index _ => .error (.missingKey (String.ofList key.value.inner))
  | .kind k, _ =>
    if Reached.takesArgument k then .ok (.generic k key.value) else .error (.kindItems k)
  | .generic _ _, _ => .error (.notGeneric (String.ofList v.inner))
  | _, _ => .error (.noItems v.kindName)

/-- Follow the points and brackets of a field's name from a value.  `fuel` bounds their number. -/
def follow : Nat → Reached → List Char → Except TemplateError Reached
  | 0, v, _ => .ok v
  | _, v, [] => .ok v
  | fuel + 1, v, c :: rest =>
    if c == '.' then do
      let (name, rest) := splitName rest
      if name.isEmpty then .error .emptyMember
      else
        let found ← member v (String.ofList name)
        follow fuel found rest
    else if c == '[' then
      let key := rest.takeWhile (· != ']')
      match rest.drop key.length with
      | [] => .error .missingBracket
      | _ :: rest => do
        let index ← number? key
        if key.isEmpty then .error .emptyMember
        else
          let found ← item v ((index.map Key.index).getD (.text key))
          follow fuel found rest
    else .error .afterBracket

/-- The value a field names. -/
def lookup (args : Arguments) (name : List Char) : Except TemplateError Reached := do
  let (first, rest) := splitName name
  match ← number? first with
  | some i => .error (.position i)
  | none =>
    if first.isEmpty then .error (.position 0)
    else
      let key := String.ofList first
      match args.find? (fun a => a.1 == key) with
      | none => .error (.unknownName key)
      | some (_, value) => follow (rest.length + 1) (.text value.toList) rest

/-- The form of a value a conversion asks for. -/
def convert (v : Reached) : Option Char → Except TemplateError Reached
  | none => .ok v
  | some 's' => .ok (.text v.shown)
  | some 'r' => .ok (.text v.inner)
  | some 'a' => .ok (.text (Text.escapeBeyondAscii v.inner))
  | some c => .error (.unknownConversion c)

/-! ## Filling a template in -/

/-- Lay a value out: only texts and numbers have a layout. -/
def layOut (spec : List Char) (v : Reached) : Except TemplateError (List Char) :=
  if spec.isEmpty then .ok v.shown
  else
    match v with
    | .text cs => layOutText spec cs
    | .number i => layOutNumber spec i
    | .truth b => layOutNumber spec (if b then 1 else 0)
    | _ => .error (.noLayout v.kindName)

/-- Fill a template in, where fields may be nested `depth` deep.  `fuel` bounds the number of
pieces. -/
def fillFrom (args : Arguments) : Nat → Nat → List Char → Except TemplateError (List Char)
  | 0, _, _ => .error .tooDeep
  | _, 0, _ => .error .tooDeep
  | fuel + 1, depth + 1, cs =>
    let literal := cs.takeWhile (fun c => c != '\x7b' && c != '\x7d')
    match cs.drop literal.length with
    | [] => .ok literal
    | [c] => if c == '\x7d' then .error .singleClose else .error .singleOpen
    | c :: d :: rest =>
      if c == d then do
        let text ← fillFrom args fuel (depth + 1) rest
        return literal ++ c :: text
      else if c == '\x7d' then .error .singleClose
      else do
        let (f, rest) ← field (d :: rest)
        let value ← lookup args f.name
        let value ← convert value f.conversion
        let spec ← if f.nested then fillFrom args fuel depth f.spec else pure f.spec
        let shown ← layOut spec value
        let text ← fillFrom args fuel (depth + 1) rest
        return literal ++ shown ++ text

/-- Fill a template in. -/
def format (args : Arguments) (template : String) : Except TemplateError String :=
  String.ofList <$> fillFrom args (template.toList.length + 3) 2 template.toList

end Template

end BindingAudit
