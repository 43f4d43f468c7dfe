import BindingAudit.Template.Kind.Table
import BindingAudit.Text.Quoted

/-!
# Members of template values

What the name of a field can lead to.  A text has a kind and operations; a kind has a name, the
kinds above it, and the operations of its values; an operation has a name and the value it belongs
to.

* `Reached` is a value that the name of a field leads to.
* `Reached.member?` is the member of a value under a name.
* `Reached.shown` is a value as text.

The members of a kind are those of its values, and besides those that kinds have themselves.  Of
two under one name, a value that kinds have themselves comes first, then what is defined for the
values, and last an operation on kinds.
-/

namespace BindingAudit.Template

/-- What the name of a field can lead to. -/
inductive Reached where
  | text (cs : List Char)
  | number (value : Int)
  | truth (value : Bool)
  | nothing
  | kind (name : String)
  | tuple (items : List Reached)
  /-- An operation of a value, with the kind that it is defined for. -/
  | bound (owner : String) (member : Member) (self : Reached)
  /-- A member of all values of a kind. -/
  | unbound (owner : String) (member : Member)
  /-- The members that are defined for a kind. -/
  | members (owner : String)
  /-- A kind with an argument. -/
  | generic (origin : String) (argument : Reached)
deriving Repr

/-- The kind of a name. -/
def kindOf? (name : String) : Option Kind :=
  kinds.find? fun k => k.fullName == name

/-- The kinds that values of a kind get their members from, the kind itself first. -/
def lineage (name : String) : List Kind :=
  match kindOf? name with
  | some k => k :: k.above.filterMap kindOf?
  | none => []

/-- The member of the values of a kind under a name, with the kind that it is defined for. -/
def inherited? (kind name : String) : Option (Kind × Member) :=
  (lineage kind).findSome? fun k => (k.own? name).map fun m => (k, m)

namespace Reached

/-- A text as a value. -/
def ofString (s : String) : Reached :=
  .text s.toList

/-- A text that may be missing. -/
def ofOption (s : Option String) : Reached :=
  (s.map ofString).getD .nothing

/-- The full name of a value's kind. -/
def kindName : Reached → String
  | .text _ => "str"
  | .number _ => "int"
  | .truth _ => "bool"
  | .nothing => "NoneType"
  | .kind _ => "type"
  | .tuple _ => "tuple"
  | .bound _ m _ =>
    if m.form = .operator then "method-wrapper" else "builtin_function_or_method"
  | .unbound _ m =>
    match m.form with
    | .call => "method_descriptor"
    | .operator => "wrapper_descriptor"
    | .kindCall => "classmethod_descriptor"
    | .attribute => "getset_descriptor"
    | .slot => "member_descriptor"
    | .fixed => "staticmethod"
    | .maker | .plain => "builtin_function_or_method"
  | .members _ => "mappingproxy"
  | .generic _ _ => "types.GenericAlias"

/-! ## How values show -/

/-- The name of a kind without its home. -/
def plainName (kind : String) : String :=
  ((kindOf? kind).map Kind.name).getD kind

/-- An operation of a value of the named kind as it shows, together with where the value is kept.
That place differs from run to run: all values are said to be kept at the same one. -/
def boundText (m : Member) (kind : String) : String :=
  let what := if m.form = .operator then "method-wrapper '" ++ m.name ++ "'"
    else "built-in method " ++ m.name
  "<" ++ what ++ " of " ++ kind ++ " object at 0x7f0000000000>"

/-- A member of all values of a kind as it shows. -/
def unboundText (owner : String) (m : Member) : String :=
  let among := fun (what : String) =>
    "<" ++ what ++ " '" ++ m.name ++ "' of '" ++ owner ++ "' objects>"
  match m.form with
  | .operator => among "slot wrapper"
  | .attribute => among "attribute"
  | .slot => among "member"
  | .fixed => "<staticmethod(" ++ boundText m "type" ++ ")>"
  | _ => among "method"

/-- What is kept under the name of a member, as it shows among the members of a kind. -/
def entryText (owner : String) (m : Member) : String :=
  Text.quoted m.name ++ ": " ++
    match m.form with
    | .plain => (m.doc.map Text.quoted).getD "None"
    | .maker => boundText m "type"
    | _ => unboundText owner m

/-- The members that are defined for a kind as they show. -/
def membersText (kind : String) : String :=
  let entries := ((kindOf? kind).map fun k => k.members.map (entryText kind)).getD []
  "\x7b" ++ ", ".intercalate entries ++ "\x7d"

mutual

/-- A value as it shows inside another. -/
def inner : Reached → List Char
  | .text cs => Text.quotedChars cs
  | .number i => (toString i).toList
  | .truth b => (if b then "True" else "False").toList
  | .nothing => "None".toList
  | .kind name => ("<class '" ++ name ++ "'>").toList
  | .tuple [item] => '(' :: inner item ++ ",)".toList
  | .tuple items => '(' :: innerItems items ++ [')']
  | .bound _ m self => (boundText m self.kindName).toList
  | .unbound owner m => (unboundText owner m).toList
  | .members owner => ("mappingproxy(" ++ membersText owner ++ ")").toList
  | .generic origin argument => origin.toList ++ '[' :: inner argument ++ [']']

/-- Values as they show inside a tuple. -/
def innerItems : List Reached → List Char
  | [] => []
  | [item] => inner item
  | item :: rest => inner item ++ ", ".toList ++ innerItems rest

end

/-- A value as text of its own. -/
def shown : Reached → List Char
  | .text cs => cs
  | .members owner => (membersText owner).toList
  | other => other.inner

/-! ## Members -/

/-- The kinds above a kind, all of them or only the nearest. -/
def above (kind : String) (nearest : Bool) : List Reached :=
  let names := ((kindOf? kind).map Kind.above).getD []
  (if nearest then names.take 1 else names).map .kind

/-- The description of a kind: a text, or the member that describes its values. -/
def describe (k : Kind) : Reached :=
  match k.own? "__doc__" with
  | some m => if m.form = .attribute ∧ k.doc.isNone then .unbound k.fullName m else ofOption k.doc
  | none => ofOption k.doc

/-- A value that a kind has itself. -/
def kindValue? (k : Kind) (name : String) : Option Reached :=
  match name with
  | "__name__" | "__qualname__" => some (ofString k.name)
  | "__module__" => some (ofString k.home)
  | "__doc__" => some (describe k)
  | "__text_signature__" => some (ofOption k.signature)
  | "__mro__" => some (.tuple (.kind k.fullName :: above k.fullName false))
  | "__bases__" => some (.tuple (above k.fullName true))
  | "__base__" => some ((above k.fullName true).head?.getD .nothing)
  | "__dict__" => some (.members k.fullName)
  | "__basicsize__" => some (.number k.size)
  | "__itemsize__" => some (.number k.itemSize)
  | "__flags__" => some (.number k.flags)
  | "__dictoffset__" => some (.number k.dictOffset)
  | "__weakrefoffset__" => some (.number k.weakOffset)
  | _ => none

/-- A value that an operation has itself.  `qualifier` is the name of what it belongs to. -/
def operationValue? (m : Member) (qualifier : String) (name : String) : Option Reached :=
  match name with
  | "__name__" => some (ofString m.name)
  | "__qualname__" => some (ofString (qualifier ++ "." ++ m.name))
  | "__doc__" => some (ofOption m.doc)
  | "__text_signature__" => some (ofOption m.signature)
  | _ => none

/-- The name that an operation of a value is qualified with. -/
def qualifier (owner : String) (m : Member) (self : Reached) : String :=
  if m.form = .operator then plainName owner
  else
    match self with
    | .kind name => plainName name
    | v => plainName v.kindName

/-- A value that a member of all values of a kind has itself. -/
def unboundValue? (owner : String) (m : Member) (name : String) : Option Reached :=
  if m.form = .fixed then
    match name with
    | "__func__" | "__wrapped__" => some (.bound owner m (.kind owner))
    | "__isabstractmethod__" => some (.truth false)
    | _ => none
  else if name = "__objclass__" then some (.kind owner)
  else operationValue? m (plainName owner) name

/-- A value that a value has itself. -/
def value? (v : Reached) (name : String) : Option Reached :=
  if name = "__class__" then some (.kind v.kindName)
  else
    match v, name with
    | .number i, "real" | .number i, "numerator" => some (.number i)
    | .truth b, "real" | .truth b, "numerator" => some (.number (if b then 1 else 0))
    | .number _, "imag" | .truth _, "imag" => some (.number 0)
    | .number _, "denominator" | .truth _, "denominator" => some (.number 1)
    | .kind k, _ => (kindOf? k).bind fun k => kindValue? k name
    | .bound _ m self, "__self__" => some (if m.form = .fixed then .nothing else self)
    | .bound _ _ _, "__module__" => some .nothing
    | .bound owner _ _, "__objclass__" => some (.kind owner)
    | .bound owner m self, _ => operationValue? m (qualifier owner m self) name
    | .unbound owner m, _ => unboundValue? owner m name
    | .generic origin _, "__origin__" => some (.kind origin)
    | .generic _ argument, "__args__" => some (.tuple [argument])
    | .generic _ _, "__parameters__" => some (.tuple [])
    | .generic _ _, "__unpacked__" => some (.truth false)
    | .generic _ _, "__typing_unpacked_tuple_args__" => some .nothing
    | _, _ => none

/-- A member that is defined for a kind, as a value of another kind has it. -/
def bind (v : Reached) (owner : Kind) (m : Member) : Option Reached :=
  match m.form with
  | .call | .operator => some (.bound owner.fullName m v)
  | .kindCall => some (.bound owner.fullName m (.kind v.kindName))
  | .maker | .fixed => some (.bound owner.fullName m (.kind owner.fullName))
  | .attribute | .slot => v.value? m.name
  | .plain => some (ofOption m.doc)

/-- A member that is defined for a kind, as the given kind has it. -/
def ofKind (kind : String) (owner : Kind) (m : Member) : Reached :=
  match m.form with
  | .kindCall => .bound owner.fullName m (.kind kind)
  | .maker | .fixed => .bound owner.fullName m (.kind owner.fullName)
  | .plain => ofOption m.doc
  | .call | .operator | .attribute | .slot => .unbound owner.fullName m

/-- The member of a kind. -/
def kindMember? (kind name : String) : Option Reached :=
  let itself := inherited? "type" name
  match itself.filter fun i => i.2.form = .attribute ∨ i.2.form = .slot with
  | some (owner, m) => bind (.kind kind) owner m
  | none =>
    match inherited? kind name with
    | some (owner, m) => some (ofKind kind owner m)
    | none => itself.bind fun i => bind (.kind kind) i.1 i.2

/-- The members that a kind with an argument has of its own; the others are those of the kind. -/
def genericNames : List String := [
  "__class__", "__origin__", "__args__", "__unpacked__", "__parameters__",
  "__typing_unpacked_tuple_args__", "__mro_entries__", "__reduce_ex__", "__reduce__", "__copy__",
  "__deepcopy__"]

/-- The kind whose members a value has, if it has those of a kind. -/
def kindFor? (v : Reached) (name : String) : Option String :=
  match v with
  | .kind k => some k
  | .generic origin _ => if genericNames.contains name then none else some origin
  | _ => none

/-- The member of a value. -/
def member? (v : Reached) (name : String) : Option Reached :=
  match v.kindFor? name with
  | some k => kindMember? k name
  | none => (inherited? v.kindName name).bind fun i => bind v i.1 i.2

/-- What is kept under a name among the members that are defined for a kind. -/
def kept? (kind name : String) : Option Reached := do
  let k ← kindOf? kind
  let m ← k.own? name
  match m.form with
  | .kindCall | .fixed => return .unbound kind m
  | _ => return ofKind kind k m

/-- Whether a kind takes an argument. -/
def takesArgument (kind : String) : Bool :=
  kind == "type" || (inherited? kind "__class_getitem__").isSome

end Reached

end BindingAudit.Template
