import BindingAudit.Data.Scalar

/-!
# Document values

The values a JSON, YAML or TOML document denotes once sharing is forgotten: scalars, lists,
mappings that keep the order in which their keys first appeared, and what YAML has besides, which
are pairs and sets.

A YAML value may contain itself.  Such a place is written `again levels`: it stands for the
collection that many levels further out than the one it is in.
-/

namespace BindingAudit

/-- A document value. -/
inductive Data where
  | scalar (value : Scalar)
  | list (items : List Data)
  | tuple (items : List Data)
  | map (entries : List (Scalar × Data))
  | set (members : List Scalar)
  /-- A collection around this place: `0` is the innermost. -/
  | again (levels : Nat)
deriving Repr, Inhabited

/-- Set a key of an ordered mapping: a key already present keeps its place and its spelling and
takes the new value, a new key goes to the end. -/
def setEntry {α : Type} (entries : List (Scalar × α)) (key : Scalar) (value : α) :
    List (Scalar × α) :=
  if entries.any (fun e => e.1.sameKey key) then
    entries.map fun e => if e.1.sameKey key then (e.1, value) else e
  else entries ++ [(key, value)]

/-- The value of a text key in an ordered mapping. -/
def lookupText {α : Type} (entries : List (Scalar × α)) (key : String) : Option α :=
  (entries.find? fun e => e.1 == .text key).map (·.2)

namespace Data

/-- The null value. -/
abbrev null : Data := .scalar .null

/-- A text value. -/
abbrev text (s : String) : Data := .scalar (.text s)

/-- An integer value. -/
abbrev int (i : Int) : Data := .scalar (.int i)

/-- A boolean value. -/
abbrev bool (b : Bool) : Data := .scalar (.bool b)

/-- A mapping with text keys. -/
def record (fields : List (String × Data)) : Data :=
  .map (fields.map fun f => (.text f.1, f.2))

/-- Whether a value counts as true where only that matters: an empty collection does not. -/
def truthy : Data → Bool
  | .scalar s => s.truthy
  | .list items => !items.isEmpty
  | .tuple items => !items.isEmpty
  | .map entries => !entries.isEmpty
  | .set members => !members.isEmpty
  | .again _ => true

/-- The full name of a value's kind, as messages give it. -/
def kindName : Data → String
  | .scalar s => s.kindName
  | .list _ => "list"
  | .tuple _ => "tuple"
  | .map _ => "dict"
  | .set _ => "set"
  | .again _ => "list"

/-- The last part of the name of a value's kind. -/
def shortKind (d : Data) : String :=
  String.ofList (d.kindName.toList.reverse.takeWhile (· != '.')).reverse

/-- The text, if the value is one. -/
def text? : Data → Option String
  | .scalar (.text s) => some s
  | _ => none

theorem text?_eq_some_iff {d : Data} {s : String} : d.text? = some s ↔ d = .text s := by
  constructor
  · intro h
    unfold text? at h
    split at h
    · cases h
      rfl
    · cases h
  · rintro rfl
    rfl

/-- The entries, if the value is a mapping. -/
def entries? : Data → Option (List (Scalar × Data))
  | .map entries => some entries
  | _ => none

/-- The value of a text key, if the value is a mapping that has it. -/
def field? (d : Data) (key : String) : Option Data :=
  d.entries?.bind fun entries => lookupText entries key

/-! ## How values show -/

/-- The brackets of a collection. -/
structure Brackets where
  opening : String
  closing : String

/-- The brackets of lists. -/
def Brackets.list : Brackets := ⟨"[", "]"⟩

/-- The brackets of tuples. -/
def Brackets.tuple : Brackets := ⟨"(", ")"⟩

/-- The brackets of mappings and sets. -/
def Brackets.braces : Brackets := ⟨"\x7b", "\x7d"⟩

/-- Parts between brackets. -/
def Brackets.enclose (b : Brackets) (parts : List String) : String :=
  b.opening ++ String.intercalate ", " parts ++ b.closing

/-- The parts of a tuple between its brackets; a single one has a comma behind it. -/
def encloseTuple : List String → String
  | [part] => "(" ++ part ++ ",)"
  | parts => Brackets.tuple.enclose parts

mutual

/-- A value as it shows inside collections with the given brackets, the innermost first. -/
def innerIn (around : List Brackets) : Data → String
  | .scalar s => s.inner
  | .list items => Brackets.list.enclose (innerItems (.list :: around) items)
  | .tuple items => encloseTuple (innerItems (.tuple :: around) items)
  | .map entries => Brackets.braces.enclose (innerEntries (.braces :: around) entries)
  | .set [] => "set()"
  | .set members => Brackets.braces.enclose (members.map Scalar.inner)
  | .again levels => (around[levels]?.getD .list).enclose ["..."]

/-- The items of a list as they show. -/
def innerItems (around : List Brackets) : List Data → List String
  | [] => []
  | d :: rest => innerIn around d :: innerItems around rest

/-- The entries of a mapping as they show. -/
def innerEntries (around : List Brackets) : List (Scalar × Data) → List String
  | [] => []
  | (k, d) :: rest => (k.inner ++ ": " ++ innerIn around d) :: innerEntries around rest

end

/-- A value as text of its own. -/
def plain : Data → String
  | .scalar s => s.plain
  | d => d.innerIn []

mutual

/-- Whether a value holds an integer with too many digits to be shown. -/
def tooLong : Data → Bool
  | .scalar s => s.tooLong
  | .list items => tooLongItems items
  | .tuple items => tooLongItems items
  | .map entries => tooLongEntries entries
  | .set members => members.any Scalar.tooLong
  | .again _ => false

/-- Whether one of several values holds such an integer. -/
def tooLongItems : List Data → Bool
  | [] => false
  | d :: rest => tooLong d || tooLongItems rest

/-- Whether an entry of a mapping holds such an integer. -/
def tooLongEntries : List (Scalar × Data) → Bool
  | [] => false
  | (k, d) :: rest => k.tooLong || tooLong d || tooLongEntries rest

end

/-- A value as text of its own, unless it holds an integer with too many digits. -/
def shown (d : Data) : Except DigitError String :=
  if d.tooLong then .error .showing else .ok d.plain

end Data

end BindingAudit
