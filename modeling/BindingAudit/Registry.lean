import BindingAudit.Text.Utf8
import BindingAudit.Yaml.Reader

/-!
# The rule registry

What is said about the rules to their users: one entry for each rule code, with a symbolic name,
descriptions, templates for messages, and instructions.  A registry is a YAML document of the
user's, so an entry may turn out not to be a mapping; a list of pairs is taken for one.
-/

namespace BindingAudit

/-- A rule registry: a document whose entries are named by rule codes. -/
structure Registry where
  document : Document

/-- The fields of a registry entry: parts of the registry by key. -/
abbrev Fields := List (Scalar × Part)

/-- Why a registry entry cannot be taken for a mapping, or a value of it not be shown. -/
inductive RegistryError where
  /-- The entry of the named kind has no fields to look into. -/
  | noFields (kind : String)
  | notIterable (kind : String)
  | notPair (index : Nat)
  | pairLength (index length : Nat)
  | unhashable (kind : String)
  | digits (error : DigitError)
deriving DecidableEq, Repr

/-- The wording of a registry error. -/
def RegistryError.message : RegistryError → String
  | .noFields kind => "'" ++ kind ++ "' object has no attribute 'get'"
  | .notIterable kind => "'" ++ kind ++ "' object is not iterable"
  | .notPair index =>
    "cannot convert dictionary update sequence element #" ++ toString index ++ " to a sequence"
  | .pairLength index length =>
    "dictionary update sequence element #" ++ toString index ++ " has length " ++ toString length
      ++ "; 2 is required"
  | .unhashable kind => "unhashable type: '" ++ kind ++ "'"
  | .digits error => error.message

namespace Registry

/-- The registry of a value. -/
def ofData (d : Data) : Registry :=
  ⟨Document.ofData d⟩

/-- A registry without entries. -/
def empty : Registry :=
  ofData (.map [])

/-- The entries of a registry by code; none but a mapping has entries. -/
def coded (r : Registry) : Fields :=
  match r.document.node r.document.top with
  | .map entries => entries.map fun e => (e.1, .node e.2)
  | _ => []

/-- The value of a field. -/
def field? (r : Registry) (fields : Fields) (key : String) : Option Data :=
  (lookupText fields key).map r.document.data

/-- The fields with their values. -/
def values (r : Registry) (fields : Fields) : List (Scalar × Data) :=
  fields.map fun e => (e.1, r.document.data e.2)

/-- The items of a value that must have some. -/
def items (r : Registry) (p : Part) : Except RegistryError (List Part) :=
  match r.document.items? p with
  | some items => .ok items
  | none => .error (.notIterable (r.document.look p).kindName)

/-- The kind of a node that keeps it from being a key: its own, or that of the first item of a
tuple that cannot be one. -/
def unhashable? (r : Registry) : Node → Option String
  | .scalar _ => none
  | .tuple items =>
    items.findSome? fun i =>
      match r.document.node i with
      | .scalar _ | .tuple _ => none
      | other => some other.kindName
  | other => some other.kindName

/-- Take an item of a list, with its number, for a key and a value.  The result has the key if it
is a scalar: by no other key is a field looked up. -/
def pair (r : Registry) (index : Nat) (p : Part) : Except RegistryError (Option Scalar × Part) :=
  match r.document.items? p with
  | none => .error (.notPair index)
  | some [k, v] =>
    let node := r.document.look k
    match r.unhashable? node, node with
    | some kind, _ => .error (.unhashable kind)
    | none, .scalar key => .ok (some key, v)
    | none, _ => .ok (none, v)
  | some parts => .error (.pairLength index parts.length)

/-- Take items, numbered from `index`, for the entries of a mapping. -/
def pairsFrom (r : Registry) (done : Fields) : Nat → List Part → Except RegistryError Fields
  | _, [] => .ok done
  | index, p :: rest => do
    let done :=
      match ← r.pair index p with
      | (some key, value) => setEntry done key value
      | (none, _) => done
    r.pairsFrom done (index + 1) rest

/-- The fields of a registry entry. -/
def fields (r : Registry) (p : Part) : Except RegistryError Fields :=
  match r.document.look p with
  | .map entries => .ok (entries.map fun e => (e.1, .node e.2))
  | _ => do r.pairsFrom [] 0 (← r.items p)

/-- The fields of the first of several entries with the given symbol. -/
def fieldsBySymbol (r : Registry) (symbol : String) :
    List Part → Except RegistryError (Option Fields)
  | [] => .ok none
  | p :: rest =>
    match r.document.look p with
    | .map entries =>
      match (lookupText entries "symbol").map r.document.node with
      | some (.scalar (.text s)) =>
        if s = symbol then .ok (some (entries.map fun e => (e.1, .node e.2)))
        else r.fieldsBySymbol symbol rest
      | _ => r.fieldsBySymbol symbol rest
    | other => .error (.noFields other.kindName)

/-- The fields of the entry of a rule, by its code or its symbol. -/
def entry (r : Registry) (rule : String) : Except RegistryError (Option Fields) :=
  match lookupText r.coded rule with
  | some p =>
    if (r.document.look p).truthy then some <$> r.fields p
    else r.fieldsBySymbol rule (r.coded.map (·.2))
  | none => r.fieldsBySymbol rule (r.coded.map (·.2))

/-- The instructions for fixing a finding by hand. -/
def instructions (r : Registry) (rule : String) : Except RegistryError String := do
  match (← r.entry rule).bind fun fields => r.field? fields "manual_instructions" with
  | some d =>
    match d.shown with
    | .ok text => return text
    | .error e => .error (.digits e)
  | none => return "See project docs. Fix the binding at the reported location."

/-- All entries with their fields, in order. -/
def entries (r : Registry) : Except RegistryError (List (Scalar × Fields)) :=
  r.coded.mapM fun e => do return (e.1, ← r.fields e.2)

/-! ## Reading registries -/

/-- Why a registry cannot be read. -/
inductive ReadError where
  | decoding (fault : Text.Utf8.Fault)
  | yaml (fault : Yaml.Fault)
deriving DecidableEq, Repr

/-- The wording of a read error. -/
def ReadError.message : ReadError → String
  | .decoding fault => fault.message
  | .yaml .malformed => "not valid YAML"
  | .yaml (.value fault) => fault.message

/-- Read a registry. -/
def read (bytes : List UInt8) : Except ReadError Registry :=
  match Text.Utf8.decode bytes with
  | .error fault => .error (.decoding fault)
  | .ok cs =>
    match Yaml.read cs with
    | .error fault => .error (.yaml fault)
    | .ok d => .ok ⟨d⟩

/-- The registry the program comes with. -/
def standard : Registry := ofData (.record [
  ("D03", .record [
    ("symbol", .text "cpp-binding-anti-pattern"),
    ("display_name", .text "C++ Object Binding"),
    ("short_description", .text
      "Binding reads a property directly from a natively registered (C++) object."),
    ("message_template", .text
      "Property binding to C++ object detected. Consider using property alias instead."),
    ("hint_template", .text
      "Add property alias: \x7bkeyword\x7d \x7balias\x7d: \x7bobject_id\x7d.\x7bproperty_name\x7d"),
    ("manual_instructions", .text
      ("Declare an alias on the document root that re-exposes the native object's property (for"
        ++ " example `property alias als_timer_interval: timer.interval`) and bind to the alias"
        ++ " instead of reaching into the C++ object. Enum-valued properties and qualified"
        ++ " constants (Type::Value) are exempt.")),
    ("fixable", .bool true),
    ("references", .list [.text
      "https://doc.qt.io/qt-6/qtqml-syntax-objectattributes.html#property-aliases"])])])

end Registry

end BindingAudit
