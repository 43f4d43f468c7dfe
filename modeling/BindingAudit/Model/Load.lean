import BindingAudit.Json.Reader
import BindingAudit.Model.Basic
import BindingAudit.Yaml.Reader

/-!
# Loading element models

A model is read from a file: JSON if its path ends in `.json`, YAML otherwise.  The source it
names is looked for next to the model.
-/

namespace BindingAudit

/-- Why a model cannot be loaded: it is no element model, it holds a scalar that denotes no value
or goes beyond what is read, or its path is none. -/
inductive LoadError where
  | model (path : String) (fault : ModelFault)
  | value (fault : Yaml.ValueFault)
  | digits (error : DigitError)
  /-- Collections of JSON are nested too deep. -/
  | tooDeep (message : String)
  | access (error : AccessError)
deriving DecidableEq, Repr

/-- The wording of a load error. -/
def LoadError.message : LoadError → String
  | .model path fault => fault.message path
  | .value fault => fault.message
  | .digits error => error.message
  | .tooDeep message => message
  | .access error => error.message

namespace Model

/-- Whether a path names a JSON document. -/
def isJsonPath (path : String) : Bool :=
  path.endsWith ".json"

/-- Read the text of a model as a document. -/
def parse (path : String) (text : String) : Except LoadError Document :=
  if isJsonPath path then
    match Json.read text.toList with
    | .ok d => .ok (Document.ofData d)
    | .error (.fault f) => .error (.model path ⟨.notJson (f.message text.toList), ""⟩)
    | .error (.digits error) => .error (.digits error)
    | .error error => .error (.tooDeep (error.message text.toList))
  else
    match Yaml.read text.toList with
    | .ok d => .ok d
    | .error .malformed => .error (.model path ⟨.notYaml, ""⟩)
    | .error (.value fault) => .error (.value fault)

/-- The path of the source a model names. -/
def sourceOf (path : String) : Node → Except ModelFault (Option String)
  | .scalar .null => .ok none
  | .scalar (.text s) =>
    if s = "" then .error ⟨.source, "source"⟩
    else .ok (some (Path.join [(Path.ofText path).parent.shown, s]).shown)
  | _ => .error ⟨.source, "source"⟩

/-- The tree and the source of a document at a path. -/
def ofDocument (path : String) (d : Document) : Except ModelFault (ElementTree × Option String) :=
  match d.node d.top with
  | .map entries =>
    match lookupText entries "root" with
    | none => .error ⟨.noRoot, ""⟩
    | some root => do
      let t ← buildTree d root
      let source ← sourceOf path (fieldNode d entries "source")
      return (t, source)
  | _ => .error ⟨.noRoot, ""⟩

/-- Load the model at a path. -/
def load (w : Workspace) (path : String) : Except LoadError (ElementTree × Option String) :=
  match w.readText path with
  | .error (.file error _) => .error (.model path ⟨.unreadable error, ""⟩)
  | .error (.decoding fault) => .error (.model path ⟨.notUtf8 fault, ""⟩)
  | .error .nullByte => .error (.access .nullByte)
  | .ok text => do
    let d ← parse path text
    match ofDocument path d with
    | .ok loaded => return loaded
    | .error fault => .error (.model path fault)

end Model

end BindingAudit
