import BindingAudit.Configuration
import BindingAudit.Toml.Reader
import BindingAudit.Workspace.Basic

/-!
# Configuration files

The configuration is the table `tool.qml-alias-lint` of the nearest `pyproject.toml`, from a
start directory upwards, that has one.  A file that the system refuses to read or that is no TOML
leaves a warning and is passed over, and so is a file without that table, silently.  A file that is
no text at all, or holds more than can be read, stops the search, and so does a path that cannot be
followed for its length.
-/

namespace BindingAudit

/-- A configuration and the path of the file it came from, if it came from one. -/
structure ConfigurationSource where
  table : Configuration := []
  path : Option String := none

/-- Why no configuration can be taken up. -/
inductive ConfigurationError where
  | access (error : AccessError)
  | toml (fault : Toml.Fault)
deriving DecidableEq, Repr

/-- The wording of a configuration error. -/
def ConfigurationError.message : ConfigurationError → String
  | .access error => error.message
  | .toml fault => fault.message

namespace Workspace

/-- The place a path leads to if every name on it is taken at its word; `none` outside the
base. -/
def resolve? (w : Workspace) (path : String) : Option Place := do
  let (start, names) ← w.origin? path
  names.foldlM
    (fun (p : Place) name =>
      if name = "" ∨ name = "." then some p
      else if name = ".." then (if p = [] then none else some p.dropLast)
      else some (p ++ [name]))
    start

/-- A place and the places above it, up to the base. -/
def upwards (p : Place) : List Place :=
  (List.range (p.length + 1)).reverse.map p.take

/-- The full path of a place. -/
def fullPath (w : Workspace) (p : Place) : String :=
  String.intercalate "/" (w.base :: p)

/-- The table of the tool in a configuration file, if it has one. -/
def toolTable? (t : Toml.Table) : Option Configuration :=
  match (lookupText t "tool").bind (·.field? "qml-alias-lint") with
  | some (.map table) => some table
  | _ => none

/-- What is found where a configuration file may be. -/
inductive Offer where
  | nothing
  /-- There is a file, but the system refuses to read it. -/
  | refused
  | text (cs : List Char)

/-- The place of the configuration file in a directory. -/
def configurationPlace (q : Place) : Place :=
  q ++ ["pyproject.toml"]

/-- The path of the configuration file in a directory. -/
def configurationPath (w : Workspace) (q : Place) : String :=
  w.fullPath (configurationPlace q)

/-- What is found where the configuration file in a directory may be. -/
def configurationOffer (w : Workspace) (q : Place) : Except ConfigurationError Offer :=
  match w.stat (w.configurationPath q) with
  | .error e => .error (.access e)
  | .ok (some (.file bytes)) =>
    if (w.unreadable (configurationPlace q)).isSome then .ok .refused
    else
      match Text.Utf8.decode bytes with
      | .error fault => .error (.access (.decoding fault))
      | .ok cs => .ok (.text cs)
  | .ok _ => .ok .nothing

/-- The warning about the configuration file in a directory. -/
def couldNotRead (w : Workspace) (q : Place) : Entry :=
  .ofConfigurationFile ("Could not read " ++ w.configurationPath q)

/-- Search directories in turn for a configuration.  The records tell of files that cannot be read
as TOML. -/
def searchConfiguration (w : Workspace) :
    List Place → List Entry × Except ConfigurationError ConfigurationSource
  | [] => ([], .ok {})
  | q :: rest =>
    match w.configurationOffer q with
    | .error e => ([], .error e)
    | .ok .nothing => w.searchConfiguration rest
    | .ok .refused =>
      let (entries, found) := w.searchConfiguration rest
      (w.couldNotRead q :: entries, found)
    | .ok (.text cs) =>
      match Toml.read cs with
      | .error .malformed =>
        let (entries, found) := w.searchConfiguration rest
        (w.couldNotRead q :: entries, found)
      | .error fault => ([], .error (.toml fault))
      | .ok t =>
        match toolTable? t with
        | some table => ([], .ok ⟨table, some (w.configurationPath q)⟩)
        | none => w.searchConfiguration rest

/-- The configuration that holds in a directory, the working directory if none is given. -/
def configuration (w : Workspace) (start : Option String) :
    List Entry × Except ConfigurationError ConfigurationSource :=
  let path := start.getD "."
  if hasNull path then ([], .error (.access .nullByte))
  else
    match w.resolve? path with
    | none => ([], .ok {})
    | some p => w.searchConfiguration (upwards p)

end Workspace

end BindingAudit
