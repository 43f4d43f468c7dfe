import BindingAudit.Summary
import BindingAudit.Workspace.ConfigurationFile

/-!
# Services

The parts a run is put together from, by name.  The set is made when it is first asked for and
kept until it is given up; a number tells one set from the next.
-/

namespace BindingAudit

/-- A part of a run. -/
inductive Service where
  | configuration (table : Configuration)
  | configurationPath (path : Option String)
  | console
  | files
  | models
  | registry
  | reporter (format : Format)
  /-- A text put in place of a part, or beside them. -/
  | text (value : String)

/-- A name under which there is no service. -/
structure ServiceError where
  name : String
deriving DecidableEq, Repr

/-- The wording of a service error. -/
def ServiceError.message (e : ServiceError) : String :=
  "Dependency '" ++ e.name ++ "' not registered."

/-- Services by name. -/
abbrev Services := List (String × Service)

namespace Services

/-- The services of a run with a configuration. -/
def standard (c : ConfigurationSource) : Services := [
  ("ConfigurationLoader", .configuration c.table),
  ("ConfigPath", .configurationPath c.path),
  ("TelemetryPort", .console),
  ("FileSystemGateway", .files),
  ("ElementModelGateway", .models),
  ("GuidanceService", .registry),
  ("TerminalReporter", .reporter .table),
  ("JsonReporter", .reporter .json)]

/-- The service of a name. -/
def get (s : Services) (name : String) : Except ServiceError Service :=
  match s.find? fun e => e.1 == name with
  | some (_, service) => .ok service
  | none => .error ⟨name⟩

/-- Put a service under a name, in place of the one that was there. -/
def register : Services → String → Service → Services
  | [], name, service => [(name, service)]
  | e :: rest, name, service =>
    if e.1 = name then (name, service) :: rest else e :: register rest name service

/-- The name of the reporter for a format; every format but JSON has the table. -/
def reporterName (format : String) : String :=
  match Format.ofName? format with
  | some .json => "JsonReporter"
  | _ => "TerminalReporter"

/-- The reporter for a format. -/
def reporter (s : Services) (format : String) : Except ServiceError Service :=
  s.get (reporterName format)

end Services

/-- The set of services in use, with its number, and the number of the next one. -/
structure ServiceHolder where
  next : Nat := 0
  current : Option (Nat × Services) := none

namespace ServiceHolder

/-- The set in use; if there is none, a new one is made. -/
def obtain (h : ServiceHolder) (c : ConfigurationSource) : (Nat × Services) × ServiceHolder :=
  match h.current with
  | some set => (set, h)
  | none =>
    let set := (h.next, Services.standard c)
    (set, ⟨h.next + 1, some set⟩)

/-- Give the set in use up. -/
def reset (h : ServiceHolder) : ServiceHolder :=
  { h with current := none }

end ServiceHolder

end BindingAudit
