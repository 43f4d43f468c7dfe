import BindingAudit.Audit
import BindingAudit.Configuration
import BindingAudit.Event
import BindingAudit.Model.Load
import BindingAudit.Registry

/-!
# Auditing documents

An auditor takes a document through an audit: it loads the element model, sets up the rules its
configuration leaves switched on, with the wording the registry gives, and reports what they
find.
-/

namespace BindingAudit

/-- Why a document cannot be audited. -/
inductive AuditError where
  | load (error : LoadError)
  | registry (error : RegistryError)
  | template (error : TemplateError)
deriving DecidableEq, Repr

/-- The wording of an audit error. -/
def AuditError.message : AuditError → String
  | .load error => error.message
  | .registry error => error.message
  | .template error => error.message

/-- A configuration and a registry to audit by. -/
structure Auditor where
  configuration : Configuration := []
  registry : Registry := Registry.standard

namespace Auditor

/-- Whether the configuration switches the rule off, by its code or its symbol. -/
def ruleDisabled (a : Auditor) : Bool :=
  a.configuration.disabledRules.contains Rule.tag.code ||
    a.configuration.disabledRules.contains Rule.tag.symbol

/-- The rules to run. -/
def rules (a : Auditor) : Except RegistryError (List Rule) :=
  if a.ruleDisabled then .ok []
  else do
    let fields ← a.registry.entry Rule.tag.code
    return [Rule.ofEntry a.configuration.settings (a.registry.field? (fields.getD []))]

/-- The report on the model at a path. -/
def report (a : Auditor) (w : Workspace) (path : String) : Except AuditError Report :=
  match Model.load w path with
  | .error e => .error (.load e)
  | .ok (t, source) =>
    match a.rules with
    | .error e => .error (.registry e)
    | .ok rules =>
      match Audit.findings rules t with
      | .error e => .error (.template e)
      | .ok diagnostics => .ok ⟨path, source, diagnostics⟩

/-! ## The journal of an audit -/

/-- The records of setting up the rules. -/
def rulesEntries (a : Auditor) : List Entry :=
  a.configuration.disabledEntries ++
    if a.ruleDisabled then
      [.ofAudit .info ("Rule " ++ Rule.tag.shown ++ " disabled by configuration")]
    else a.configuration.settingsEntries

/-- The last record of an audit. -/
def closingEntry (path : String) (t : ElementTree) (found : List Diagnostic) : Entry :=
  .ofAudit .debug (path ++ ": " ++ toString t.size ++ " element(s), " ++ toString found.length
    ++ " diagnostic(s)")

/-- The records of auditing a tree. -/
def treeEntries (a : Auditor) (path : String) (t : ElementTree) : List Entry :=
  a.rulesEntries ++
    match a.rules with
    | .error _ => []
    | .ok rules =>
      Audit.entries rules t ++
        match Audit.findings rules t with
        | .error _ => []
        | .ok found => [closingEntry path t found]

/-- The events of auditing the model at a path, up to what stops it. -/
def events (a : Auditor) (w : Workspace) (path : String) : List Event :=
  Event.step ("Linting " ++ path) ++
    match Model.load w path with
    | .error _ => []
    | .ok (t, _) => (a.treeEntries path t).map Event.entry

end Auditor

end BindingAudit
