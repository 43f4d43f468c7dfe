/-!
# The journal

What the program notes about its own work, apart from its results: records with a level, the
name of the part that wrote them, and a message.
-/

namespace BindingAudit

/-- How important a record is. -/
inductive Level where
  | debug
  | info
  | warning
deriving DecidableEq, Repr

/-- The name of a level. -/
def Level.name : Level → String
  | .debug => "DEBUG"
  | .info => "INFO"
  | .warning => "WARNING"

/-- A record of the journal. -/
structure Entry where
  level : Level
  /-- The part of the program that wrote the record. -/
  origin : String
  message : String
deriving DecidableEq, Repr

namespace Entry

/-- A record of the rule. -/
def ofRule (message : String) : Entry :=
  ⟨.debug, "qml_alias_linter.domain.rules.native_binding", message⟩

/-- A warning about the configuration's contents. -/
def ofConfiguration (message : String) : Entry :=
  ⟨.warning, "qml_alias_linter.domain.config", message⟩

/-- A warning about a configuration file. -/
def ofConfigurationFile (message : String) : Entry :=
  ⟨.warning, "qml_alias_linter.infrastructure.config_file_loader", message⟩

/-- A record of the audit as a whole. -/
def ofAudit (level : Level) (message : String) : Entry :=
  ⟨level, "qml_alias_linter.use_cases.run_passes", message⟩

/-- A record of a step shown on the console. -/
def ofConsole (message : String) : Entry :=
  ⟨.info, "qml_alias_linter.interface.telemetry", message⟩

/-- A record as one line. -/
def line (e : Entry) : String :=
  e.level.name ++ " " ++ e.origin ++ ": " ++ e.message

end Entry

/-- The messages of the warnings among records. -/
def warningsOf (entries : List Entry) : List String :=
  (entries.filter fun e => e.level == .warning).map (·.message)

end BindingAudit
