import BindingAudit.Data.Basic
import BindingAudit.Journal
import BindingAudit.Settings
import BindingAudit.Text.Quoted

/-!
# Configuration

A configuration table as it was read, and the settings it gives.  A key that is not known is
ignored; a value of the wrong kind, and a list item that is not a text or empty, count as absent.
Lists add to the built-in ones.  Reading a value that has the wrong kind leaves a warning each
time; unknown keys are warned about once, in alphabetical order, when the table is taken up.
-/

namespace BindingAudit

/-- A configuration table. -/
abbrev Configuration := List (Scalar × Data)

namespace Configuration

/-- The keys that mean something. -/
def knownKeys : List String := [
  "native_type_prefix", "native_base_types", "enum_exemption_terms", "alias_prefix",
  "alias_keyword", "alias_indent", "disabled_rules"]

/-! ## Reading values -/

/-- The text under a key, or the default. -/
def text (c : Configuration) (key default : String) : String :=
  match lookupText c key with
  | some (.scalar (.text s)) => s
  | _ => default

/-- The items of a value that counts as a list. -/
def itemsOf? : Data → Option (List Data)
  | .list items | .tuple items => some items
  | .set members => some (members.map .scalar)
  | _ => none

/-- The texts in the list under a key that are not empty. -/
def texts (c : Configuration) (key : String) : List String :=
  match (lookupText c key).bind itemsOf? with
  | some items => items.filterMap fun d => d.text?.filter (· != "")
  | none => []

/-- Add the texts that are not in a list yet to its end, in order. -/
def addNew (known : List String) : List String → List String
  | [] => known
  | s :: rest => addNew (if known.contains s then known else known ++ [s]) rest

/-- The settings a configuration gives. -/
def settings (c : Configuration) : Settings :=
  let default : Settings := {}
  { nativePrefix := c.text "native_type_prefix" default.nativePrefix
    nativeTypes := addNew default.nativeTypes (c.texts "native_base_types")
    exemptTerms := addNew default.exemptTerms (c.texts "enum_exemption_terms")
    aliasPrefix := c.text "alias_prefix" default.aliasPrefix
    aliasKeyword := c.text "alias_keyword" default.aliasKeyword
    aliasIndent := c.text "alias_indent" default.aliasIndent }

/-- The rules a configuration switches off, by code or symbol. -/
def disabledRules (c : Configuration) : List String :=
  addNew [] (c.texts "disabled_rules")

/-! ## Warnings -/

/-- The warning left by reading a text. -/
def textEntries (c : Configuration) (key default : String) : List Entry :=
  match lookupText c key with
  | none | some (.scalar (.text _)) => []
  | some _ =>
    [.ofConfiguration ("Configuration Warning: '" ++ key ++ "' must be a string; using "
      ++ Text.quoted default ++ ".")]

/-- The warning left by reading a list. -/
def textsEntries (c : Configuration) (key : String) : List Entry :=
  match (lookupText c key).map itemsOf? with
  | none | some (some _) => []
  | some none =>
    [.ofConfiguration ("Configuration Warning: '" ++ key
      ++ "' must be a list of strings; ignoring it.")]

/-- The warnings left by reading the settings. -/
def settingsEntries (c : Configuration) : List Entry :=
  let default : Settings := {}
  c.textEntries "native_type_prefix" default.nativePrefix
    ++ c.textsEntries "native_base_types"
    ++ c.textsEntries "enum_exemption_terms"
    ++ c.textEntries "alias_prefix" default.aliasPrefix
    ++ c.textEntries "alias_keyword" default.aliasKeyword
    ++ c.textEntries "alias_indent" default.aliasIndent

/-- The warnings left by reading which rules are switched off. -/
def disabledEntries (c : Configuration) : List Entry :=
  c.textsEntries "disabled_rules"

/-- The keys of a configuration that mean nothing, in alphabetical order. -/
def unknownKeys (c : Configuration) : List String :=
  Text.sorted ((c.filterMap fun e =>
    match e.1 with
    | .text key => some key
    | _ => none).filter fun key => !knownKeys.contains key)

/-- The warnings left by taking a configuration up. -/
def unknownEntries (c : Configuration) : List Entry :=
  c.unknownKeys.map fun key =>
    .ofConfiguration ("Configuration Warning: unknown key '" ++ key
      ++ "' in [tool.qml-alias-lint] is ignored.")

end Configuration

end BindingAudit
