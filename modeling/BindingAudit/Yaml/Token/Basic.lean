import BindingAudit.Yaml.Fault

/-!
# Tokens of a YAML text

The tokens that indicators, scalars and indentation give rise to.  A block collection is opened
by a start token and closed by `blockEnd`, so that a reader of tokens never looks at columns.
Where the text cannot be cut any further, the last token tells why.
-/

namespace BindingAudit.Yaml

/-- A token. -/
inductive Token where
  | versionDirective (major : Nat)
  | tagDirective (handle uri : String)
  | otherDirective
  | documentStart
  | documentEnd
  | blockSequenceStart
  | blockMappingStart
  | blockEnd
  | flowSequenceStart
  | flowSequenceEnd
  | flowMappingStart
  | flowMappingEnd
  | blockEntry
  | flowEntry
  | key
  | value
  /-- A reference to an anchored node. -/
  | reference (name : String)
  | anchor (name : String)
  /-- A tag: its handle, if it has one, and its suffix. -/
  | tag (handle : Option String) (suffix : String)
  /-- A scalar and whether it was written plain. -/
  | scalar (text : String) (plain : Bool)
  | streamEnd
  /-- The place from which no tokens could be cut. -/
  | broken (fault : Fault)
deriving DecidableEq, Repr, Inhabited

end BindingAudit.Yaml
