import BindingAudit.Diagnostic
import BindingAudit.Journal
import BindingAudit.Rule.Verdict
import BindingAudit.Template

/-!
# The rule against native bindings

A binding that reads a property straight off a native object is reported.  Its fix declares an
alias of that property at the end of the root element and binds to the alias instead.  There is
no fix where there is no room for the declaration: the root has an empty span, or its end lies
inside the binding itself.

The wording comes from the rule's registry entry, where it has one.
-/

namespace BindingAudit

/-- The rule with its settings and its wording. -/
structure Rule where
  settings : Settings
  message : Data
  hint : Data

namespace Rule

/-- The identity of the rule. -/
def tag : RuleTag := ⟨"D03", "cpp-binding-anti-pattern"⟩

/-- The message where the registry gives none. -/
def defaultMessage : String :=
  "Property binding to C++ object detected. Consider using property alias instead."

/-- The template of the hint where the registry gives none. -/
def defaultHint : String :=
  "Add property alias: \x7bkeyword\x7d \x7balias\x7d: \x7bobject_id\x7d.\x7bproperty_name\x7d"

/-- An entry's value for a key, unless it is absent or counts as false. -/
def entryOr (entry : String → Option Data) (key default : String) : Data :=
  match entry key with
  | some d => if d.truthy then d else .text default
  | none => .text default

/-- The rule with the given settings and the values of its registry entry by key. -/
def ofEntry (settings : Settings) (entry : String → Option Data) : Rule :=
  ⟨settings, entryOr entry "message_template" defaultMessage,
    entryOr entry "hint_template" defaultHint⟩

/-- The name of the alias for a reference. -/
def aliasName (rule : Rule) (r : Reference) : String :=
  rule.settings.aliasPrefix ++ "_" ++ r.object ++ "_" ++ r.property

/-- The declaration of the alias for a reference, on a line of its own. -/
def declaration (rule : Rule) (r : Reference) : String :=
  "\n" ++ rule.settings.aliasIndent ++ rule.settings.aliasKeyword ++ " " ++ rule.aliasName r ++ ": "
    ++ r.target

/-- The hint for a reference. -/
def hintFor (rule : Rule) (r : Reference) : Except TemplateError String :=
  match rule.hint.text? with
  | none => .error (.notText rule.hint.kindName)
  | some template =>
    Template.format
      [("keyword", rule.settings.aliasKeyword), ("alias", rule.aliasName r),
        ("object_id", r.object), ("property_name", r.property)]
      template

/-- The span of the root above an element. -/
def rootSpan (t : ElementTree) (i : Nat) : Span :=
  ((t.get? (t.topOf i)).map (·.span)).getD ⟨0, 0⟩

/-- Where a declaration goes: in front of the last character of the root. -/
def insertionPoint (root : Span) : Int :=
  root.offset + root.length - 1

/-- Why a finding has no fix. -/
inductive NoFix where
  | emptyRoot
  | endInsideBinding
deriving DecidableEq, Repr

/-- Whether there is room for a declaration. -/
def noFix? (root span : Span) : Option NoFix :=
  if root.length ≤ 0 then some .emptyRoot
  else if span.enclosesPoint (insertionPoint root) then some .endInsideBinding
  else none

/-- What the journal says where there is no room for a declaration. -/
def NoFix.message : NoFix → String
  | .emptyRoot => "Root element has an empty span; reporting " ++ tag.code ++ " without a fix"
  | .endInsideBinding =>
    "Root closing position falls inside the binding; reporting " ++ tag.code ++ " without a fix"

/-- The fix for a binding that reads a reference in an element. -/
def fix (rule : Rule) (t : ElementTree) (b : Binding) (r : Reference) (i : Nat) :
    Except TemplateError (Option Fix) :=
  match noFix? (rootSpan t i) b.span with
  | some _ => .ok none
  | none => do
    let hint ← rule.hintFor r
    return some
      { message := rule.message
        tag
        edits := [Edit.insertion (insertionPoint (rootSpan t i)) (rule.declaration r),
          Edit.replacement b.span (rule.aliasName r) (some b.expression)]
        hint }

/-- The finding at a binding of an element, if there is one. -/
def diagnose (rule : Rule) (t : ElementTree) (i : Nat) (b : Binding) :
    Except TemplateError (Option Diagnostic) :=
  match Reference.ofExpression? b.expression.toList with
  | none => .ok none
  | some r =>
    if rule.settings.verdict t b.expression i = .flagged then do
      let fix ← rule.fix t b r i
      return some { message := rule.message, tag, location := b.span, fix }
    else .ok none

/-- Whether an element has anything for the rule to look at. -/
def applies (t : ElementTree) (i : Nat) : Bool :=
  !(t.bindings i).isEmpty

/-- The findings at the bindings of an element. -/
def inspect (rule : Rule) (t : ElementTree) (i : Nat) : Except TemplateError (List Diagnostic) :=
  (t.bindings i).filterMapM (rule.diagnose t i)

/-! ## The journal of the rule -/

/-- The record of a verdict. -/
def verdictEntry (b : Binding) (v : Verdict) : Entry :=
  .ofRule (tag.code ++ " on " ++ b.property ++ ": " ++ Text.quoted b.expression ++ " -> " ++ v.name)

/-- The records of an attempt to fix a binding. -/
def fixEntries (t : ElementTree) (b : Binding) (i : Nat) : List Entry :=
  ((noFix? (rootSpan t i) b.span).map fun n => Entry.ofRule n.message).toList

/-- The records of looking at a binding: none if its expression starts with no reference. -/
def bindingEntries (rule : Rule) (t : ElementTree) (i : Nat) (b : Binding) : List Entry :=
  match Reference.ofExpression? b.expression.toList with
  | none => []
  | some _ =>
    let v := rule.settings.verdict t b.expression i
    verdictEntry b v :: if v = .flagged then fixEntries t b i else []

/-- The records of looking at bindings in turn, up to the first that cannot be reported. -/
def bindingsEntries (rule : Rule) (t : ElementTree) (i : Nat) : List Binding → List Entry
  | [] => []
  | b :: rest =>
    rule.bindingEntries t i b ++
      match rule.diagnose t i b with
      | .error _ => []
      | .ok _ => rule.bindingsEntries t i rest

/-- The records of inspecting an element. -/
def inspectEntries (rule : Rule) (t : ElementTree) (i : Nat) : List Entry :=
  rule.bindingsEntries t i (t.bindings i)

/-! ## Instructions -/

/-- How to fix a reference by hand. -/
def instructions (rule : Rule) (r : Reference) : String :=
  "1. Declare '" ++ rule.settings.aliasKeyword ++ " " ++ rule.aliasName r ++ ": " ++ r.target
    ++ "' on the root element\n2. Bind to '" ++ rule.aliasName r ++ "' instead of '" ++ r.target
    ++ "'"

end Rule

end BindingAudit
