import BindingAudit.Edit.Basic

/-!
# Diagnostics and reports

A diagnostic says that a rule found something at a span, and may carry a fix: edits that are
complete in themselves.  A report collects the diagnostics of one document.

A message is a document value: it comes from the rule registry, where it is usually, but not
necessarily, a text.
-/

namespace BindingAudit

/-- The identity of a rule. -/
structure RuleTag where
  code : String
  symbol : String
deriving DecidableEq, Repr, Inhabited

/-- A tag as it is shown. -/
def RuleTag.shown (t : RuleTag) : String :=
  t.code ++ "(" ++ t.symbol ++ ")"

/-- A fix for one finding. -/
structure Fix where
  message : Data
  tag : RuleTag
  edits : List Edit
  hint : String

/-- The record of a fix. -/
def Fix.toData (f : Fix) : Data :=
  .record [("message", f.message), ("tag", .text f.tag.symbol), ("hint", .text f.hint),
    ("edits", .list (f.edits.map Edit.toData))]

/-- A finding. -/
structure Diagnostic where
  message : Data
  tag : RuleTag
  location : Span
  fix : Option Fix := none

namespace Diagnostic

/-- Whether a finding comes with a fix. -/
def fixable (d : Diagnostic) : Bool :=
  d.fix.isSome

/-- The record of a finding. -/
def toData (d : Diagnostic) : Data :=
  .record [("code", .text d.tag.code), ("symbol", .text d.tag.symbol), ("message", d.message),
    ("location", .record [("offset", .int d.location.offset), ("length", .int d.location.length)]),
    ("fix", (d.fix.map Fix.toData).getD .null)]

end Diagnostic

/-- The findings of one document. -/
structure Report where
  /-- The path of the element model. -/
  model : String
  /-- The path of the source the model describes, if it names one. -/
  source : Option String
  diagnostics : List Diagnostic := []

namespace Report

/-- Whether there are findings. -/
def hasViolations (r : Report) : Bool :=
  !r.diagnostics.isEmpty

/-- The path a reader knows the document by: a source path that is not empty, else the model. -/
def subject (r : Report) : String :=
  match r.source with
  | some s => if s.isEmpty then r.model else s
  | none => r.model

/-- The fixes of a report, in order. -/
def fixes (r : Report) : List Fix :=
  r.diagnostics.filterMap (·.fix)

/-- Keep the edits of a list that are not insertions made before.  `seen` holds the insertions
already kept. -/
def dropRepeated : List Edit → List Edit → List Edit
  | _, [] => []
  | seen, e :: rest =>
    if e.kind = .insertion then
      if e ∈ seen then dropRepeated seen rest else e :: dropRepeated (e :: seen) rest
    else e :: dropRepeated seen rest

/-- The edits of all fixes in order; equal insertions are kept once, at their first place. -/
def edits (r : Report) : List Edit :=
  dropRepeated [] (r.fixes.flatMap (·.edits))

/-- The record of a report. -/
def toData (r : Report) : Data :=
  .record [("model", .text r.model), ("source", (r.source.map Data.text).getD .null),
    ("diagnostics", .list (r.diagnostics.map Diagnostic.toData))]

end Report

end BindingAudit
