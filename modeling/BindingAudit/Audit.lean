import BindingAudit.Rule.Basic

/-!
# Audits

An audit offers every element of a tree to its rules, in document order and for each element in
the order in which the rules were registered.  Findings that were emitted before a run do not
count for it.
-/

namespace BindingAudit

/-- The registered rules and the findings emitted so far. -/
structure Audit where
  rules : List Rule := []
  emitted : List Diagnostic := []

namespace Audit

/-- Register a rule after the others. -/
def register (a : Audit) (r : Rule) : Audit :=
  { a with rules := a.rules ++ [r] }

/-- Record a finding. -/
def emit (a : Audit) (d : Diagnostic) : Audit :=
  { a with emitted := a.emitted ++ [d] }

/-- The pairs of an element and a rule, in the order in which they meet. -/
def visits (rules : List Rule) (t : ElementTree) : List (Nat × Rule) :=
  t.walk.flatMap fun i => rules.map fun r => (i, r)

/-- The findings of rules on a tree. -/
def findings (rules : List Rule) (t : ElementTree) : Except TemplateError (List Diagnostic) :=
  List.flatten <$> (visits rules t).mapM fun v => v.2.inspect t v.1

/-- The records of visits in turn, up to the first that fails. -/
def visitEntries (t : ElementTree) : List (Nat × Rule) → List Entry
  | [] => []
  | (i, r) :: rest =>
    r.inspectEntries t i ++
      match r.inspect t i with
      | .error _ => []
      | .ok _ => visitEntries t rest

/-- The records of a run of rules on a tree. -/
def entries (rules : List Rule) (t : ElementTree) : List Entry :=
  visitEntries t (visits rules t)

/-- Run the rules on a tree: the findings, and the audit that holds them. -/
def run (a : Audit) (t : ElementTree) : Except TemplateError (List Diagnostic × Audit) := do
  let found ← findings a.rules t
  return (found, { a with emitted := found })

end Audit

end BindingAudit
