import BindingAudit.Element.Scope
import BindingAudit.Reference
import BindingAudit.Text.CaseFold

/-!
# Verdicts on bindings

A binding is flagged if its expression starts with a reference to a property of a native object
and the access does not look like an enumeration: neither does the expression contain `::`, nor
the property's name, in any case, one of the exempt terms.
-/

namespace BindingAudit

/-- The outcome of judging one binding. -/
inductive Verdict where
  | noCandidate
  | notNative
  | exempt
  | flagged
deriving DecidableEq, Repr

/-- The name of a verdict. -/
def Verdict.name : Verdict → String
  | .noCandidate => "no_candidate"
  | .notNative => "not_native"
  | .exempt => "exempt"
  | .flagged => "flagged"

namespace Settings

/-- Whether an expression that starts with a reference accesses an enumeration. -/
def isEnumAccess (s : Settings) (expression : String) (r : Reference) : Bool :=
  Text.occursIn [':', ':'] expression.toList ||
    s.exemptTerms.any fun term =>
      Text.occursIn (Text.foldCase term.toList) (Text.foldCase r.property.toList)

/-- Whether an expression in an element reads a reference straight off a native object. -/
def isAntiPattern (s : Settings) (t : ElementTree) (expression : String) (r : Reference)
    (i : Nat) : Bool :=
  t.refersToNative s r.object i && !s.isEnumAccess expression r

/-- The verdict on an expression in an element. -/
def verdict (s : Settings) (t : ElementTree) (expression : String) (i : Nat) : Verdict :=
  match Reference.ofExpression? expression.toList with
  | none => .noCandidate
  | some r =>
    if s.isAntiPattern t expression r i then .flagged
    else if t.refersToNative s r.object i then .exempt
    else .notNative

end Settings

end BindingAudit
