import BindingAudit.Proofs.Element.Scope
import BindingAudit.Proofs.Reference.Grammar
import BindingAudit.Rule.Verdict

/-!
# What is flagged

`Settings.AntiPattern` says without any search which expressions are flagged: those that read as a
reference whose object means a declaration of a native type, and that do not look like the access
to an enumeration.  The verdict is `flagged` exactly for them (`verdict_eq_flagged_iff`).

Each part of the verdict is opened by a lemma of its own: what a text contains, which types are
native, what an id means, and which accesses are exempt.
-/

namespace BindingAudit

/-- One text occurs in another exactly if it is a contiguous piece of it. -/
theorem Text.occursIn_iff {part cs : List Char} :
    Text.occursIn part cs = true ↔ part <:+: cs := by
  induction cs with
  | nil => simp [occursIn]
  | cons c rest ih =>
    rw [occursIn, Bool.or_eq_true, List.isPrefixOf_iff_prefix, ih, List.infix_cons_iff]

namespace Settings

/-- A type is native: its name starts with the prefix, unless that is empty, or it is listed. -/
def Native (s : Settings) (typeName : String) : Prop :=
  (s.nativePrefix ≠ "" ∧ s.nativePrefix.toList <+: typeName.toList) ∨ typeName ∈ s.nativeTypes

/-- An expression in an element reads a reference straight off a native object. -/
structure ReadsNative (s : Settings) (t : ElementTree) (i : Nat) (expression : String)
    (r : Reference) : Prop where
  reads : ∃ lead before after remainder,
    Reference.Reads expression.toList r lead before after remainder
  /-- The nearest declaration of the object has a native type. -/
  native : ∃ k e, t.Nearest r.object i k ∧ t.get? k = some e ∧ s.Native e.typeName
  /-- Nothing in the expression is qualified by two colons. -/
  unqualified : ¬ [':', ':'] <:+: expression.toList
  /-- The property's name holds no exempt term, in any case. -/
  ordinary : ∀ term ∈ s.exemptTerms,
    ¬ Text.foldCase term.toList <:+: Text.foldCase r.property.toList

/-- An expression in an element that is to be flagged. -/
def AntiPattern (s : Settings) (t : ElementTree) (i : Nat) (expression : String) : Prop :=
  ∃ r, s.ReadsNative t i expression r

theorem isNativeType_iff {s : Settings} {typeName : String} :
    s.isNativeType typeName = true ↔ s.Native typeName := by
  simp only [isNativeType, Native, Bool.or_eq_true, Bool.and_eq_true, bne_iff_ne, ne_eq,
    List.isPrefixOf_iff_prefix, List.contains_iff_mem]

theorem refersToNative_iff {s : Settings} {t : ElementTree} (hl : Linked t.elements) {id : String}
    {i : Nat} :
    t.refersToNative s id i = true ↔
      ∃ k e, t.Nearest id i k ∧ t.get? k = some e ∧ s.Native e.typeName := by
  simp only [ElementTree.refersToNative_eq_true_iff, ElementTree.declaration?_eq_some_iff hl,
    isNativeType_iff]

theorem isEnumAccess_eq_false_iff {s : Settings} {expression : String} {r : Reference} :
    s.isEnumAccess expression r = false ↔ ¬ [':', ':'] <:+: expression.toList ∧
      ∀ term ∈ s.exemptTerms,
        ¬ Text.foldCase term.toList <:+: Text.foldCase r.property.toList := by
  rw [isEnumAccess, Bool.or_eq_false_iff, List.any_eq_false, ← Bool.not_eq_true, Text.occursIn_iff]
  simp only [Text.occursIn_iff]

/-- The verdict on an expression that reads as a reference. -/
theorem verdict_of_reference {s : Settings} {t : ElementTree} {expression : String} {i : Nat}
    {r : Reference} (hr : Reference.ofExpression? expression.toList = some r) :
    s.verdict t expression i =
      if t.refersToNative s r.object i then
        if s.isEnumAccess expression r then .exempt else .flagged
      else .notNative := by
  unfold verdict isAntiPattern
  simp only [hr]
  cases t.refersToNative s r.object i <;> cases s.isEnumAccess expression r <;> rfl

/-- A reference is flagged where it is read off a native object and is no enumeration. -/
theorem verdict_eq_flagged_iff_of_reference {s : Settings} {t : ElementTree}
    {expression : String} {i : Nat} {r : Reference}
    (hr : Reference.ofExpression? expression.toList = some r) :
    s.verdict t expression i = .flagged ↔
      t.refersToNative s r.object i = true ∧ s.isEnumAccess expression r = false := by
  rw [verdict_of_reference hr]
  cases t.refersToNative s r.object i <;> cases s.isEnumAccess expression r <;> simp

/-- **Sound and complete**: an expression is flagged exactly if it is an anti-pattern. -/
theorem verdict_eq_flagged_iff {s : Settings} {t : ElementTree} (hl : Linked t.elements)
    {expression : String} {i : Nat} :
    s.verdict t expression i = .flagged ↔ s.AntiPattern t i expression := by
  constructor
  · intro h
    cases hr : Reference.ofExpression? expression.toList with
    | none =>
      simp only [verdict, hr] at h
      cases h
    | some r =>
      obtain ⟨hnative, henum⟩ := (verdict_eq_flagged_iff_of_reference hr).mp h
      obtain ⟨hqualified, hterms⟩ := isEnumAccess_eq_false_iff.mp henum
      exact ⟨r, Reference.ofExpression?_reads hr, (refersToNative_iff hl).mp hnative, hqualified,
        hterms⟩
  · rintro ⟨r, hreads, hnative, hqualified, hterms⟩
    have hr := Reference.ofExpression?_eq_some_iff.mpr hreads
    rw [verdict_eq_flagged_iff_of_reference hr, refersToNative_iff hl, isEnumAccess_eq_false_iff]
    exact ⟨hnative, hqualified, hterms⟩

end Settings

end BindingAudit
