import BindingAudit.Proofs.Reference.Grammar
import BindingAudit.Proofs.Rule.Findings

/-!
# What a fix leaves of an expression

A fix replaces the whole expression of a binding by an alias, but only the start of the expression
is looked at.  The alias stands for that start: whatever follows the property is a remainder that
the fix drops.  The alias says the same as the expression exactly if there is no remainder.
-/

namespace BindingAudit

/-! ## Section 1: The remainder of an expression -/

namespace Reference

theorem squeeze_target {r : Reference} (hobject : IsIdentifier r.object.toList)
    (hproperty : IsIdentifier r.property.toList) :
    Text.squeeze r.target.toList = r.target.toList := by
  apply Text.squeeze_eq_self
  intro c hc
  simp only [target, String.toList_append, List.mem_append] at hc
  rcases hc with (hc | hc) | hc
  · exact hobject.isBlank_eq_false c hc
  · obtain rfl : c = '.' := List.mem_singleton.mp hc
    decide
  · exact hproperty.isBlank_eq_false c hc

namespace Reads

variable {expression lead before after remainder : List Char} {r : Reference}

/-- The target says the same as the expression, blanks apart, exactly if nothing follows the
property. -/
theorem squeeze_eq_target_iff (h : Reads expression r lead before after remainder) :
    Text.squeeze expression = Text.squeeze r.target.toList ↔ Text.trimEnd remainder = [] := by
  rw [h.squeeze_eq, squeeze_target h.object_identifier h.property_identifier,
    List.append_right_eq_self, Text.squeeze_eq_nil_iff, Text.trimEnd_eq_nil_iff]

/-- The remainder without its last blanks cannot prolong the property either. -/
theorem trimEnd_remainder_head (h : Reads expression r lead before after remainder) :
    ∀ c ∈ (Text.trimEnd remainder).head?, Text.isWordChar c = false := by
  intro c hc
  obtain ⟨blanks, hblanks⟩ := Text.trimEnd_prefix remainder
  apply h.remainder_head
  rw [← hblanks]
  exact List.mem_head?_append_of_mem_head? hc

end Reads

end Reference

/-! ## Section 2: The expression under a fix -/

/-- **What a fix replaces**: the trimmed expression is the object, a point and the property, with
blanks around the point, followed by a remainder that does not prolong the property.  The fix
declares the alias as the object's property and puts it in place of the whole.  Expanding the alias
gives the expression back, blanks apart, exactly if the remainder is empty. -/
theorem replaced_expression {rule : Rule} {t : ElementTree} {i : Nat} {b : Binding}
    {d : Diagnostic} {f : Fix} (hd : rule.diagnose t i b = .ok (some d)) (hf : d.fix = some f) :
    ∃ r before after remainder,
      f.edits = [Edit.insertion (Rule.insertionPoint (Rule.rootSpan t i)) (rule.declaration r),
        Edit.replacement b.span (rule.aliasName r) (some b.expression)] ∧
      Text.trim b.expression.toList = r.object.toList ++ (before ++ '.' ::
        (after ++ (r.property.toList ++ remainder))) ∧
      (∀ c ∈ before, Text.isBlank c = true) ∧ (∀ c ∈ after, Text.isBlank c = true) ∧
      (∀ c ∈ remainder.head?, Text.isWordChar c = false) ∧
      (Text.squeeze b.expression.toList = Text.squeeze r.target.toList ↔ remainder = []) := by
  obtain ⟨r, hr, -, -, hedits⟩ := Rule.edits_of_diagnose hd hf
  obtain ⟨lead, before, after, remainder, hreads⟩ := Reference.ofExpression?_reads hr
  exact ⟨r, before, after, Text.trimEnd remainder, hedits, hreads.trim_eq, hreads.before_blank,
    hreads.after_blank, hreads.trimEnd_remainder_head, hreads.squeeze_eq_target_iff⟩

/-- A timer and an item that shows its delay, one more than a property of the timer. -/
def ElementTree.delayed : ElementTree :=
  ⟨#[{ typeName := "Item", span := ⟨0, 50⟩, children := [1, 2] },
    { typeName := "QTimer", span := ⟨5, 10⟩, id := some "t", parent := some 0 },
    { typeName := "Item", span := ⟨20, 20⟩, parent := some 0,
      bindings := [⟨"delay", "t.step + 1", ⟨28, 10⟩, 2⟩] }], by decide⟩

private theorem delayed_built : ElementTree.delayed.Built := by
  have h := TreeBuilder.Built.empty
  have h := h.addElement (rfl : TreeBuilder.addElement _ "Item" ⟨0, 50⟩ none none = .ok (_, _))
  have h := h.addElement
    (rfl : TreeBuilder.addElement _ "QTimer" ⟨5, 10⟩ (some "t") (some 0) = .ok (_, _))
  have h := h.addElement
    (rfl : TreeBuilder.addElement _ "Item" ⟨20, 20⟩ none (some 0) = .ok (_, _))
  have h := h.addBinding
    (rfl : TreeBuilder.addBinding _ 2 "delay" "t.step + 1" ⟨28, 10⟩ = .ok (_, _))
  exact ⟨_, h, rfl⟩

/-- The delay is found with a fix, so the theorem applies to it. -/
theorem replaced_delay :
    ∃ d f, Rule.standard.diagnose .delayed 2 ⟨"delay", "t.step + 1", ⟨28, 10⟩, 2⟩ = .ok (some d) ∧
      d.fix = some f ∧ ∃ r before after remainder,
      f.edits = [Edit.insertion 49 (Rule.standard.declaration r),
        Edit.replacement ⟨28, 10⟩ (Rule.standard.aliasName r) (some "t.step + 1")] ∧
      Text.trim "t.step + 1".toList = r.object.toList ++ (before ++ '.' ::
        (after ++ (r.property.toList ++ remainder))) ∧
      (∀ c ∈ before, Text.isBlank c = true) ∧ (∀ c ∈ after, Text.isBlank c = true) ∧
      (∀ c ∈ remainder.head?, Text.isWordChar c = false) ∧
      (Text.squeeze "t.step + 1".toList = Text.squeeze r.target.toList ↔ remainder = []) := by
  obtain ⟨d, f, hd, hf, -⟩ := Rule.standard.exists_fix_of_flagged .delayed 2
    ⟨"delay", "t.step + 1", ⟨28, 10⟩, 2⟩ ⟨"t", "step"⟩ (by decide +kernel)
  exact ⟨d, f, hd, hf, replaced_expression hd hf⟩

/-- The fix of the delay binds to the bare property: the sum is lost, whichever blanks one allows
around the point, and expanding the alias does not bring it back. -/
theorem delay_loses_sum :
    ElementTree.delayed.Built ∧
    ∃ d f, Rule.standard.diagnose .delayed 2 ⟨"delay", "t.step + 1", ⟨28, 10⟩, 2⟩ = .ok (some d) ∧
      d.fix = some f ∧
      f.edits = [Edit.insertion 49 "\n    property alias als_t_step: t.step",
        Edit.replacement ⟨28, 10⟩ "als_t_step" (some "t.step + 1")] ∧
      (¬ ∃ before after : List Char, Text.trim "t.step + 1".toList =
        "t".toList ++ (before ++ '.' :: (after ++ "step".toList))) ∧
      Text.squeeze "t.step + 1".toList ≠ Text.squeeze "t.step".toList := by
  obtain ⟨d, f, hd, hf, hedits⟩ := Rule.standard.exists_fix_of_flagged .delayed 2
    ⟨"delay", "t.step + 1", ⟨28, 10⟩, 2⟩ ⟨"t", "step"⟩ (by decide +kernel)
  refine ⟨delayed_built, d, f, hd, hf, ?_, ?_, by decide +kernel⟩
  · rw [hedits]
    decide +kernel
  · rintro ⟨before, after, h⟩
    -- the one ends with a digit, the other with a letter
    have htrim : Text.trim "t.step + 1".toList = "t.step + ".toList ++ ['1'] := by decide +kernel
    have hstep : "t".toList ++ (before ++ '.' :: (after ++ "step".toList)) =
        ("t".toList ++ (before ++ '.' :: (after ++ "ste".toList))) ++ ['p'] := by simp
    rw [htrim, hstep] at h
    have hlast := congrArg List.getLast? h
    simp only [List.getLast?_concat, Option.some.injEq] at hlast
    cases hlast

end BindingAudit
