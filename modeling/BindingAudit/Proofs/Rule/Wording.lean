import BindingAudit.Audit
import BindingAudit.Proofs.Outcome

/-!
# Rules that find words for everything

The only thing that can go wrong while a rule looks at a tree is the wording of a hint.  A rule is
`Worded` if its template can be filled in for every reference that an expression can read; then no
inspection and no run fails.
The template that the library comes with is of this kind, whatever the settings are
(`worded_of_default`).
-/

namespace BindingAudit

namespace Rule

/-- The hint of a rule can be worded for every reference that an expression can read. -/
def Worded (rule : Rule) : Prop :=
  ∀ expression r, Reference.ofExpression? expression = some r → ∃ hint, rule.hintFor r = .ok hint

set_option maxRecDepth 4000 in
/-- The default template names the four texts it is given and asks nothing of them, so it can be
filled in without knowing them. -/
theorem worded_of_default {rule : Rule} (h : rule.hint = .text defaultHint) : rule.Worded := by
  intro expression r _
  have hfilled : ∀ keyword name object property : String, ∃ hint,
      Template.format [("keyword", keyword), ("alias", name), ("object_id", object),
        ("property_name", property)] defaultHint = .ok hint :=
    fun _ _ _ _ => ⟨_, rfl⟩
  obtain ⟨hint, hhint⟩ := hfilled rule.settings.aliasKeyword (rule.aliasName r) r.object r.property
  refine ⟨hint, ?_⟩
  rw [hintFor, h]
  exact hhint

variable {rule : Rule}

theorem Worded.exists_fix (h : rule.Worded) (t : ElementTree) (b : Binding) {r : Reference}
    (hr : Reference.ofExpression? b.expression.toList = some r) (i : Nat) :
    ∃ f, rule.fix t b r i = .ok f := by
  unfold fix
  cases noFix? (rootSpan t i) b.span with
  | some reason => exact ⟨none, rfl⟩
  | none =>
    obtain ⟨hint, hhint⟩ := h _ r hr
    simp only [hhint]
    exact ⟨_, rfl⟩

theorem Worded.exists_diagnose (h : rule.Worded) (t : ElementTree) (i : Nat) (b : Binding) :
    ∃ d, rule.diagnose t i b = .ok d := by
  unfold diagnose
  cases hr : Reference.ofExpression? b.expression.toList with
  | none => exact ⟨none, rfl⟩
  | some r =>
    by_cases hv : rule.settings.verdict t b.expression i = .flagged
    · obtain ⟨f, hf⟩ := h.exists_fix t b hr i
      simp only [hv, if_true, hf]
      exact ⟨_, rfl⟩
    · simp only [hv, if_false]
      exact ⟨none, rfl⟩

end Rule

/-- **A run of worded rules goes through**, on any tree. -/
theorem Audit.exists_findings {rules : List Rule} (h : ∀ rule ∈ rules, rule.Worded)
    (t : ElementTree) : ∃ found, Audit.findings rules t = .ok found := by
  obtain ⟨parts, hparts⟩ : ∃ parts,
      (Audit.visits rules t).mapM (fun v => v.2.inspect t v.1) = .ok parts := by
    refine Outcome.exists_mapM fun v hv => ?_
    simp only [Audit.visits, List.mem_flatMap, List.mem_map] at hv
    obtain ⟨i, -, rule, hrule, rfl⟩ := hv
    exact Outcome.exists_filterMapM fun b _ => (h rule hrule).exists_diagnose t i b
  exact ⟨parts.flatten, Outcome.map_eq_ok_iff.mpr ⟨parts, hparts, rfl⟩⟩

end BindingAudit
