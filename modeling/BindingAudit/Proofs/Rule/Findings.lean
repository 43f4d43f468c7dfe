import BindingAudit.Audit
import BindingAudit.Edit.Apply
import BindingAudit.Proofs.Element.Arena
import BindingAudit.Proofs.Outcome

/-!
# What the rule finds

`Settings.sites` lists the flagged bindings of a tree, in document order, each with the reference
its expression starts with.  The findings of a run are these sites, one by one: each is located at
the binding, and its fix, where there is room for one, has exactly two edits (`fixEdits`).

Messages and hints are left aside; they do not bear on where a finding is or what its fix does.
-/

namespace BindingAudit

/-- A flagged binding: the element it stands in and the reference it starts with. -/
structure Site where
  element : Nat
  binding : Binding
  reference : Reference
deriving DecidableEq

namespace Settings

/-- The site at a binding of an element, if it is flagged. -/
def site? (s : Settings) (t : ElementTree) (i : Nat) (b : Binding) : Option Site :=
  match Reference.ofExpression? b.expression.toList with
  | none => none
  | some r => if s.verdict t b.expression i = .flagged then some ⟨i, b, r⟩ else none

/-- The flagged bindings of a tree in document order. -/
def sites (s : Settings) (t : ElementTree) : List Site :=
  t.walk.flatMap fun i => (t.bindings i).filterMap (s.site? t i)

theorem site?_eq_some_iff {s : Settings} {t : ElementTree} {i : Nat} {b : Binding} {x : Site} :
    s.site? t i b = some x ↔
      Reference.ofExpression? b.expression.toList = some x.reference ∧
        s.verdict t b.expression i = .flagged ∧ x.element = i ∧ x.binding = b := by
  unfold site?
  cases Reference.ofExpression? b.expression.toList with
  | none => simp
  | some r =>
    by_cases hv : s.verdict t b.expression i = .flagged
    · simp only [hv, if_true, Option.some.injEq, true_and]
      constructor
      · rintro rfl
        exact ⟨rfl, rfl, rfl⟩
      · rintro ⟨rfl, rfl, rfl⟩
        rfl
    · simp [hv]

/-- The sites of a tree are its flagged bindings. -/
theorem mem_sites_iff {s : Settings} {t : ElementTree} {x : Site} :
    x ∈ s.sites t ↔ x.element ∈ t.walk ∧ x.binding ∈ t.bindings x.element ∧
      s.site? t x.element x.binding = some x := by
  simp only [sites, List.mem_flatMap, List.mem_filterMap]
  constructor
  · rintro ⟨i, hi, b, hb, hx⟩
    obtain ⟨-, -, rfl, rfl⟩ := site?_eq_some_iff.mp hx
    exact ⟨hi, hb, hx⟩
  · rintro ⟨hi, hb, hx⟩
    exact ⟨_, hi, _, hb, hx⟩

end Settings

namespace Rule

/-- The edits of the fix of a binding under a root: declare the alias in front of the root's last
character, and bind to the alias. -/
def fixEdits (rule : Rule) (root : Span) (b : Binding) (r : Reference) : List Edit :=
  [Edit.insertion (insertionPoint root) (rule.declaration r),
    Edit.replacement b.span (rule.aliasName r) (some b.expression)]

/-- The rule with the default settings and its own wording. -/
def standard : Rule :=
  ofEntry {} fun _ => none

/-- The edits at a site, if there is room for them. -/
def siteEdits (rule : Rule) (t : ElementTree) (x : Site) : Option (List Edit) :=
  if noFix? (rootSpan t x.element) x.binding.span = none then
    some (rule.fixEdits (rootSpan t x.element) x.binding x.reference)
  else none

/-- Where a finding is and what its fix does. -/
def outline (d : Diagnostic) : Span × Option (List Edit) :=
  (d.location, d.fix.map (·.edits))

theorem fix_edits {rule : Rule} {t : ElementTree} {b : Binding} {r : Reference} {i : Nat}
    {f : Option Fix} (h : rule.fix t b r i = .ok f) :
    f.map (·.edits) = rule.siteEdits t ⟨i, b, r⟩ := by
  unfold fix at h
  unfold siteEdits
  cases hroom : noFix? (rootSpan t i) b.span with
  | some reason =>
    simp only [hroom] at h
    cases h
    rfl
  | none =>
    simp only [hroom] at h
    obtain ⟨hint, -, h⟩ := Outcome.bind_eq_ok_iff.mp h
    cases h
    rfl

/-- **One binding**: a finding is made exactly at a site, and its outline is that of the site. -/
theorem outline_diagnose {rule : Rule} {t : ElementTree} {i : Nat} {b : Binding}
    {d : Option Diagnostic} (h : rule.diagnose t i b = .ok d) :
    d.map outline =
      (rule.settings.site? t i b).map fun x => (x.binding.span, rule.siteEdits t x) := by
  unfold diagnose at h
  unfold Settings.site?
  cases hr : Reference.ofExpression? b.expression.toList with
  | none =>
    simp only [hr] at h
    cases h
    rfl
  | some r =>
    simp only [hr] at h
    by_cases hv : rule.settings.verdict t b.expression i = .flagged
    · rw [if_pos hv] at h
      obtain ⟨f, hf, h⟩ := Outcome.bind_eq_ok_iff.mp h
      cases h
      simp only [hv, if_true, Option.map_some, outline, fix_edits hf]
    · rw [if_neg hv] at h
      cases h
      simp [hv]

/-- A finding with a fix comes from a flagged binding with room for the declaration, and the fix
consists of the two edits for the reference the binding starts with. -/
theorem edits_of_diagnose {rule : Rule} {t : ElementTree} {i : Nat} {b : Binding}
    {d : Diagnostic} {f : Fix} (h : rule.diagnose t i b = .ok (some d)) (hf : d.fix = some f) :
    ∃ r, Reference.ofExpression? b.expression.toList = some r ∧
      rule.settings.verdict t b.expression i = .flagged ∧
      noFix? (rootSpan t i) b.span = none ∧ f.edits = rule.fixEdits (rootSpan t i) b r := by
  -- the outline of the finding is that of a site, and tells whether there is room
  have hout := outline_diagnose h
  cases hx : rule.settings.site? t i b with
  | none =>
    rw [hx] at hout
    cases hout
  | some x =>
    obtain ⟨hr, hv, rfl, rfl⟩ := Settings.site?_eq_some_iff.mp hx
    rw [hx, Option.map_some, Option.map_some, outline, hf, siteEdits] at hout
    refine ⟨x.reference, hr, hv, ?_⟩
    by_cases hroom : noFix? (rootSpan t x.element) x.binding.span = none
    · rw [if_pos hroom] at hout
      simp only [Option.map_some, Option.some.injEq, Prod.mk.injEq] at hout
      exact ⟨hroom, hout.2⟩
    · rw [if_neg hroom] at hout
      simp at hout

/-- Conversely, a flagged binding with room for the declaration is found with a fix, unless the
wording of the hint fails. -/
theorem exists_fix_of_flagged (rule : Rule) (t : ElementTree) (i : Nat) (b : Binding)
    (r : Reference) (h : Reference.ofExpression? b.expression.toList = some r ∧
      rule.settings.verdict t b.expression i = .flagged ∧
      noFix? (rootSpan t i) b.span = none ∧ (rule.hintFor r).isOk = true) :
    ∃ d f, rule.diagnose t i b = .ok (some d) ∧ d.fix = some f ∧
      f.edits = rule.fixEdits (rootSpan t i) b r := by
  obtain ⟨hr, hv, hroom, hhint⟩ := h
  cases hh : rule.hintFor r with
  | error fault =>
    rw [hh] at hhint
    cases hhint
  | ok hint =>
    -- the fix the rule makes, with the hint as it is worded
    let f : Fix := ⟨rule.message, tag, rule.fixEdits (rootSpan t i) b r, hint⟩
    have hf : rule.fix t b r i = .ok (some f) := by
      simp only [fix, hroom, hh]
      rfl
    refine ⟨⟨rule.message, tag, b.span, some f⟩, f, ?_, rfl, rfl⟩
    simp only [diagnose, hr, hv, if_true, hf]
    rfl

/-- Every element of a linked tree has the same root. -/
theorem rootSpan_eq {t : ElementTree} (h : Linked t.elements) {i : Nat} (hi : i < t.size) :
    rootSpan t i = t.root.span := by
  unfold rootSpan
  rw [ElementTree.topOf_eq_zero h hi]
  have hroot : t.get? 0 = some t.root := Array.getElem?_eq_getElem t.nonempty
  rw [hroot]
  rfl

end Rule

/-- **One run**: the findings of a rule on a tree are the sites of the tree, in document order. -/
theorem Audit.outline_findings {rule : Rule} {t : ElementTree} {found : List Diagnostic}
    (h : Audit.findings [rule] t = .ok found) :
    found.map Rule.outline =
      (rule.settings.sites t).map fun x => (x.binding.span, rule.siteEdits t x) := by
  -- with one rule the visits are the elements of the walk
  have hvisits : Audit.visits [rule] t = t.walk.map fun i => (i, rule) := by
    simp [Audit.visits, List.map_eq_flatMap]
  unfold Audit.findings at h
  rw [hvisits] at h
  have hinspect : ∀ v ∈ t.walk.map fun i => (i, rule), ∀ ds, v.2.inspect t v.1 = .ok ds →
      ds.map Rule.outline = ((t.bindings v.1).filterMap (v.2.settings.site? t v.1)).map
        fun x => (x.binding.span, v.2.siteEdits t x) := by
    intro v _ ds hds
    rw [List.map_filterMap]
    exact Outcome.filterMapM_view (fun b _ d hd => Rule.outline_diagnose hd) hds
  rw [Outcome.flatten_mapM_view hinspect h]
  simp [Settings.sites, List.flatMap_map, List.map_flatMap]

end BindingAudit
