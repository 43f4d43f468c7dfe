import BindingAudit.Proofs.Element.Preorder
import BindingAudit.Proofs.Element.Requests
import BindingAudit.Proofs.Rule.Findings
import BindingAudit.Proofs.Rule.Verdict
import BindingAudit.Proofs.Rule.Wording

/-!
# An audit step by step

An audit is set up and used in steps: rules are registered, findings are recorded from outside, and
runs are made on trees, in any order.  What a run finds then depends on the rules registered so far
and on its tree, and on nothing else that happened.

What it finds is told by three loops and one test: for each element of the tree in document order,
each rule, and each binding of the element, there is one finding if the binding is an anti-pattern
for the settings of the rule, and none otherwise (`shown_findings`).
-/

namespace BindingAudit

namespace Audit

/-- A step of an audit. -/
inductive Step where
  | register (rule : Rule)
  | emit (d : Diagnostic)
  | run (t : ElementTree)

/-- The rule a step registers. -/
def Step.rule? : Step → Option Rule
  | .register rule => some rule
  | _ => none

/-- The rules that steps register, in order. -/
def registered (steps : List Step) : List Rule :=
  steps.filterMap Step.rule?

/-- The audit after a step. -/
def perform (a : Audit) : Step → Except TemplateError Audit
  | .register rule => .ok (a.register rule)
  | .emit d => .ok (a.emit d)
  | .run t => (·.2) <$> a.run t

/-- The audit after steps in turn. -/
def performAll (a : Audit) (steps : List Step) : Except TemplateError Audit :=
  steps.foldlM perform a

/-! ## Section 1: What happened before -/

/-- A run of worded rules gives the findings of these rules, and records them in place of what was
recorded before. -/
theorem exists_run {a : Audit} (h : ∀ rule ∈ a.rules, rule.Worded) (t : ElementTree) :
    ∃ found, findings a.rules t = .ok found ∧ a.run t = .ok (found, ⟨a.rules, found⟩) := by
  obtain ⟨found, hfound⟩ := exists_findings h t
  refine ⟨found, hfound, ?_⟩
  rw [run, hfound]
  rfl

/-- A step goes through, and adds to the rules the one it registers. -/
theorem exists_perform {a : Audit} (step : Step)
    (h : ∀ rule ∈ a.rules ++ step.rule?.toList, rule.Worded) :
    ∃ after, a.perform step = .ok after ∧ after.rules = a.rules ++ step.rule?.toList := by
  cases step with
  | register rule => exact ⟨_, rfl, rfl⟩
  | emit d => exact ⟨_, rfl, (List.append_nil _).symm⟩
  | run t =>
    obtain ⟨found, -, hrun⟩ := exists_run (a := a) (fun rule hrule => h rule (by simp [hrule])) t
    refine ⟨⟨a.rules, found⟩, ?_, (List.append_nil _).symm⟩
    rw [perform, hrun]
    rfl

/-- **Steps leave the rules they registered**: none of them fails, and none takes a rule away. -/
theorem exists_performAll {a : Audit} (steps : List Step)
    (h : ∀ rule ∈ a.rules ++ registered steps, rule.Worded) :
    ∃ after, a.performAll steps = .ok after ∧ after.rules = a.rules ++ registered steps := by
  induction steps generalizing a with
  | nil => exact ⟨a, rfl, (List.append_nil _).symm⟩
  | cons step rest ih =>
    have hsplit : registered (step :: rest) = step.rule?.toList ++ registered rest := by
      unfold registered
      cases hrule : step.rule? <;> simp [hrule]
    rw [hsplit, ← List.append_assoc] at h ⊢
    obtain ⟨middle, hstep, hmiddle⟩ := exists_perform step
      fun rule hrule => h rule (List.mem_append_left _ hrule)
    rw [← hmiddle] at h ⊢
    obtain ⟨after, hrest, hafter⟩ := ih h
    refine ⟨after, ?_, hafter⟩
    rw [performAll, List.foldlM_cons, hstep]
    exact hrest

/-! ## Section 2: What a run finds -/

/-- A finding without its fix: the rule's identity and message, and the place. -/
def shown (d : Diagnostic) : RuleTag × Data × Span :=
  (d.tag, d.message, d.location)

open Classical in
/-- What a rule is to find at the bindings of an element. -/
noncomputable def expected (t : ElementTree) (i : Nat) (rule : Rule) :
    List (RuleTag × Data × Span) :=
  ((t.bindings i).filter fun b => decide (rule.settings.AntiPattern t i b.expression)).map
    fun b => (Rule.tag, rule.message, b.span)

/-- **One binding**: there is a finding exactly for an anti-pattern, and it is at the binding. -/
theorem shown_diagnose {rule : Rule} {t : ElementTree} (hl : Linked t.elements) {i : Nat}
    {b : Binding} {d : Option Diagnostic} (h : rule.diagnose t i b = .ok d) :
    (rule.settings.AntiPattern t i b.expression ∧
      d.map shown = some (Rule.tag, rule.message, b.span)) ∨
    (¬ rule.settings.AntiPattern t i b.expression ∧ d.map shown = none) := by
  rw [← Settings.verdict_eq_flagged_iff hl]
  unfold Rule.diagnose at h
  split at h
  · next hr =>
    cases h
    exact Or.inr ⟨by simp [Settings.verdict, hr], rfl⟩
  · split at h
    · next hv =>
      obtain ⟨fix, -, h⟩ := Outcome.bind_eq_ok_iff.mp h
      cases h
      exact Or.inl ⟨hv, rfl⟩
    · next hv =>
      cases h
      exact Or.inr ⟨hv, rfl⟩

/-- **One element**: a rule finds what it is to find there. -/
theorem shown_inspect {rule : Rule} {t : ElementTree} (hl : Linked t.elements) {i : Nat}
    {found : List Diagnostic} (h : rule.inspect t i = .ok found) :
    found.map shown = expected t i rule := by
  classical
  have hbinding : ∀ b ∈ t.bindings i, ∀ d, rule.diagnose t i b = .ok d → d.map shown =
      if rule.settings.AntiPattern t i b.expression then some (Rule.tag, rule.message, b.span)
      else none := by
    intro b _ d hd
    rcases shown_diagnose hl hd with ⟨hanti, heq⟩ | ⟨hanti, heq⟩ <;> rw [heq] <;> simp [hanti]
  rw [Outcome.filterMapM_view hbinding h, expected, ← List.filterMap_eq_map, List.filterMap_filter]
  exact List.filterMap_congr fun b _ => by simp

/-- **One run**: every element of the walk meets every rule, and each meeting gives what is to be
found there. -/
theorem shown_findings {rules : List Rule} {t : ElementTree} (hl : Linked t.elements)
    {found : List Diagnostic} (h : findings rules t = .ok found) :
    found.map shown = t.walk.flatMap fun i => rules.flatMap fun rule => expected t i rule := by
  have hvisits : ∀ v ∈ visits rules t, ∀ ds, v.2.inspect t v.1 = .ok ds →
      ds.map shown = expected t v.1 v.2 := fun v _ ds hds => shown_inspect hl hds
  rw [Outcome.flatten_mapM_view hvisits h, visits, List.flatMap_assoc]
  simp only [List.flatMap_map]

end Audit

/-- **Sound, complete and without a history**: let steps be made from an empty audit, and let the
registered rules find words for every reference that an expression can read.  Then every step goes
through; and a run on a tree that was built gives the findings of the registered rules on this tree,
whatever else was recorded or run before.  These are, for each element in document order, which
meets every element once, for each rule in order and for each binding in order, one finding at the
span of the binding if it is an anti-pattern for the settings of the rule, and none otherwise. -/
theorem run_of_performAll (steps : List Audit.Step)
    (hworded : ∀ rule ∈ Audit.registered steps, rule.Worded) :
    ∃ a, ({} : Audit).performAll steps = .ok a ∧ ∀ t : ElementTree, t.Built →
      ∃ found, Audit.findings (Audit.registered steps) t = .ok found ∧
        a.run t = .ok (found, ⟨Audit.registered steps, found⟩) ∧
        t.walk.Perm (List.range t.size) ∧
        found.map Audit.shown =
          t.walk.flatMap fun i => (Audit.registered steps).flatMap fun rule =>
            Audit.expected t i rule := by
  obtain ⟨a, hsteps, hrules⟩ := Audit.exists_performAll (a := {}) steps hworded
  rw [List.nil_append] at hrules
  refine ⟨a, hsteps, fun t ht => ?_⟩
  obtain ⟨found, hfound, hrun⟩ := Audit.exists_run (a := a) (hrules ▸ hworded) t
  rw [hrules] at hfound hrun
  exact ⟨found, hfound, hrun, ElementTree.walk_perm ht.linked,
    Audit.shown_findings ht.linked hfound⟩

/-- A timer, an item that reads it twice, and an inner item beside which a label has taken the id
of the timer. -/
def ElementTree.shadowedTimer : ElementTree :=
  ⟨#[{ typeName := "Item", span := ⟨0, 60⟩, children := [1, 2] },
    { typeName := "QTimer", span := ⟨5, 5⟩, id := some "t", parent := some 0 },
    { typeName := "Item", span := ⟨15, 40⟩, parent := some 0, children := [3, 4],
      bindings := [⟨"x", "t.a", ⟨20, 3⟩, 2⟩, ⟨"y", "t.mode", ⟨25, 6⟩, 2⟩] },
    { typeName := "Label", span := ⟨32, 5⟩, id := some "t", parent := some 2 },
    { typeName := "Item", span := ⟨40, 10⟩, parent := some 2,
      bindings := [⟨"z", "t.a", ⟨44, 3⟩, 4⟩] }], by decide⟩

private theorem shadowedTimer_built : ElementTree.shadowedTimer.Built :=
  ⟨_, TreeBuilder.built_performAll .empty [
    .element "Item" ⟨0, 60⟩ none none, .element "QTimer" ⟨5, 5⟩ (some "t") (some 0),
    .element "Item" ⟨15, 40⟩ none (some 0), .binding 2 "x" "t.a" ⟨20, 3⟩,
    .binding 2 "y" "t.mode" ⟨25, 6⟩, .element "Label" ⟨32, 5⟩ (some "t") (some 2),
    .element "Item" ⟨40, 10⟩ none (some 2), .binding 4 "z" "t.a" ⟨44, 3⟩], rfl⟩

/-- A rule for labels and timers that knows of no enumerations. -/
def Rule.forLabels : Rule :=
  .ofEntry { nativePrefix := "", nativeTypes := ["Label", "QTimer"], exemptTerms := [] }
    fun _ => none

/-- Two rules registered around a finding from outside and an earlier run: the first rule leaves the
enumeration and the label alone, the second finds all three bindings. -/
theorem run_shadowedTimer_after_steps :
    ∃ a found, ({} : Audit).performAll [.emit ⟨.text "", Rule.tag, ⟨1, 1⟩, none⟩,
        .register .standard, .run .shadowedTimer, .register .forLabels] = .ok a ∧
      a.run .shadowedTimer = .ok (found, ⟨[.standard, .forLabels], found⟩) ∧
      found.map (·.location) = [⟨20, 3⟩, ⟨20, 3⟩, ⟨25, 6⟩, ⟨44, 3⟩] ∧
      found.map Audit.shown = ElementTree.shadowedTimer.walk.flatMap fun i =>
        [Rule.standard, .forLabels].flatMap fun rule => Audit.expected .shadowedTimer i rule := by
  have hworded : ∀ rule ∈ [Rule.standard, .forLabels], rule.Worded := by
    intro rule hrule
    rcases List.mem_pair.mp hrule with rfl | rfl
    · exact Rule.worded_of_default rfl
    · exact Rule.worded_of_default rfl
  obtain ⟨a, hsteps, hrun⟩ := run_of_performAll [.emit ⟨.text "", Rule.tag, ⟨1, 1⟩, none⟩,
    .register .standard, .run .shadowedTimer, .register .forLabels] hworded
  obtain ⟨found, hfound, hfresh, -, hshown⟩ := hrun .shadowedTimer shadowedTimer_built
  have hlocations : (·.map (·.location)) <$> Audit.findings [.standard, .forLabels] .shadowedTimer =
      .ok [⟨20, 3⟩, ⟨20, 3⟩, ⟨25, 6⟩, ⟨44, 3⟩] := by decide +kernel
  obtain ⟨found', hfound', hlocations⟩ := Outcome.map_eq_ok_iff.mp hlocations
  obtain rfl : found = found' := Except.ok.inj (hfound.symm.trans hfound')
  exact ⟨a, found, hsteps, hfresh, hlocations, hshown⟩

end BindingAudit
