import BindingAudit.Auditor
import BindingAudit.Proofs.Rule.Findings
import BindingAudit.Proofs.Rule.Wording

/-!
# What can go wrong in an audit

A model can be refused, and then the audit tells the fault of the model.  Whatever a model and a
configuration hold, all that can go wrong besides is in the registry, and it is not caught: an entry
that is no mapping, and a template that cannot be filled in where a hint is wanted.

`Auditor.report_outcomes` says exactly when each of this happens.  A run over the elements of a tree
ends with the first hint that cannot be worded, so the faults of templates are those of a list
(`Rule.hintFaults`).
-/

namespace BindingAudit

/-! ## Section 1: Models -/

/-- A model that cannot be loaded has a fault, unless its path is none or its text cannot be
parsed. -/
theorem Model.load_error_cases {w : Workspace} {path : String} {e : LoadError}
    (h : load w path = .error e) :
    (∃ fault, e = .model path fault) ∨ hasNull path = true ∨
      ∃ text, w.readText path = .ok text ∧ parse path text = .error e := by
  unfold load at h
  cases hread : w.readText path with
  | error access =>
    cases access with
    | file error place =>
      rw [hread] at h
      cases h
      exact Or.inl ⟨_, rfl⟩
    | decoding fault =>
      rw [hread] at h
      cases h
      exact Or.inl ⟨_, rfl⟩
    | nullByte =>
      refine Or.inr (Or.inl ?_)
      unfold Workspace.readText at hread
      split at hread
      · assumption
      · split at hread
        · cases hread
        · split at hread <;> cases hread
  | ok text =>
    rw [hread] at h
    cases hparse : parse path text with
    | error e' =>
      simp only [hparse] at h
      cases h
      exact Or.inr (Or.inr ⟨text, rfl, hparse⟩)
    | ok d =>
      simp only [hparse, Outcome.ok_bind] at h
      split at h
      · cases h
      · cases h
        exact Or.inl ⟨_, rfl⟩

/-! ## Section 2: The registry -/

namespace Registry

variable {r : Registry} {rule : String} {e : RegistryError}

theorem exists_of_fieldsBySymbol_error {parts : List Part}
    (h : r.fieldsBySymbol rule parts = .error e) :
    ∃ p ∈ parts, ∀ entries, r.document.look p ≠ .map entries := by
  induction parts with
  | nil => cases h
  | cons p rest ih =>
    cases hlook : r.document.look p with
    | map entries =>
      -- a mapping is taken or passed over
      have hrest : r.fieldsBySymbol rule rest = .error e := by
        rw [fieldsBySymbol, hlook] at h
        split at h
        · next heq =>
          cases heq
          split at h
          · split at h
            · cases h
            · exact h
          · exact h
        · next hne => exact absurd rfl (hne entries)
      obtain ⟨q, hq, hmap⟩ := ih hrest
      exact ⟨q, List.mem_cons_of_mem _ hq, hmap⟩
    | _ => exact ⟨p, List.mem_cons_self .., by simp [hlook]⟩

/-- Only an entry that is no mapping keeps an entry from being found. -/
theorem exists_of_entry_error (h : r.entry rule = .error e) :
    ∃ c ∈ r.coded, ∀ entries, r.document.look c.2 ≠ .map entries := by
  have hsymbol (h : r.fieldsBySymbol rule (r.coded.map (·.2)) = .error e) :
      ∃ c ∈ r.coded, ∀ entries, r.document.look c.2 ≠ .map entries := by
    obtain ⟨p, hp, hmap⟩ := exists_of_fieldsBySymbol_error h
    obtain ⟨c, hc, rfl⟩ := List.mem_map.mp hp
    exact ⟨c, hc, hmap⟩
  unfold entry at h
  split at h
  · next p hfind =>
    split at h
    · obtain ⟨c, hc, rfl⟩ := Option.map_eq_some_iff.mp hfind
      refine ⟨c, List.mem_of_find?_eq_some hc, fun entries hlook => ?_⟩
      rw [fields, hlook] at h
      cases h
    · exact hsymbol h
  · exact hsymbol h

end Registry

/-! ## Section 3: Hints -/

namespace Rule

variable {rule : Rule} {t : ElementTree} {i : Nat} {b : Binding} {e : TemplateError}

/-- What is wrong with the hint at a site, where one is wanted: where there is a fix. -/
def hintFault? (rule : Rule) (t : ElementTree) (x : Site) : Option TemplateError :=
  match noFix? (rootSpan t x.element) x.binding.span, rule.hintFor x.reference with
  | none, .error e => some e
  | _, _ => none

/-- What is wrong with the hints for a tree, in document order. -/
def hintFaults (rule : Rule) (t : ElementTree) : List TemplateError :=
  (rule.settings.sites t).filterMap (rule.hintFault? t)

theorem fix_eq_error_iff {r : Reference} :
    rule.fix t b r i = .error e ↔ rule.hintFault? t ⟨i, b, r⟩ = some e := by
  unfold fix hintFault?
  cases noFix? (rootSpan t i) b.span with
  | some reason => simp
  | none => cases rule.hintFor r <;> simp [pure, Except.pure]

theorem diagnose_eq_error_iff :
    rule.diagnose t i b = .error e ↔
      (rule.settings.site? t i b).bind (rule.hintFault? t) = some e := by
  unfold diagnose Settings.site?
  cases Reference.ofExpression? b.expression.toList with
  | none => simp
  | some r =>
    by_cases hv : rule.settings.verdict t b.expression i = .flagged
    · simp only [hv, if_true, Option.bind_some, ← fix_eq_error_iff]
      exact Outcome.map_eq_error_iff
    · simp [hv]

/-- A worded rule finds words for every hint. -/
theorem Worded.hintFaults_eq_nil (h : rule.Worded) (t : ElementTree) : rule.hintFaults t = [] := by
  refine List.filterMap_eq_nil_iff.mpr fun x hx => ?_
  obtain ⟨-, -, hsite⟩ := Settings.mem_sites_iff.mp hx
  obtain ⟨hint, hhint⟩ := h _ _ (Settings.site?_eq_some_iff.mp hsite).1
  rw [hintFault?, hhint]
  split
  · next heq => cases heq
  · rfl

end Rule

/-- **One run**: it ends with the first hint that cannot be worded. -/
theorem Audit.findings_eq_error_iff {rule : Rule} {t : ElementTree} {e : TemplateError} :
    Audit.findings [rule] t = .error e ↔ (rule.hintFaults t).head? = some e := by
  have hvisits : Audit.visits [rule] t = t.walk.map fun i => (i, rule) := by
    simp [Audit.visits, List.map_eq_flatMap]
  have hinspect : ∀ (v : Nat × Rule) (e : TemplateError), v.2.inspect t v.1 = .error e ↔
      ((t.bindings v.1).filterMap fun b =>
        (v.2.settings.site? t v.1 b).bind (v.2.hintFault? t)).head? = some e :=
    fun v e => Outcome.filterMapM_eq_error_iff fun b e => Rule.diagnose_eq_error_iff
  rw [findings, hvisits, Outcome.map_eq_error_iff, Outcome.mapM_eq_error_iff hinspect,
    Rule.hintFaults, Settings.sites, List.filterMap_flatMap, List.flatMap_map]
  simp only [List.filterMap_filterMap]

/-! ## Section 4: Audits -/

namespace Auditor

variable {a : Auditor} {w : Workspace} {path : String} {t : ElementTree} {source : Option String}

/-- The rule with the wording of its registry entry. -/
def ruleFor (a : Auditor) (fields : Option Fields) : Rule :=
  .ofEntry a.configuration.settings (a.registry.field? (fields.getD []))

theorem report_of_load (h : Model.load w path = .ok (t, source)) :
    a.report w path = match a.rules with
      | .error e => .error (.registry e)
      | .ok rules => match Audit.findings rules t with
        | .error e => .error (.template e)
        | .ok found => .ok ⟨path, source, found⟩ := by
  rewrite [report, h]
  rfl

theorem report_of_disabled (h : Model.load w path = .ok (t, source))
    (hoff : a.ruleDisabled = true) : a.report w path = .ok ⟨path, source, []⟩ := by
  -- without rules there are no visits
  have hnone : Audit.findings [] t = .ok [] := by
    have hvisits : Audit.visits [] t = [] := by simp [Audit.visits]
    rw [Audit.findings, hvisits, List.mapM_nil]
    rfl
  rw [report_of_load h, rules, if_pos hoff]
  simp only [hnone]

theorem report_of_entry_error {e : RegistryError} (h : Model.load w path = .ok (t, source))
    (hoff : a.ruleDisabled = false) (hentry : a.registry.entry Rule.tag.code = .error e) :
    a.report w path = .error (.registry e) := by
  have hrules : a.rules = .error e := by
    rw [rules, if_neg (by simp [hoff]), hentry]
    rfl
  rw [report_of_load h, hrules]

theorem report_of_entry {fields : Option Fields} (h : Model.load w path = .ok (t, source))
    (hoff : a.ruleDisabled = false) (hentry : a.registry.entry Rule.tag.code = .ok fields) :
    a.report w path = match Audit.findings [a.ruleFor fields] t with
      | .error e => .error (.template e)
      | .ok found => .ok ⟨path, source, found⟩ := by
  have hrules : a.rules = .ok [a.ruleFor fields] := by
    rw [rules, if_neg (by simp [hoff]), hentry]
    rfl
  rw [report_of_load h, hrules]

/-- How the audit of a model comes out. -/
inductive ComesOut (a : Auditor) (w : Workspace) (path : String) : Except AuditError Report → Prop
  /-- The model is refused. -/
  | refused {e : LoadError} (hload : Model.load w path = .error e) :
      ComesOut a w path (.error (.load e))
  /-- The rule is switched off. -/
  | disabled {t : ElementTree} {source : Option String}
      (hload : Model.load w path = .ok (t, source)) (hoff : a.ruleDisabled = true) :
      ComesOut a w path (.ok ⟨path, source, []⟩)
  /-- The entry of the rule is not found, or not to be taken for a mapping. -/
  | noEntry {t : ElementTree} {source : Option String} {e : RegistryError}
      (hload : Model.load w path = .ok (t, source)) (hoff : a.ruleDisabled = false)
      (hentry : a.registry.entry Rule.tag.code = .error e) :
      ComesOut a w path (.error (.registry e))
  /-- A hint cannot be worded; the first such ends the audit. -/
  | unworded {t : ElementTree} {source : Option String} {fields : Option Fields}
      {e : TemplateError} {more : List TemplateError}
      (hload : Model.load w path = .ok (t, source)) (hoff : a.ruleDisabled = false)
      (hentry : a.registry.entry Rule.tag.code = .ok fields)
      (hfaults : (a.ruleFor fields).hintFaults t = e :: more) :
      ComesOut a w path (.error (.template e))
  /-- There is a finding for each flagged binding. -/
  | complete {t : ElementTree} {source : Option String} {fields : Option Fields}
      {found : List Diagnostic} (hload : Model.load w path = .ok (t, source))
      (hoff : a.ruleDisabled = false) (hentry : a.registry.entry Rule.tag.code = .ok fields)
      (hfaults : (a.ruleFor fields).hintFaults t = [])
      (hfound : found.map Rule.outline = (a.configuration.settings.sites t).map
        fun x => (x.binding.span, (a.ruleFor fields).siteEdits t x)) :
      ComesOut a w path (.ok ⟨path, source, found⟩)

/-- An audit comes out in one of these ways. -/
theorem comesOut_report (a : Auditor) (w : Workspace) (path : String) :
    a.ComesOut w path (a.report w path) := by
  cases hload : Model.load w path with
  | error e =>
    have hreport : a.report w path = .error (.load e) := by rw [report, hload]
    rw [hreport]
    exact .refused hload
  | ok loaded =>
    obtain ⟨t, source⟩ := loaded
    cases hoff : a.ruleDisabled with
    | true =>
      rw [report_of_disabled hload hoff]
      exact .disabled hload hoff
    | false =>
      cases hentry : a.registry.entry Rule.tag.code with
      | error e =>
        rw [report_of_entry_error hload hoff hentry]
        exact .noEntry hload hoff hentry
      | ok fields =>
        rw [report_of_entry hload hoff hentry]
        cases hfound : Audit.findings [a.ruleFor fields] t with
        | error e =>
          obtain ⟨more, hfaults⟩ :=
            List.head?_eq_some_iff.mp (Audit.findings_eq_error_iff.mp hfound)
          exact .unworded hload hoff hentry hfaults
        | ok found =>
          refine .complete hload hoff hentry ?_ (Audit.outline_findings hfound)
          refine List.head?_eq_none_iff.mp (Option.eq_none_iff_forall_ne_some.mpr fun e he => ?_)
          cases hfound.symm.trans (Audit.findings_eq_error_iff.mpr he)

/-- Where one of the three failures is due, it is what the audit ends with. -/
theorem ComesOut.report_eq_error {e : AuditError} (h : a.ComesOut w path (.error e)) :
    a.report w path = .error e := by
  cases h with
  | refused hload => rw [report, hload]
  | noEntry hload hoff hentry => exact report_of_entry_error hload hoff hentry
  | @unworded t source fields e more hload hoff hentry hfaults =>
    have hfirst : Audit.findings [a.ruleFor fields] t = .error e := by
      rw [Audit.findings_eq_error_iff, hfaults]
      rfl
    rw [report_of_entry hload hoff hentry, hfirst]

/-- **What can go wrong**: a model is refused with a fault of its own, unless its path is none or
its text cannot be parsed.  If it is not refused and the rule is not switched off, the audit fails
exactly if the entry of the rule cannot be had, which takes an entry that is no mapping, or if a
hint cannot be worded, which takes a template other than the default one.  Nothing else can go
wrong. -/
theorem report_outcomes (a : Auditor) (w : Workspace) (path : String) :
    a.ComesOut w path (a.report w path) ∧
    (∀ e, a.ComesOut w path (.error e) → a.report w path = .error e) ∧
    (∀ e, Model.load w path = .error e →
      (∃ fault, e = .model path fault) ∨ hasNull path = true ∨
        ∃ text, w.readText path = .ok text ∧ Model.parse path text = .error e) ∧
    (∀ e, a.registry.entry Rule.tag.code = .error e →
      ∃ c ∈ a.registry.coded, ∀ entries, a.registry.document.look c.2 ≠ .map entries) ∧
    ∀ fields t e, e ∈ (a.ruleFor fields).hintFaults t →
      (a.ruleFor fields).hint ≠ .text Rule.defaultHint := by
  refine ⟨comesOut_report a w path, fun e h => h.report_eq_error,
    fun e h => Model.load_error_cases h, fun e h => Registry.exists_of_entry_error h,
    fun fields t e he hhint => ?_⟩
  rw [(Rule.worded_of_default hhint).hintFaults_eq_nil t] at he
  cases he

end Auditor

/-- A workspace with one model, which has one flagged binding. -/
def Workspace.oneModel : Workspace where
  base := "/w"
  stored := [(["A.json"], .file (Text.Utf8.encode (
    "\x7b\"root\":\x7b\"type\":\"I\",\"span\":[0,8],\"children\":[".toList ++
    "\x7b\"type\":\"Q\",\"id\":\"t\",\"span\":[2,5],\"bindings\":[".toList ++
    "\x7b\"property\":\"x\",\"expression\":\"t.a\",\"span\":[4,3]\x7d]\x7d]\x7d\x7d".toList)))]

/-- A registry with an entry for the rule. -/
def Registry.withEntry (entry : Data) : Registry :=
  ofData (.record [("D03", entry)])

/-- A hint that names something that is not given to it. -/
def Registry.misnamed : Registry :=
  withEntry (.record [("hint_template", .text "Use \x7bname\x7d")])

/-- A missing model is refused, an entry that is a number is not taken for one, and of the hint that
cannot be worded the audit tells what is wrong with it. -/
theorem Auditor.report_outcomes_oneModel :
    (∃ e fault, Auditor.report {} .oneModel "B.json" = .error (.load e) ∧
      e = .model "B.json" fault) ∧
    (∃ c ∈ (Registry.withEntry (.int 5)).coded, ∀ entries,
      (Registry.withEntry (.int 5)).document.look c.2 ≠ .map entries) ∧
    ∃ fields t, (Auditor.ruleFor ⟨[], .misnamed⟩ fields).hintFaults t = [.unknownName "name"] ∧
      (Auditor.ruleFor ⟨[], .misnamed⟩ fields).hint ≠ .text Rule.defaultHint ∧
      Auditor.report ⟨[], .misnamed⟩ .oneModel "A.json" =
        .error (.template (.unknownName "name")) := by
  have hunread : Workspace.oneModel.readText "B.json" = .error (.file .missing "B.json") := by
    decide +kernel
  have hmissing : Model.load .oneModel "B.json" =
      .error (.model "B.json" ⟨.unreadable .missing, ""⟩) := by decide +kernel
  have hnumber : (Registry.withEntry (.int 5)).entry Rule.tag.code =
      .error (.notIterable "int") := by decide +kernel
  have hfaults : (fun fields => (fun loaded : ElementTree × Option String =>
      (Auditor.ruleFor ⟨[], .misnamed⟩ fields).hintFaults loaded.1) <$>
        Model.load .oneModel "A.json") <$> Registry.misnamed.entry Rule.tag.code =
          .ok (.ok [.unknownName "name"]) := by decide +kernel
  obtain ⟨fields, hentry, hfaults⟩ := Outcome.map_eq_ok_iff.mp hfaults
  obtain ⟨⟨t, source⟩, hload, hfaults⟩ := Outcome.map_eq_ok_iff.mp hfaults
  obtain ⟨-, hmissed, hfault, -⟩ := Auditor.report_outcomes {} .oneModel "B.json"
  obtain ⟨-, -, -, hno, -⟩ := Auditor.report_outcomes ⟨[], .withEntry (.int 5)⟩ .oneModel "A.json"
  obtain ⟨-, hfirst, -, -, hhint⟩ := Auditor.report_outcomes ⟨[], .misnamed⟩ .oneModel "A.json"
  refine ⟨?_, hno _ hnumber, fields, t, hfaults, ?_, hfirst _ (.unworded hload rfl hentry hfaults)⟩
  · obtain ⟨fault, h⟩ | hnull | ⟨text, hread, -⟩ := hfault _ hmissing
    · exact ⟨_, fault, hmissed _ (.refused hmissing), h⟩
    · exact absurd hnull (by decide)
    · cases hunread.symm.trans hread
  · exact hhint fields t (.unknownName "name") (by rw [hfaults]; exact List.mem_singleton_self _)

/-- **The registry can stop an audit**: a model is audited with the registry of the program, but not
with one whose entry is a number or whose template for hints names what is not given to it. -/
theorem Auditor.report_stopped_by_registry :
    (∃ r, Auditor.report {} .oneModel "A.json" = .ok r ∧ r.diagnostics.length = 1) ∧
    Auditor.report ⟨[], .withEntry (.int 5)⟩ .oneModel "A.json" =
      .error (.registry (.notIterable "int")) ∧
    Auditor.report ⟨[], .misnamed⟩ .oneModel "A.json" =
      .error (.template (.unknownName "name")) := by
  have hfound : (fun r : Report => r.diagnostics.length) <$>
      Auditor.report {} .oneModel "A.json" = .ok 1 := by decide +kernel
  have hnumber : (fun r : Report => r.diagnostics.length) <$>
      Auditor.report ⟨[], .withEntry (.int 5)⟩ .oneModel "A.json" =
        .error (.registry (.notIterable "int")) := by decide +kernel
  have hname : (fun r : Report => r.diagnostics.length) <$>
      Auditor.report ⟨[], .misnamed⟩ .oneModel "A.json" =
        .error (.template (.unknownName "name")) := by decide +kernel
  exact ⟨Outcome.map_eq_ok_iff.mp hfound, Outcome.map_eq_error_iff.mp hnumber,
    Outcome.map_eq_error_iff.mp hname⟩

end BindingAudit
