import BindingAudit.Proofs.Audit.Failures
import BindingAudit.Proofs.CommandLine.Interchange
import BindingAudit.Proofs.Configuration.Lists
import BindingAudit.Proofs.Report.Succession
import BindingAudit.Proofs.Rule.Verdict
import BindingAudit.Proofs.Summary.Printing

/-!
# Path arguments are a set

The order of the paths a command is given does not matter, nor whether one is given twice or lies in
another: the same models are audited, each once, with the same exit code and the same files
afterwards.

## Architecture

1. Collecting (`collectModels_eq`): the models of the paths, each at its first place.
2. Auditing (`auditAll_events`, `hasViolations_iff`): each model has its own events, and a report
   has findings exactly if the document has a flagged binding.
3. The two commands (`check_eq`, `fix_perm`), and both of them on other paths (`paths_as_set`).

All this takes that the places of findings and edits can be put in words.  A number that has too
many digits is shown in no summary, and it stops the repairs behind it (`order_of_far_report`).
-/

namespace BindingAudit

/-! ## Section 1: Collecting -/

namespace CommandLine

variable {w : Workspace} {source : ConfigurationSource} {paths paths' files files' : List String}
  {path file : String}

/-- The model files that a path leads to. -/
def found (w : Workspace) (path : String) : List String :=
  (w.modelFiles path).toOption.getD []

/-- A path of a command leads to a model file. -/
def Leads (w : Workspace) (paths : List String) (file : String) : Prop :=
  ∃ path ∈ workPaths paths, file ∈ found w path

/-- The warnings about paths without model files. -/
def emptyWarnings (w : Workspace) (paths : List String) : List Event :=
  paths.flatMap fun path =>
    if (found w path).isEmpty then [Event.warning ("No element-model files found at " ++ path)]
    else []

/-- Collecting comes to the models of all paths, each at its first place. -/
theorem collectModels_eq (h : ∀ path ∈ paths, ∃ files, w.modelFiles path = .ok files)
    (known : List String) :
    collectModels w known paths =
      (emptyWarnings w paths, .ok (Configuration.addNew known (paths.flatMap (found w)))) := by
  induction paths generalizing known with
  | nil => rfl
  | cons path rest ih =>
    rw [List.forall_mem_cons] at h
    obtain ⟨files, hfiles⟩ := h.1
    have hfound : found w path = files := by
      rw [found, hfiles]
      rfl
    unfold collectModels
    simp only [hfiles, ih h.2, emptyWarnings, List.flatMap_cons, hfound,
      Configuration.addNew_append]

/-- **Collecting**: each model that a path leads to is there, and it is there once. -/
theorem exists_collected (h : ∀ path ∈ workPaths paths, ∃ files, w.modelFiles path = .ok files) :
    ∃ files, collectModels w [] (workPaths paths) =
        (emptyWarnings w (workPaths paths), .ok files) ∧
      files.Nodup ∧ ∀ file, file ∈ files ↔ Leads w paths file := by
  refine ⟨_, collectModels_eq h [], Configuration.nodup_addNew List.nodup_nil _, fun file => ?_⟩
  rw [Configuration.mem_addNew_iff, List.mem_flatMap, Leads]
  simp

end CommandLine

/-! ## Section 2: Auditing -/

theorem Model.exists_buildTree_of_load {w : Workspace} {path : String} {t : ElementTree}
    {source : Option String} (h : load w path = .ok (t, source)) :
    ∃ d root, buildTree d root = .ok t := by
  unfold load at h
  split at h
  · cases h
  · cases h
  · cases h
  · obtain ⟨d, -, h⟩ := Outcome.bind_eq_ok_iff.mp h
    split at h
    · next loaded hloaded =>
      cases h
      unfold ofDocument at hloaded
      split at hloaded
      · split at hloaded
        · cases hloaded
        · next root _ =>
          obtain ⟨t', htree, hloaded⟩ := Outcome.bind_eq_ok_iff.mp hloaded
          obtain ⟨source', -, hloaded⟩ := Outcome.bind_eq_ok_iff.mp hloaded
          cases hloaded
          exact ⟨d, root, htree⟩
      · cases hloaded
    · cases h

namespace Auditor

variable {a : Auditor} {w : Workspace} {path : String} {t : ElementTree} {source : Option String}
  {r : Report}

/-- A binding of a tree is flagged, and the rule is not switched off. -/
def Flags (a : Auditor) (t : ElementTree) : Prop :=
  a.ruleDisabled = false ∧ ∃ i b, i < t.size ∧ b ∈ t.bindings i ∧
    a.configuration.settings.AntiPattern t i b.expression

theorem exists_site_iff {s : Settings} (hl : Linked t.elements) :
    s.sites t ≠ [] ↔ ∃ i b, i < t.size ∧ b ∈ t.bindings i ∧ s.AntiPattern t i b.expression := by
  constructor
  · intro h
    obtain ⟨x, hx⟩ := List.exists_mem_of_ne_nil _ h
    obtain ⟨hwalk, hbinding, hsite⟩ := Settings.mem_sites_iff.mp hx
    obtain ⟨-, hv, -, -⟩ := Settings.site?_eq_some_iff.mp hsite
    exact ⟨x.element, x.binding, (ElementTree.mem_walk_iff hl).mp hwalk, hbinding,
      (Settings.verdict_eq_flagged_iff hl).mp hv⟩
  · rintro ⟨i, b, hi, hb, hanti⟩
    have hv := (Settings.verdict_eq_flagged_iff hl).mpr hanti
    -- what is flagged starts with a reference
    cases hr : Reference.ofExpression? b.expression.toList with
    | none =>
      rw [Settings.verdict, hr] at hv
      cases hv
    | some r =>
      refine List.ne_nil_of_mem (a := ⟨i, b, r⟩) (Settings.mem_sites_iff.mpr
        ⟨(ElementTree.mem_walk_iff hl).mpr hi, hb, ?_⟩)
      exact Settings.site?_eq_some_iff.mpr ⟨hr, hv, rfl, rfl⟩

/-- **A report has findings** exactly if the document has a flagged binding. -/
theorem hasViolations_iff (hload : Model.load w path = .ok (t, source))
    (hreport : a.report w path = .ok r) : r.hasViolations = true ↔ a.Flags t := by
  obtain ⟨d, root, htree⟩ := Model.exists_buildTree_of_load hload
  rw [Flags, ← exists_site_iff (Model.buildTree_loaded htree).linked, Report.hasViolations,
    Bool.not_eq_true', ← Bool.not_eq_true, List.isEmpty_iff]
  have hout := comesOut_report a w path
  rw [hreport] at hout
  generalize hr : Except.ok r = outcome at hout
  cases hout with
  | refused | noEntry | unworded => cases hr
  | disabled _ hoff =>
    cases hr
    simp [hoff]
  | @complete _ _ _ found hload' hoff _ _ hfound =>
    cases hr
    cases hload.symm.trans hload'
    have hnil : found = [] ↔ a.configuration.settings.sites t = [] := by
      rw [← List.map_eq_nil_iff (f := Rule.outline), hfound, List.map_eq_nil_iff]
    simp [hoff, hnil]

end Auditor

namespace CommandLine

variable {w : Workspace} {source : ConfigurationSource} {c : Configuration} {a : Auditor}
  {paths paths' files files' : List String} {file : String}

/-- The reports of models, where they can be made. -/
def reportsOf (a : Auditor) (w : Workspace) (files : List String) : List Report :=
  files.filterMap fun file => (a.report w file).toOption

theorem toOption_eq_some_iff {ε α : Type} {x : Except ε α} {y : α} :
    x.toOption = some y ↔ x = .ok y := by
  cases x <;> simp [Except.toOption]

theorem mem_reportsOf_iff {r : Report} :
    r ∈ reportsOf a w files ↔ ∃ file ∈ files, a.report w file = .ok r := by
  simp only [reportsOf, List.mem_filterMap, toOption_eq_some_iff]

variable {reports : List Report}

theorem reportsOf_eq (h : List.Forall₂ (fun file r => a.report w file = .ok r) files reports) :
    reportsOf a w files = reports := by
  induction h with
  | nil => rfl
  | cons hr _ ih =>
    rw [← ih]
    exact List.filterMap_cons_some (toOption_eq_some_iff.mpr hr)

theorem countP_failed_eq_zero
    (h : List.Forall₂ (fun file r => a.report w file = .ok r) files reports) :
    files.countP (fun file => !(a.report w file).isOk) = 0 := by
  induction h with
  | nil => rfl
  | cons hr _ ih =>
    rw [List.countP_cons_of_neg, ih]
    simp [hr, Except.isOk, Except.toBool]

/-- The events of a model in a run: those of its audit, and its fault if it is refused. -/
def modelEvents (a : Auditor) (w : Workspace) (file : String) : List Event :=
  a.events w file ++
    match a.report w file with
    | .error (.load (.model place fault)) => [Event.error (fault.message place)]
    | _ => []

/-- **Auditing**: each model has its own events, one model after the other. -/
theorem auditAll_events (h : ∀ file ∈ files, (∃ r, a.report w file = .ok r) ∨
      ∃ place fault, a.report w file = .error (.load (.model place fault))) :
    (auditAll a w files).1 = files.flatMap (modelEvents a w) := by
  induction files with
  | nil => rfl
  | cons file rest ih =>
    rw [List.forall_mem_cons] at h
    rw [auditAll, List.flatMap_cons, modelEvents, ← ih h.2]
    rcases h.1 with ⟨r, hr⟩ | ⟨place, fault, hr⟩
    · simp only [hr, List.append_nil]
    · simp only [hr, List.append_assoc, List.singleton_append]

/-- The registry that the program comes with has a text for the message of the rule. -/
theorem message_of_standard (c : Configuration) :
    ∃ fields, Registry.standard.entry Rule.tag.code = .ok fields ∧
      (Auditor.ruleFor ⟨c, .standard⟩ fields).message = .text Rule.defaultMessage :=
  ⟨_, rfl, rfl⟩

/-- The messages of a report are texts. -/
theorem textual_of_report {r : Report} (h : Auditor.report ⟨c, .standard⟩ w file = .ok r) :
    ∀ d ∈ r.diagnostics, d.Textual := by
  obtain ⟨fields, hentry, hmessage⟩ := message_of_standard c
  cases hload : Model.load w file with
  | error e => cases (Auditor.report_of_load_error hload _).symm.trans h
  | ok loaded =>
    cases hoff : Auditor.ruleDisabled ⟨c, .standard⟩ with
    | true =>
      cases (Auditor.report_of_disabled hload hoff).symm.trans h
      exact List.forall_mem_nil _
    | false =>
      rw [Auditor.report_of_entry hload hoff hentry] at h
      split at h
      · cases h
      · next found hfound =>
        cases h
        exact Audit.textual_findings (List.forall_mem_singleton.mpr ⟨_, hmessage⟩) hfound

/-! ## Section 3: The commands -/

open Classical in
/-- The exit code that is due for models: whether one is refused, and else whether a document has a
flagged binding and this counts. -/
noncomputable def dueCode (c : Configuration) (w : Workspace) (files : List String)
    (exitZero : Bool) : Nat :=
  if ∃ file ∈ files, ∃ e, Model.load w file = .error e then 2
  else if (∃ file ∈ files, ∃ t path, Model.load w file = .ok (t, path) ∧
    Auditor.Flags ⟨c, .standard⟩ t) ∧ exitZero = false then 1
  else 0

theorem dueCode_congr (h : ∀ file, file ∈ files ↔ file ∈ files') (exitZero : Bool) :
    dueCode c w files exitZero = dueCode c w files' exitZero := by
  classical
  unfold dueCode
  refine if_congr ?_ rfl (if_congr (and_congr_left' ?_) rfl rfl)
  · exact exists_congr fun file => and_congr_left' (h file)
  · exact exists_congr fun file => and_congr_left' (h file)

theorem checkCode_eq (exitZero : Bool) :
    checkCode ⟨reportsOf ⟨c, .standard⟩ w files,
        files.countP fun file => !(Auditor.report ⟨c, .standard⟩ w file).isOk⟩ exitZero =
      dueCode c w files exitZero := by
  have hfailed : 0 < files.countP (fun file => !(Auditor.report ⟨c, .standard⟩ w file).isOk) ↔
      ∃ file ∈ files, ∃ e, Model.load w file = .error e := by
    simp only [List.countP_pos_iff, Bool.not_eq_true', Auditor.isOk_report_eq_false_iff]
  have hflagged : (reportsOf ⟨c, .standard⟩ w files).any Report.hasViolations = true ↔
      ∃ file ∈ files, ∃ t path, Model.load w file = .ok (t, path) ∧
        Auditor.Flags ⟨c, .standard⟩ t := by
    simp only [List.any_eq_true, mem_reportsOf_iff]
    constructor
    · rintro ⟨r, ⟨file, hfile, hr⟩, hfindings⟩
      cases hload : Model.load w file with
      | error e => cases (Auditor.report_of_load_error hload _).symm.trans hr
      | ok loaded =>
        exact ⟨file, hfile, loaded.1, loaded.2, hload,
          (Auditor.hasViolations_iff hload hr).mp hfindings⟩
    · rintro ⟨file, hfile, t, path, hload, hflags⟩
      obtain ⟨found, hr⟩ := Auditor.exists_report c hload
      exact ⟨_, ⟨file, hfile, hr⟩, (Auditor.hasViolations_iff hload hr).mpr hflags⟩
  classical
  unfold checkCode dueCode
  refine if_congr hfailed rfl (if_congr ?_ rfl rfl)
  rw [Bool.and_eq_true, hflagged, Bool.not_eq_true']

/-- **Checking**: the models are audited, a summary is printed, and the exit code is the one that is
due. -/
theorem check_eq {width : Nat} {warnings : List Event} {text : String} (exitZero : Bool)
    (hfiles : collectModels w [] (workPaths paths) = (warnings, .ok files))
    (haudit : ∀ file ∈ files, (∃ r, Auditor.report ⟨source.table, .standard⟩ w file = .ok r) ∨
      ∃ place fault, Auditor.report ⟨source.table, .standard⟩ w file =
        .error (.load (.model place fault)))
    (htext : Summary.json (reportsOf ⟨source.table, .standard⟩ w files) = .ok text) :
    check ⟨w, source, .standard, width⟩ paths "json" exitZero =
      ⟨.greeting :: configurationEvents source ++
          (warnings ++ files.flatMap (modelEvents ⟨source.table, .standard⟩ w)) ++ [.output text],
        w, .exit (dueCode source.table w files exitZero)⟩ := by
  have hformat : Format.ofName? "json" = some .json := rfl
  have hreports := auditAll_eq haudit
  have hat : auditAt ⟨w, source, .standard, width⟩ paths =
      (warnings ++ files.flatMap (modelEvents ⟨source.table, .standard⟩ w),
        .ok ⟨reportsOf ⟨source.table, .standard⟩ w files, files.countP fun file =>
          !(Auditor.report ⟨source.table, .standard⟩ w file).isOk⟩) := by
    simp only [auditAt, hfiles, Environment.auditor, hreports, auditAll_events haudit, reportsOf]
  simp only [check, hformat, hat, Summary.render, htext, checkCode_eq]

/-- **Fixing** the same models in another order comes to the same files with the same exit code, if
no two of the reports are about one file. -/
theorem fix_perm {width : Nat} {dryRun : Bool}
    (hfiles : (collectModels w [] (workPaths paths)).2 = .ok files)
    (hfiles' : (collectModels w [] (workPaths paths')).2 = .ok files') (hperm : files.Perm files')
    (haudit : ∀ file ∈ files,
      (∃ r, Auditor.report ⟨source.table, .standard⟩ w file = .ok r ∧ r.Tellable) ∨
        ∃ place fault, Auditor.report ⟨source.table, .standard⟩ w file =
          .error (.load (.model place fault)))
    (hapart : (reportsOf ⟨source.table, .standard⟩ w files).Pairwise (Apart w)) :
    ∃ after code, ∀ given ∈ [paths, paths'],
      (fix ⟨w, source, .standard, width⟩ given dryRun).workspace = after ∧
        (fix ⟨w, source, .standard, width⟩ given dryRun).ending = .exit code := by
  -- the reports of either run, each with what becomes of it
  obtain ⟨treated, earlier, after, failures, hreports, hchain, hfailures, hcourse⟩ :=
    treatedAll_fix (e := ⟨w, source, .standard, width⟩) dryRun hfiles haudit
  obtain ⟨treated', earlier', after', failures', hreports', hchain', hfailures', hcourse'⟩ :=
    treatedAll_fix (e := ⟨w, source, .standard, width⟩) dryRun hfiles'
      fun file hfile => haudit file (hperm.mem_iff.mpr hfile)
  have hsame : (treated.map (·.1)).Perm (treated'.map (·.1)) := by
    rw [hreports, hreports']
    exact hperm.filterMap _
  obtain ⟨hfared, rfl⟩ := hchain.of_reports_perm hchain' hsame (hreports ▸ hapart)
  -- a failure is a refused model or a failed repair, and neither depends on the order
  have hcount : failures = failures' := by
    rw [hfailures, hfailures', hperm.countP_eq, hfared.countP_eq]
  refine ⟨after, if 0 < failures then 2 else 0, fun given hgiven => ?_⟩
  rcases List.mem_pair.mp hgiven with rfl | rfl
  · rw [hcourse]
    exact ⟨rfl, rfl⟩
  · rw [hcourse', ← hcount]
    exact ⟨rfl, rfl⟩

/-- What can be shown of a report can be told of it. -/
theorem tellable_of_showable {r : Report} (h : r.Showable)
    (hsource : ∀ path, r.source = some path → hasNull path = false) : r.Tellable := by
  refine ⟨hsource, fun e he => ?_⟩
  obtain ⟨f, hf, he⟩ := List.mem_flatMap.mp (Report.mem_dropRepeated.mp he).1
  exact h.edits f hf e he

theorem total_perm {reports reports' : List Report} (h : reports.Perm reports') :
    Summary.total reports = Summary.total reports' :=
  (h.map _).sum_nat

end CommandLine

open CommandLine in
/-- **Path arguments are a set**: let two lists of paths hold the same paths, with any configuration
and the registry that the program comes with.  Suppose that the paths can be followed, that a model
is refused for a fault of its own only, and that all that is to be shown of places and numbers can
be put in words.  Then each model that the paths lead to is collected once from either list.  A
summary for programs is printed for both, with the same exit code: 2 if a model is refused, else 1
if a document has a flagged binding and this counts, else 0.  If the sources are paths and no two
reports have fixes for one file, fixing comes to the same files with the same exit code. -/
theorem paths_as_set {w : Workspace} {source : ConfigurationSource} {width : Nat}
    {paths paths' : List String}
    (hsame : ∀ path, path ∈ workPaths paths ↔ path ∈ workPaths paths')
    (hfollow : ∀ path ∈ workPaths paths, ∃ files, w.modelFiles path = .ok files)
    (hload : ∀ file, Leads w paths file → ∀ e, Model.load w file = .error e →
      ∃ place fault, e = .model place fault)
    (hplaces : ∀ file, Leads w paths file → ∀ r,
      Auditor.report ⟨source.table, .standard⟩ w file = .ok r → r.Showable)
    (htotal : ∀ files, (collectModels w [] (workPaths paths)).2 = .ok files →
      exceedsDigits (Summary.total (reportsOf ⟨source.table, .standard⟩ w files)) = false) :
    ∃ files files', collectModels w [] (workPaths paths) =
        (emptyWarnings w (workPaths paths), .ok files) ∧
      collectModels w [] (workPaths paths') = (emptyWarnings w (workPaths paths'), .ok files') ∧
      files.Nodup ∧ files'.Nodup ∧ files.Perm files' ∧
      (∀ file, file ∈ files ↔ Leads w paths file) ∧
      (∀ exitZero, ∃ text text', check ⟨w, source, .standard, width⟩ paths "json" exitZero =
          ⟨.greeting :: configurationEvents source ++ (emptyWarnings w (workPaths paths) ++
              files.flatMap (modelEvents ⟨source.table, .standard⟩ w)) ++ [.output text],
            w, .exit (dueCode source.table w files exitZero)⟩ ∧
        check ⟨w, source, .standard, width⟩ paths' "json" exitZero =
          ⟨.greeting :: configurationEvents source ++ (emptyWarnings w (workPaths paths') ++
              files'.flatMap (modelEvents ⟨source.table, .standard⟩ w)) ++ [.output text'],
            w, .exit (dueCode source.table w files exitZero)⟩) ∧
      ∀ dryRun, (∀ file, Leads w paths file → ∀ t path,
          Model.load w file = .ok (t, some path) → hasNull path = false) →
        (∀ file file', Leads w paths file → Leads w paths file' → file ≠ file' →
          ∀ r r', Auditor.report ⟨source.table, .standard⟩ w file = .ok r →
            Auditor.report ⟨source.table, .standard⟩ w file' = .ok r' → Apart w r r') →
        ∃ after code, ∀ given ∈ [paths, paths'],
          (fix ⟨w, source, .standard, width⟩ given dryRun).workspace = after ∧
            (fix ⟨w, source, .standard, width⟩ given dryRun).ending = .exit code := by
  obtain ⟨files, hfiles, hnodup, hmem⟩ := exists_collected hfollow
  have hfollow' : ∀ path ∈ workPaths paths', ∃ files, w.modelFiles path = .ok files :=
    fun path hpath => hfollow path ((hsame path).mpr hpath)
  obtain ⟨files', hfiles', hnodup', hmem'⟩ := exists_collected hfollow'
  have hleads : ∀ file, file ∈ files ↔ file ∈ files' := by
    intro file
    rw [hmem, hmem', Leads, Leads]
    simp only [hsame]
  -- lists without repetitions that have the same members
  have hperm : files.Perm files' := (List.perm_ext_iff_of_nodup hnodup hnodup').mpr hleads
  have haudit : ∀ file ∈ files, (∃ r, Auditor.report ⟨source.table, .standard⟩ w file = .ok r) ∨
      ∃ place fault, Auditor.report ⟨source.table, .standard⟩ w file =
        .error (.load (.model place fault)) :=
    fun file hfile => Auditor.report_or_fault _ (hload file ((hmem file).mp hfile))
  have hreports : (reportsOf ⟨source.table, .standard⟩ w files).Perm
      (reportsOf ⟨source.table, .standard⟩ w files') := hperm.filterMap _
  -- whether a summary can be printed does not depend on the order of the reports
  have htext : ∀ reports, reports.Perm (reportsOf ⟨source.table, .standard⟩ w files) →
      ∃ text, Summary.json reports = .ok text := by
    intro reports hsorted
    refine Summary.exists_json (fun r hr => ?_) (fun r hr => ?_) ?_
    · obtain ⟨file, -, hreport⟩ := mem_reportsOf_iff.mp (hsorted.mem_iff.mp hr)
      exact textual_of_report hreport
    · obtain ⟨file, hfile, hreport⟩ := mem_reportsOf_iff.mp (hsorted.mem_iff.mp hr)
      exact hplaces file ((hmem file).mp hfile) r hreport
    · rw [total_perm hsorted]
      exact htotal files (by rw [hfiles])
  refine ⟨files, files', hfiles, hfiles', hnodup, hnodup', hperm, hmem, fun exitZero => ?_,
    fun dryRun hsource hapart => ?_⟩
  · obtain ⟨text, htext₁⟩ := htext _ (.refl _)
    obtain ⟨text', htext₂⟩ := htext _ hreports.symm
    refine ⟨text, text', check_eq exitZero hfiles haudit htext₁, ?_⟩
    rw [dueCode_congr hleads]
    exact check_eq exitZero hfiles' (fun file hfile => haudit file ((hleads file).mpr hfile)) htext₂
  · refine fix_perm (by rw [hfiles]) (by rw [hfiles']) hperm (fun file hfile => ?_) ?_
    · have hled := (hmem file).mp hfile
      refine (haudit file hfile).imp_left fun ⟨r, hr⟩ => ⟨r, hr, ?_⟩
      refine tellable_of_showable (hplaces file hled r hr) fun path hpath => ?_
      -- the source of a report is that of the model
      cases hloaded : Model.load w file with
      | error e => cases (Auditor.report_of_load_error hloaded _).symm.trans hr
      | ok loaded =>
        obtain ⟨found, hfound⟩ := Auditor.exists_report source.table hloaded
        cases hr.symm.trans hfound
        exact hsource file hled loaded.1 path (by rw [hloaded, ← hpath])
    · refine List.pairwise_filterMap.mpr (hnodup.imp_of_mem ?_)
      intro file file' hfile hfile' hne r hr r' hr'
      exact hapart file file' ((hmem file).mp hfile) ((hmem file').mp hfile') hne r r'
        (toOption_eq_some_iff.mp hr) (toOption_eq_some_iff.mp hr')

/-- A directory with two models, each with the source it is about; there is no permission to write
the second source. -/
def Workspace.nestedModels : Workspace where
  base := "/w"
  stored := [(["m"], .directory), (["m", "A.qml"], .file (Text.Utf8.encode "(t.a)".toList)),
    (["m", "A.qml.json"], .file (Text.Utf8.encode (
      "\x7b\"source\":\"A.qml\",\"root\":\x7b\"type\":\"I\",\"span\":[0,5],\"children\":[".toList ++
      "\x7b\"type\":\"Q\",\"id\":\"t\",\"span\":[0,4],\"bindings\":[".toList ++
      "\x7b\"property\":\"x\",\"expression\":\"t.a\",\"span\":[1,3]\x7d]\x7d]\x7d\x7d".toList))),
    (["m", "B.qml"], .file (Text.Utf8.encode "(t.b)".toList)),
    (["m", "B.qml.json"], .file (Text.Utf8.encode (
      "\x7b\"source\":\"B.qml\",\"root\":\x7b\"type\":\"I\",\"span\":[0,5],\"children\":[".toList ++
      "\x7b\"type\":\"Q\",\"id\":\"t\",\"span\":[0,4],\"bindings\":[".toList ++
      "\x7b\"property\":\"x\",\"expression\":\"t.b\",\"span\":[1,3]\x7d]\x7d]\x7d\x7d".toList)))]
  unwritable p _ := if p = ["m", "B.qml"] then some (.refused 13 "Permission denied") else none

section

open CommandLine

/-- The source of a report, the number of findings, and whether all places can be put in words. -/
private def glance (r : Report) : Option String × Nat × Bool :=
  (r.source, r.diagnostics.length,
    r.diagnostics.all (fun d =>
        !exceedsDigits d.location.offset && !exceedsDigits d.location.length) &&
      r.fixes.all fun f => f.edits.all fun e =>
        !exceedsDigits e.span.offset && !exceedsDigits e.span.length)

private theorem showable_of_glance {r : Report} {path : Option String} {n : Nat}
    (h : glance r = (path, n, true)) : r.Showable := by
  obtain ⟨-, h⟩ := Prod.mk.inj h
  obtain ⟨-, h⟩ := Prod.mk.inj h
  simp only [Bool.and_eq_true, List.all_eq_true, Bool.not_eq_true'] at h
  exact ⟨h.1, h.2⟩

/-- The edits of a report on one of the models. -/
private def aliasEdits (name expression : String) : List Edit :=
  [.insertion 4 ("\n    property alias " ++ name ++ ": " ++ expression),
    .replacement ⟨1, 3⟩ name (some expression)]

private theorem reports_nestedModels : ∃ r r',
    Auditor.report ⟨[], .standard⟩ .nestedModels "m/A.qml.json" = .ok r ∧
      Auditor.report ⟨[], .standard⟩ .nestedModels "m/B.qml.json" = .ok r' ∧
      glance r = (some "m/A.qml", 1, true) ∧ glance r' = (some "m/B.qml", 1, true) ∧
      r.edits = aliasEdits "als_t_a" "t.a" ∧ r'.edits = aliasEdits "als_t_b" "t.b" := by
  have hA : (fun r => (glance r, r.edits)) <$>
      Auditor.report ⟨[], .standard⟩ .nestedModels "m/A.qml.json" =
        .ok ((some "m/A.qml", 1, true), aliasEdits "als_t_a" "t.a") := by decide +kernel
  have hB : (fun r => (glance r, r.edits)) <$>
      Auditor.report ⟨[], .standard⟩ .nestedModels "m/B.qml.json" =
        .ok ((some "m/B.qml", 1, true), aliasEdits "als_t_b" "t.b") := by decide +kernel
  obtain ⟨r, hr, hview⟩ := Outcome.map_eq_ok_iff.mp hA
  obtain ⟨r', hr', hview'⟩ := Outcome.map_eq_ok_iff.mp hB
  exact ⟨r, r', hr, hr', (Prod.mk.inj hview).1, (Prod.mk.inj hview').1, (Prod.mk.inj hview).2,
    (Prod.mk.inj hview').2⟩

/-- What is known of a model in the directory: its report is one of a source next to it, with one
finding, and its places can be put in words. -/
private theorem report_nestedModels : ∀ file ∈ ["m/A.qml.json", "m/B.qml.json"],
    ∃ r path, Auditor.report ⟨[], .standard⟩ .nestedModels file = .ok r ∧
      glance r = (some path, 1, true) ∧ hasNull path = false ∧
      Workspace.nestedModels.locate path =
        .ok (if file = "m/A.qml.json" then ["m", "A.qml"] else ["m", "B.qml"]) := by
  obtain ⟨r, r', hr, hr', hview, hview', -⟩ := reports_nestedModels
  intro file hfile
  rcases List.mem_pair.mp hfile with rfl | rfl
  · exact ⟨r, "m/A.qml", hr, hview, by decide, by decide +kernel⟩
  · exact ⟨r', "m/B.qml", hr', hview', by decide, by decide +kernel⟩

private theorem length_diagnostics_of_glance {r : Report} {path : Option String} {n : Nat}
    {told : Bool} (h : glance r = (path, n, told)) : r.diagnostics.length = n :=
  (Prod.mk.inj (Prod.mk.inj h).2).1

private theorem dueCode_nestedModels :
    dueCode [] .nestedModels ["m/A.qml.json", "m/B.qml.json"] false = 1 := by
  obtain ⟨r, r', hr, hr', hview, -⟩ := reports_nestedModels
  have hlength := length_diagnostics_of_glance hview
  have hreports : List.Forall₂
      (fun file r => Auditor.report ⟨[], .standard⟩ .nestedModels file = .ok r)
      ["m/A.qml.json", "m/B.qml.json"] [r, r'] := .cons hr (.cons hr' .nil)
  have hfindings : r.hasViolations = true := by
    rw [Report.hasViolations, Bool.not_eq_true', ← Bool.not_eq_true, List.isEmpty_iff]
    rintro hnil
    rw [hnil] at hlength
    cases hlength
  rw [← checkCode_eq, reportsOf_eq hreports, countP_failed_eq_zero hreports, checkCode]
  simp [hfindings]

/-- Where the source of a model in the directory lies. -/
private theorem place_of_source {file path : String} {r : Report} {p : Place}
    (hfile : file ∈ ["m/A.qml.json", "m/B.qml.json"])
    (hreport : Auditor.report ⟨[], .standard⟩ .nestedModels file = .ok r)
    (hsource : r.source = some path) (hp : Workspace.nestedModels.locate path = .ok p) :
    p = if file = "m/A.qml.json" then ["m", "A.qml"] else ["m", "B.qml"] := by
  obtain ⟨r', path', hr, hview, -, hlocate⟩ := report_nestedModels file hfile
  cases hr.symm.trans hreport
  obtain rfl : path = path' := Option.some.inj (hsource.symm.trans (Prod.mk.inj hview).1)
  exact Except.ok.inj (hp.symm.trans hlocate)

/-- The sources of the two models are two files. -/
private theorem apart_nestedModels {file file' : String} {r r' : Report}
    (hfile : file ∈ ["m/A.qml.json", "m/B.qml.json"])
    (hfile' : file' ∈ ["m/A.qml.json", "m/B.qml.json"]) (hne : file ≠ file')
    (hreport : Auditor.report ⟨[], .standard⟩ .nestedModels file = .ok r)
    (hreport' : Auditor.report ⟨[], .standard⟩ .nestedModels file' = .ok r') :
    Apart .nestedModels r r' := by
  rintro p ⟨-, path, hpath, hp⟩ ⟨-, path', hpath', hp'⟩
  have hplace := place_of_source hfile hreport hpath hp
  have hplace' := place_of_source hfile' hreport' hpath' hp'
  rcases List.mem_pair.mp hfile with rfl | rfl <;> rcases List.mem_pair.mp hfile' with rfl | rfl
  · exact hne rfl
  · exact absurd (hplace.symm.trans hplace') (by decide)
  · exact absurd (hplace.symm.trans hplace') (by decide)
  · exact hne rfl

private theorem modelFiles_nestedModels :
    Workspace.nestedModels.modelFiles "m" = .ok ["m/A.qml.json", "m/B.qml.json"] ∧
      Workspace.nestedModels.modelFiles "m/B.qml.json" = .ok ["m/B.qml.json"] :=
  ⟨by decide +kernel, by decide +kernel⟩

private theorem leads_nestedModels {file : String}
    (h : Leads .nestedModels ["m", "m/B.qml.json"] file) :
    file ∈ ["m/A.qml.json", "m/B.qml.json"] := by
  obtain ⟨hdirectory, hmodel⟩ := modelFiles_nestedModels
  obtain ⟨path, hpath, hfile⟩ := h
  have hwork : workPaths ["m", "m/B.qml.json"] = ["m", "m/B.qml.json"] := by decide
  rw [hwork] at hpath
  rcases List.mem_pair.mp hpath with rfl | rfl
  · rw [found, hdirectory] at hfile
    exact hfile
  · rw [found, hmodel] at hfile
    exact List.mem_cons_of_mem _ hfile

private theorem collectModels_nestedModels :
    (collectModels .nestedModels [] (workPaths ["m", "m/B.qml.json"])).2 =
      .ok ["m/A.qml.json", "m/B.qml.json"] := by decide +kernel

/-- The two models and their sources after the first source is rewritten. -/
private def rewrittenModels : Workspace :=
  Workspace.nestedModels.store ["m", "A.qml"]
    (.file (Text.Utf8.encode "(als_t_a\n    property alias als_t_a: t.a)".toList))

/-- The first source is rewritten, and the second cannot be. -/
private theorem treatedAll_nestedModels {r r' : Report}
    (hsource : r.source = some "m/A.qml") (hsource' : r'.source = some "m/B.qml")
    (hedits : r.edits = aliasEdits "als_t_a" "t.a")
    (hedits' : r'.edits = aliasEdits "als_t_b" "t.b") :
    TreatedAll false .nestedModels [(r, true), (r', false)] rewrittenModels := by
  have hfixes {r : Report} {name expression : String} (h : r.edits = aliasEdits name expression) :
      r.fixes ≠ [] := by
    intro hnil
    rw [Report.edits, hnil] at h
    cases h
  have happly : Edit.apply "(t.a)" r.edits =
      .ok "(als_t_a\n    property alias als_t_a: t.a)" := by
    rw [hedits]
    decide +kernel
  have happly' : Edit.apply "(t.b)" r'.edits =
      .ok "(als_t_b\n    property alias als_t_b: t.b)" := by
    rw [hedits']
    decide +kernel
  have hfile : Workspace.nestedModels.at? ["m", "A.qml"] =
      some (.file (Text.Utf8.encode "(t.a)".toList)) := by decide +kernel
  have hread' : rewrittenModels.readText "m/B.qml" = .ok "(t.b)" := by decide +kernel
  have hwrite' : rewrittenModels.writeText "m/B.qml" "(als_t_b\n    property alias als_t_b: t.b)" =
      .error (.file (.refused 13 "Permission denied") "m/B.qml") :=
    (Workspace.writeText_eq_error_iff hread').mpr
      ⟨["m", "B.qml"], _, by decide +kernel, by decide +kernel, rfl⟩
  exact .cons (.rewritten rfl (hfixes hedits) hsource (by decide +kernel) happly (by decide +kernel)
      hfile (by decide +kernel))
    (.cons (.unwritten rfl (hfixes hedits') hsource' hread' happly' hwrite') .nil)

private theorem fix_nestedModels :
    (fix ⟨.nestedModels, {}, .standard, 80⟩ ["m", "m/B.qml.json"] false).workspace.readText
        "m/A.qml" = .ok "(als_t_a\n    property alias als_t_a: t.a)" ∧
      (fix ⟨.nestedModels, {}, .standard, 80⟩ ["m", "m/B.qml.json"] false).ending = .exit 2 := by
  obtain ⟨r, r', hr, hr', hview, hview', hedits, hedits'⟩ := reports_nestedModels
  have hreports : List.Forall₂
      (fun file r => Auditor.report ⟨[], .standard⟩ .nestedModels file = .ok r)
      ["m/A.qml.json", "m/B.qml.json"] [r, r'] := .cons hr (.cons hr' .nil)
  have haudit : ∀ file ∈ ["m/A.qml.json", "m/B.qml.json"],
      (∃ r, Auditor.report ⟨[], .standard⟩ .nestedModels file = .ok r ∧ r.Tellable) ∨
        ∃ place fault, Auditor.report ⟨[], .standard⟩ .nestedModels file =
          .error (.load (.model place fault)) := by
    intro file hfile
    obtain ⟨r, path, hr, hview, hnull, -⟩ := report_nestedModels file hfile
    refine Or.inl ⟨r, hr, tellable_of_showable (showable_of_glance hview) fun path' hpath => ?_⟩
    obtain rfl : path = path' := Option.some.inj ((Prod.mk.inj hview).1.symm.trans hpath)
    exact hnull
  obtain ⟨treated, earlier, after, failures, htreated, hchain, hfailures, hcourse⟩ :=
    treatedAll_fix (e := ⟨.nestedModels, {}, .standard, 80⟩) false collectModels_nestedModels haudit
  have hchain' := treatedAll_nestedModels (Prod.mk.inj hview).1 (Prod.mk.inj hview').1 hedits
    hedits'
  obtain ⟨rfl, rfl⟩ := hchain.unique hchain' (htreated.trans (reportsOf_eq hreports))
  have htext : rewrittenModels.readText "m/A.qml" =
      .ok "(als_t_a\n    property alias als_t_a: t.a)" := by decide +kernel
  rw [hcourse, hfailures]
  exact ⟨htext, by simp⟩

/-- A directory and a model in it, or the model twice around the directory.  One of the sources
cannot be written, and so the exit code of fixing is 2 in either order. -/
theorem paths_as_set_nestedModels :
    ∃ files files', (collectModels .nestedModels [] (workPaths ["m", "m/B.qml.json"])).2 =
        .ok files ∧
      (collectModels .nestedModels [] (workPaths ["m/B.qml.json", "m", "m/B.qml.json"])).2 =
        .ok files' ∧
      files = ["m/A.qml.json", "m/B.qml.json"] ∧ files' = ["m/B.qml.json", "m/A.qml.json"] ∧
      files.Perm files' ∧
      (∀ given ∈ [["m", "m/B.qml.json"], ["m/B.qml.json", "m", "m/B.qml.json"]],
        (check ⟨.nestedModels, {}, .standard, 80⟩ given "json" false).ending = .exit 1) ∧
      ∃ after, after.readText "m/A.qml" = .ok "(als_t_a\n    property alias als_t_a: t.a)" ∧
        ∀ given ∈ [["m", "m/B.qml.json"], ["m/B.qml.json", "m", "m/B.qml.json"]],
          (fix ⟨.nestedModels, {}, .standard, 80⟩ given false).workspace = after ∧
            (fix ⟨.nestedModels, {}, .standard, 80⟩ given false).ending = .exit 2 := by
  have hwork : workPaths ["m", "m/B.qml.json"] = ["m", "m/B.qml.json"] := by decide
  have hwork' : workPaths ["m/B.qml.json", "m", "m/B.qml.json"] =
      ["m/B.qml.json", "m", "m/B.qml.json"] := by decide
  have hfiles := collectModels_nestedModels
  have hfiles' :
      (collectModels .nestedModels [] (workPaths ["m/B.qml.json", "m", "m/B.qml.json"])).2 =
        .ok ["m/B.qml.json", "m/A.qml.json"] := by decide +kernel
  have hsame : ∀ path, path ∈ workPaths ["m", "m/B.qml.json"] ↔
      path ∈ workPaths ["m/B.qml.json", "m", "m/B.qml.json"] := by
    intro path
    rw [hwork, hwork']
    simp only [List.mem_cons, List.not_mem_nil, or_false]
    exact ⟨fun h => h.elim (.inr ∘ .inl) .inl, fun h => h.elim .inr fun h => h.elim .inl .inr⟩
  have hfollow : ∀ path ∈ workPaths ["m", "m/B.qml.json"],
      ∃ files, Workspace.nestedModels.modelFiles path = .ok files := by
    intro path hpath
    rw [hwork] at hpath
    rcases List.mem_pair.mp hpath with rfl | rfl
    · exact ⟨_, modelFiles_nestedModels.1⟩
    · exact ⟨_, modelFiles_nestedModels.2⟩
  have hload : ∀ file, Leads .nestedModels ["m", "m/B.qml.json"] file →
      ∀ e, Model.load .nestedModels file = .error e → ∃ place fault, e = .model place fault := by
    intro file hfile e hload
    obtain ⟨r, -, hr, -⟩ := report_nestedModels file (leads_nestedModels hfile)
    cases (Auditor.report_of_load_error hload _).symm.trans hr
  have hsource : ∀ file, Leads .nestedModels ["m", "m/B.qml.json"] file →
      ∀ t path, Model.load .nestedModels file = .ok (t, some path) → hasNull path = false := by
    intro file hfile t path hload
    obtain ⟨r, path', hr, hview, hnull, -⟩ := report_nestedModels file (leads_nestedModels hfile)
    obtain ⟨diagnostics, hreport⟩ := Auditor.exists_report [] hload
    cases hr.symm.trans hreport
    obtain rfl : path = path' := Option.some.inj (Prod.mk.inj hview).1
    exact hnull
  have hplaces : ∀ file, Leads .nestedModels ["m", "m/B.qml.json"] file →
      ∀ r, Auditor.report ⟨[], .standard⟩ .nestedModels file = .ok r → r.Showable := by
    intro file hfile r hreport
    obtain ⟨r', _, hr', hview, -⟩ := report_nestedModels file (leads_nestedModels hfile)
    cases hr'.symm.trans hreport
    exact showable_of_glance hview
  have htotal : ∀ files, (collectModels .nestedModels [] (workPaths ["m", "m/B.qml.json"])).2 =
      .ok files → exceedsDigits (Summary.total (reportsOf ⟨[], .standard⟩ .nestedModels files)) =
        false := by
    intro files hcollected
    cases hfiles.symm.trans hcollected
    obtain ⟨r, r', hr, hr', hview, hview', -⟩ := reports_nestedModels
    have htwo : Summary.total (reportsOf ⟨[], .standard⟩ .nestedModels
        ["m/A.qml.json", "m/B.qml.json"]) = 2 := by
      rw [reportsOf_eq (.cons hr (.cons hr' .nil)), Summary.total, List.map_cons, List.map_cons,
        length_diagnostics_of_glance hview, length_diagnostics_of_glance hview']
      rfl
    refine (congrArg (fun n : Nat => exceedsDigits n) htwo).trans ?_
    decide +kernel
  obtain ⟨files, files', hcollected, hcollected', -, -, hperm, -, hcheck, hfix⟩ :=
    @paths_as_set .nestedModels {} 80 ["m", "m/B.qml.json"] ["m/B.qml.json", "m", "m/B.qml.json"]
      hsame hfollow hload hplaces htotal
  rw [hcollected] at hfiles
  rw [hcollected'] at hfiles'
  obtain ⟨after, code, hfix⟩ := hfix false hsource fun file file' hfile hfile' hne r r' hr =>
    apart_nestedModels (leads_nestedModels hfile) (leads_nestedModels hfile') hne hr
  -- what comes of the one order comes of the other
  obtain ⟨hafter, hcode⟩ := hfix _ (List.mem_cons_self ..)
  obtain ⟨htext, hending⟩ := fix_nestedModels
  rw [hafter] at htext
  obtain rfl : code = 2 := Ending.exit.inj (hcode.symm.trans hending)
  refine ⟨files, files', by rw [hcollected], by rw [hcollected'], Except.ok.inj hfiles,
    Except.ok.inj hfiles', hperm, ?_, after, htext, hfix⟩
  obtain ⟨text, text', h, h'⟩ := hcheck false
  have hdue : dueCode [] .nestedModels files false = 1 := by
    rw [Except.ok.inj hfiles]
    exact dueCode_nestedModels
  intro given hgiven
  rcases List.mem_pair.mp hgiven with rfl | rfl
  · exact (congrArg Course.ending h).trans (congrArg Ending.exit hdue)
  · exact (congrArg Course.ending h').trans (congrArg Ending.exit hdue)

end

/-- **A number with too many digits** keeps a report with a finding, for which the exit code 1 is
due, from being shown; and of two reports about different files the one behind it is dealt with or
left out, as the order has it. -/
theorem order_of_far_report :
    ∃ far near, Audit.findings [.standard] .farRoot = .ok far ∧
      Audit.findings [.standard] .threeReads = .ok near ∧
      CommandLine.checkCode ⟨[⟨"A.json", some "A.qml", far⟩], 0⟩ false = 1 ∧
      Summary.render (.console 80) .farAndNear [⟨"A.json", some "A.qml", far⟩] .json =
        .error (.json (.digits .showing)) ∧
      (CommandLine.repairAll false [⟨"A.json", some "A.qml", far⟩, ⟨"B.json", some "B.qml", near⟩]
          { workspace := .farAndNear }).workspace ≠
        (CommandLine.repairAll false [⟨"B.json", some "B.qml", near⟩, ⟨"A.json", some "A.qml", far⟩]
          { workspace := .farAndNear }).workspace := by
  have hfar : (fun far => (CommandLine.checkCode ⟨[⟨"A.json", some "A.qml", far⟩], 0⟩ false,
      Summary.render (.console 80) .farAndNear [⟨"A.json", some "A.qml", far⟩] .json)) <$>
        Audit.findings [.standard] .farRoot = .ok (1, .error (.json (.digits .showing))) := by
    decide +kernel
  have hnear : (fun far => (fun near => decide (
      (CommandLine.repairAll false [⟨"A.json", some "A.qml", far⟩, ⟨"B.json", some "B.qml", near⟩]
          { workspace := .farAndNear }).workspace.stored =
        (CommandLine.repairAll false [⟨"B.json", some "B.qml", near⟩, ⟨"A.json", some "A.qml", far⟩]
          { workspace := .farAndNear }).workspace.stored)) <$>
            Audit.findings [.standard] .threeReads) <$>
        Audit.findings [.standard] .farRoot = .ok (.ok false) := by decide +kernel
  obtain ⟨far, hfound, hshown⟩ := Outcome.map_eq_ok_iff.mp hfar
  obtain ⟨far', hfound', hnear⟩ := Outcome.map_eq_ok_iff.mp hnear
  obtain rfl : far = far' := Except.ok.inj (hfound.symm.trans hfound')
  obtain ⟨near, hfoundNear, hdiffer⟩ := Outcome.map_eq_ok_iff.mp hnear
  obtain ⟨hcode, hrender⟩ := Prod.mk.inj hshown
  exact ⟨far, near, hfound, hfoundNear, hcode, hrender, fun hequal =>
    of_decide_eq_false hdiffer (congrArg Workspace.stored hequal)⟩

end BindingAudit
