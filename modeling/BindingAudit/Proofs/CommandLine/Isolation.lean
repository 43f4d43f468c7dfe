import BindingAudit.CommandLine.Run
import BindingAudit.Proofs.Report.Repair
import BindingAudit.Proofs.Rule.Applicability
import BindingAudit.Proofs.Rule.Wording
import Mathlib.Algebra.Ring.Nat

/-!
# Documents do not get into each other's way

A run that fixes sources goes through two loops: every model is audited, and then every report is
applied to its source.  Each document stands for itself in both of them.  A model that cannot be
loaded and a report that cannot be applied leave the files as they are and the documents behind them
to their turn.

## Architecture

1. Reports (`auditAll_eq`): with the registry that the program comes with a report is made exactly
   for the models that can be loaded.
2. One report (`Treated`): the ways a report can be dealt with, and what each does to the files.
3. All reports (`TreatedAll`): the reports are dealt with one after the other, each on the files as
   the ones before it left them.

What this takes is that the places of all edits can be put in words (`Report.Tellable`).  A fault
that cannot be told is not caught, and then the reports behind it are left out
(`repairAll_of_stops`).
-/

namespace BindingAudit

/-! ## Section 1: Reports -/

/-- The registry that the program comes with has an entry for the rule, with the default hint. -/
theorem Registry.standard_entry : ∃ fields, standard.entry Rule.tag.code = .ok (some fields) ∧
    standard.field? fields "hint_template" = some (.text Rule.defaultHint) :=
  ⟨_, rfl, rfl⟩

namespace Auditor

variable {configuration : Configuration} {w : Workspace} {path : String}

/-- The rules of the registry that the program comes with can be set up and find words. -/
theorem exists_rules (configuration : Configuration) :
    ∃ rules, Auditor.rules ⟨configuration, .standard⟩ = .ok rules ∧
      ∀ rule ∈ rules, rule.Worded := by
  obtain ⟨fields, hentry, hhint⟩ := Registry.standard_entry
  unfold rules
  split
  · exact ⟨[], rfl, fun rule hrule => by cases hrule⟩
  · refine ⟨_, by rw [hentry]; rfl, fun rule hrule => ?_⟩
    rw [List.mem_singleton.mp hrule]
    refine Rule.worded_of_default ?_
    simp only [Rule.ofEntry, Rule.entryOr, Option.getD_some, hhint]
    rfl

/-- **A report is made for every model that can be loaded.** -/
theorem exists_report (configuration : Configuration) {t : ElementTree} {source : Option String}
    (h : Model.load w path = .ok (t, source)) :
    ∃ found, Auditor.report ⟨configuration, .standard⟩ w path = .ok ⟨path, source, found⟩ := by
  obtain ⟨rules, hrules, hworded⟩ := exists_rules configuration
  obtain ⟨found, hfound⟩ := Audit.exists_findings hworded t
  refine ⟨found, ?_⟩
  unfold report
  simp only [h, hrules, hfound]

/-- What keeps a model from being loaded is all that keeps a report from being made. -/
theorem report_of_load_error {e : LoadError} (h : Model.load w path = .error e)
    (a : Auditor) : a.report w path = .error (.load e) := by
  unfold report
  simp only [h]

theorem isOk_report_eq_false_iff :
    (Auditor.report ⟨configuration, .standard⟩ w path).isOk = false ↔
      ∃ e, Model.load w path = .error e := by
  cases hload : Model.load w path with
  | error e => simp [report_of_load_error hload, Except.isOk, Except.toBool]
  | ok loaded =>
    obtain ⟨found, hfound⟩ := exists_report configuration hload
    simp [hfound, Except.isOk, Except.toBool]

/-- If a model is refused for a fault of its own only, there is a report or the fault. -/
theorem report_or_fault (configuration : Configuration)
    (h : ∀ e, Model.load w path = .error e → ∃ place fault, e = .model place fault) :
    (∃ r, Auditor.report ⟨configuration, .standard⟩ w path = .ok r) ∨
      ∃ place fault, Auditor.report ⟨configuration, .standard⟩ w path =
        .error (.load (.model place fault)) := by
  cases hload : Model.load w path with
  | error e =>
    obtain ⟨place, fault, rfl⟩ := h e hload
    exact Or.inr ⟨place, fault, report_of_load_error hload _⟩
  | ok loaded =>
    obtain ⟨found, hfound⟩ := exists_report configuration hload
    exact Or.inl ⟨_, hfound⟩

end Auditor

/-- What goes wrong with a report can be told: its source is a path, and the places of its edits can
be put in words. -/
structure Report.Tellable (r : Report) : Prop where
  path : ∀ path, r.source = some path → hasNull path = false
  places : ∀ e ∈ r.edits, exceedsDigits e.span.offset = false ∧ exceedsDigits e.span.length = false

namespace CommandLine

/-- **The first loop**: if every model gives a report or cannot be loaded, the reports are those of
the models in order, and the others are counted. -/
theorem auditAll_eq {a : Auditor} {w : Workspace} {files : List String}
    (h : ∀ file ∈ files, (∃ r, a.report w file = .ok r) ∨
      ∃ place fault, a.report w file = .error (.load (.model place fault))) :
    (auditAll a w files).2 = .ok ⟨files.filterMap fun file => (a.report w file).toOption,
      files.countP fun file => !(a.report w file).isOk⟩ := by
  induction files with
  | nil => rfl
  | cons file rest ih =>
    have ih := ih fun other hother => h other (List.mem_cons_of_mem _ hother)
    rw [auditAll]
    rcases h file (List.mem_cons_self ..) with ⟨r, hr⟩ | ⟨place, fault, hr⟩
    · simp [hr, ih, Except.map, Except.toOption, Except.isOk, Except.toBool]
    · simp [hr, ih, Except.map, Except.toOption, Except.isOk, Except.toBool]

/-! ## Section 2: One report -/

/-- How a report is dealt with: whether this succeeds, and the files afterwards. -/
inductive Treated (dryRun : Bool) (w : Workspace) (r : Report) : Bool → Workspace → Prop
  /-- There is no fix, or no source to apply one to. -/
  | idle (h : r.fixes = [] ∨ r.source = none) : Treated dryRun w r true w
  /-- The source cannot be read. -/
  | unread {path : String} {error : AccessError} (hfixes : r.fixes ≠ [])
      (hsource : r.source = some path) (hread : w.readText path = .error error) :
      Treated dryRun w r false w
  /-- The edits cannot be applied to the source. -/
  | unfit {path text : String} {fault : EditError} (hfixes : r.fixes ≠ [])
      (hsource : r.source = some path) (hread : w.readText path = .ok text)
      (happly : Edit.apply text r.edits = .error fault) : Treated dryRun w r false w
  /-- The system does not let the new text be written. -/
  | unwritten {path text new : String} {error : AccessError} (hdry : dryRun = false)
      (hfixes : r.fixes ≠ []) (hsource : r.source = some path) (hread : w.readText path = .ok text)
      (happly : Edit.apply text r.edits = .ok new) (hwrite : w.writeText path new = .error error) :
      Treated dryRun w r false w
  /-- The edits could be applied, but this is a trial. -/
  | planned {path text new : String} (hdry : dryRun = true) (hfixes : r.fixes ≠ [])
      (hsource : r.source = some path) (hread : w.readText path = .ok text)
      (happly : Edit.apply text r.edits = .ok new) : Treated dryRun w r true w
  /-- The file the path leads to gets the text it holds with the edits applied; the system lets it
  be written. -/
  | rewritten {path text new : String} {p : Place} {bytes : List UInt8} (hdry : dryRun = false)
      (hfixes : r.fixes ≠ []) (hsource : r.source = some path) (hread : w.readText path = .ok text)
      (happly : Edit.apply text r.edits = .ok new) (hplace : w.locate path = .ok p)
      (hfile : w.at? p = some (.file bytes))
      (hlet : w.unwritable p (Text.Utf8.encode new.toList) = none) :
      Treated dryRun w r true (w.store p (.file (Text.Utf8.encode new.toList)))

/-- The fixes of a report that count if it is dealt with. -/
def countedFixes (r : Report) : Nat :=
  if r.source.isSome then r.diagnostics.countP Diagnostic.fixable else 0

theorem length_fixes (r : Report) : r.fixes.length = r.diagnostics.countP Diagnostic.fixable := by
  rw [Report.fixes, List.length_filterMap_eq_countP]
  rfl

/-- Of the faults of files only a path that is none stops a run. -/
theorem stops_access {error : AccessError} (h : error ≠ .nullByte) :
    (RepairError.access error).stops = false := by
  cases error with
  | file _ _ => rfl
  | decoding _ => rfl
  | nullByte => exact absurd rfl h

/-- A fault of edits whose places can be put in words does not stop a run. -/
theorem stops_edit {r : Report} (h : r.Tellable) {text : String} {fault : EditError}
    (happly : Edit.apply text r.edits = .error fault) : (RepairError.edit fault).stops = false := by
  by_contra hstops
  obtain ⟨e, he, hlong⟩ := Edit.exists_long_of_exceeds (Edit.apply_eq_error_iff.mp happly)
    (by simpa [RepairError.stops] using hstops)
  obtain ⟨hoffset, hlength⟩ := h.places e he
  simp [hoffset, hlength] at hlong

/-- **One report**: either it is dealt with and its fixes count, or it fails, the files are as they
were, and the run goes on unless the fault cannot be told. -/
theorem treated_run (w : Workspace) (r : Report) (dryRun : Bool) :
    (∃ done, Repair.run w r dryRun = .ok done ∧ Treated dryRun w r true done.workspace ∧
      done.outcome.applied = countedFixes r) ∨
    ∃ error, Repair.run w r dryRun = .error error ∧ Treated dryRun w r false w ∧
      (r.Tellable → error.stops = false) := by
  by_cases hfixes : r.fixes = []
  · refine Or.inl ⟨_, Repair.run_of_unfixed w hfixes dryRun, .idle (Or.inl hfixes), ?_⟩
    rw [countedFixes, ← length_fixes, hfixes]
    simp
  cases hsource : r.source with
  | none =>
    refine Or.inl ⟨_, Repair.run_of_sourceless w hfixes hsource dryRun, .idle (Or.inr hsource), ?_⟩
    simp [countedFixes, hsource]
  | some path =>
    cases hread : w.readText path with
    | error error =>
      refine Or.inr ⟨.access error, Repair.run_of_unread hfixes hsource hread dryRun,
        .unread hfixes hsource hread, fun htell => stops_access ?_⟩
      rintro rfl
      simpa [htell.path path hsource] using Workspace.hasNull_of_readText hread
    | ok text =>
      cases happly : Edit.apply text r.edits with
      | error fault =>
        exact Or.inr ⟨.edit fault, Repair.run_eq_error hfixes hsource hread happly dryRun,
          .unfit hfixes hsource hread happly, fun htell => stops_edit htell happly⟩
      | ok new =>
        have hcount : r.fixes.length = countedFixes r := by
          rw [countedFixes, hsource, length_fixes]
          rfl
        cases dryRun with
        | true =>
          exact Or.inl ⟨_, Repair.run_of_planned hfixes hsource hread happly,
            .planned rfl hfixes hsource hread happly, hcount⟩
        | false =>
          cases hwrite : w.writeText path new with
          | error error =>
            have hrun := Repair.run_of_unwritten hfixes hsource hread happly hwrite
            refine Or.inr ⟨_, hrun, .unwritten rfl hfixes hsource hread happly hwrite,
              fun _ => stops_access ?_⟩
            -- the path was read before, so only the system can have refused the text
            obtain ⟨p, e, -, -, rfl⟩ := (Workspace.writeText_eq_error_iff hread).mp hwrite
            nofun
          | ok after =>
            have hrun := Repair.run_of_written hfixes hsource hread happly hwrite
            obtain ⟨p, bytes, hplace, hfile, hlet, rfl⟩ :=
              (Workspace.writeText_eq_ok_iff hread).mp hwrite
            exact Or.inl ⟨_, hrun, .rewritten rfl hfixes hsource hread happly hplace hfile hlet,
              hcount⟩

/-- Being dealt with is what a repair comes to. -/
theorem Treated.run {dryRun success : Bool} {w after : Workspace} {r : Report}
    (h : Treated dryRun w r success after) :
    (success = true ∧ ∃ done, Repair.run w r dryRun = .ok done ∧ done.workspace = after) ∨
      success = false ∧ ∃ error, Repair.run w r dryRun = .error error := by
  cases h with
  | idle h =>
    refine Or.inl ⟨rfl, ?_⟩
    by_cases hfixes : r.fixes = []
    · exact ⟨_, Repair.run_of_unfixed w hfixes dryRun, rfl⟩
    · exact ⟨_, Repair.run_of_sourceless w hfixes (h.resolve_left hfixes) dryRun, rfl⟩
  | unread hfixes hsource hread =>
    exact Or.inr ⟨rfl, _, Repair.run_of_unread hfixes hsource hread dryRun⟩
  | unfit hfixes hsource hread happly =>
    exact Or.inr ⟨rfl, _, Repair.run_eq_error hfixes hsource hread happly dryRun⟩
  | unwritten hdry hfixes hsource hread happly hwrite =>
    rw [hdry]
    exact Or.inr ⟨rfl, _, Repair.run_of_unwritten hfixes hsource hread happly hwrite⟩
  | planned hdry hfixes hsource hread happly =>
    rw [hdry]
    exact Or.inl ⟨rfl, _, Repair.run_of_planned hfixes hsource hread happly, rfl⟩
  | rewritten hdry hfixes hsource hread happly hplace hfile hlet =>
    have hwrite := (Workspace.writeText_eq_ok_iff hread).mpr ⟨_, _, hplace, hfile, hlet, rfl⟩
    rw [hdry]
    exact Or.inl ⟨rfl, _, Repair.run_of_written hfixes hsource hread happly hwrite, rfl⟩

/-- Dealing with a report changes no way, and nothing but the file it rewrites. -/
theorem Treated.frame {dryRun success : Bool} {w after : Workspace} {r : Report}
    (h : Treated dryRun w r success after) :
    after.locate = w.locate ∧ ∀ q, after.at? q ≠ w.at? q →
      dryRun = false ∧ success = true ∧ r.fixes ≠ [] ∧
        ∃ path, r.source = some path ∧ w.locate path = .ok q := by
  cases h with
  | idle | unread | unfit | unwritten | planned => exact ⟨rfl, fun q hq => absurd rfl hq⟩
  | rewritten hdry hfixes hsource hread happly hplace hfile hlet =>
    refine ⟨funext fun path => Workspace.locate_store hfile path, fun q hq => ?_⟩
    rw [Workspace.at?_store (Workspace.ne_nil_of_file hfile)] at hq
    split at hq
    · next hqp => exact ⟨hdry, rfl, hfixes, _, hsource, hqp ▸ hplace⟩
    · exact absurd rfl hq

/-- **A report that fails changes no file.** -/
theorem Treated.eq_of_failure {dryRun : Bool} {w after : Workspace} {r : Report}
    (h : Treated dryRun w r false after) : after = w := by
  cases h with
  | unread | unfit | unwritten => rfl

theorem Treated.eq_of_dry {success : Bool} {w after : Workspace} {r : Report}
    (h : Treated true w r success after) : after = w := by
  cases h with
  | idle | unread | unfit | unwritten | planned => rfl
  | rewritten hdry => cases hdry

/-! ## Section 3: All reports -/

/-- Reports are dealt with one after the other, each on the files the ones before it left. -/
inductive TreatedAll (dryRun : Bool) : Workspace → List (Report × Bool) → Workspace → Prop
  | nil {w : Workspace} : TreatedAll dryRun w [] w
  | cons {w middle after : Workspace} {r : Report} {success : Bool} {rest : List (Report × Bool)}
      (hfirst : Treated dryRun w r success middle) (hrest : TreatedAll dryRun middle rest after) :
      TreatedAll dryRun w ((r, success) :: rest) after

/-- **Nothing else changes**: a place with another content is that of the source of a report with
fixes that was dealt with, and this was no trial. -/
theorem TreatedAll.frame {dryRun : Bool} {w after : Workspace} {treated : List (Report × Bool)}
    (h : TreatedAll dryRun w treated after) :
    ∀ q, after.at? q ≠ w.at? q → dryRun = false ∧ ∃ r, (r, true) ∈ treated ∧ r.fixes ≠ [] ∧
      ∃ path, r.source = some path ∧ w.locate path = .ok q := by
  induction h with
  | nil => exact fun q hq => absurd rfl hq
  | @cons w middle after r success rest hfirst _ ih =>
    intro q hq
    obtain ⟨hlocate, hchanged⟩ := hfirst.frame
    -- Either the first report changed the place or one behind it did, and then the way of its path
    -- is still the one from the start.
    by_cases hmiddle : after.at? q = middle.at? q
    · obtain ⟨hdry, rfl, hfixes, hsource⟩ := hchanged q (hmiddle ▸ hq)
      exact ⟨hdry, r, List.mem_cons_self .., hfixes, hsource⟩
    · obtain ⟨hdry, r', hr', hfixes, hsource⟩ := ih q hmiddle
      rw [hlocate] at hsource
      exact ⟨hdry, r', List.mem_cons_of_mem _ hr', hfixes, hsource⟩

theorem TreatedAll.eq_of_dry {w after : Workspace} {treated : List (Report × Bool)}
    (h : TreatedAll true w treated after) : after = w := by
  induction h with
  | nil => rfl
  | cons hfirst _ ih => exact ih.trans hfirst.eq_of_dry

/-- The fixes of the reports that were dealt with and name a source. -/
def countedAll (treated : List (Report × Bool)) : Nat :=
  ((treated.filter (·.2)).map fun t => countedFixes t.1).sum

/-- **The second loop**: if the faults can be told, every report has its turn.  The fixes of those
that are dealt with add up, and so do the failures. -/
theorem treatedAll_repairAll (dryRun : Bool) {reports : List Report}
    (h : ∀ r ∈ reports, r.Tellable) (total : Repairs) (hgoing : total.stopped = none) :
    ∃ treated, treated.map (·.1) = reports ∧
      TreatedAll dryRun total.workspace treated (repairAll dryRun reports total).workspace ∧
      (repairAll dryRun reports total).stopped = none ∧
      (repairAll dryRun reports total).applied = total.applied + countedAll treated ∧
      (repairAll dryRun reports total).failures = total.failures + treated.countP (!·.2) := by
  -- The totals so far are general: what a report leaves of them is where the next one starts.
  induction reports generalizing total with
  | nil => exact ⟨[], rfl, .nil, hgoing, rfl, rfl⟩
  | cons r rest ih =>
    have hrest : ∀ r ∈ rest, r.Tellable := fun r hr => h r (List.mem_cons_of_mem _ hr)
    rw [repairAll]
    rcases treated_run total.workspace r dryRun with
      ⟨done, hrun, htreated, hcount⟩ | ⟨error, hrun, htreated, hgoes⟩
    · simp only [hrun]
      obtain ⟨treated, hreports, hchain, hstopped, happlied, hfailures⟩ := ih hrest
        { total with
          events := total.events ++ repairEvents r done dryRun
          workspace := done.workspace
          applied := total.applied + done.outcome.applied } hgoing
      refine ⟨(r, true) :: treated, by simp [hreports], .cons htreated hchain, hstopped, ?_, ?_⟩
      · rw [happlied, hcount]
        simp [countedAll, Nat.add_assoc]
      · simpa using hfailures
    · simp only [hrun, hgoes (h r (List.mem_cons_self ..)), Bool.false_eq_true, if_false]
      obtain ⟨treated, hreports, hchain, hstopped, happlied, hfailures⟩ := ih hrest
        { total with
          events := total.events ++ [Event.error (r.subject ++ ": " ++ error.message)]
          failures := total.failures + 1 } hgoing
      refine ⟨(r, false) :: treated, by simp [hreports], .cons htreated hchain, hstopped, ?_, ?_⟩
      · simpa [countedAll] using happlied
      · rw [hfailures]
        simp [Nat.add_assoc, Nat.add_comm]

/-- A fault that cannot be told ends the loop, whatever is behind it. -/
theorem repairAll_of_stops {dryRun : Bool} {r : Report} (rest : List Report) (total : Repairs)
    {error : RepairError} (hrun : Repair.run total.workspace r dryRun = .error error)
    (hstops : error.stops = true) :
    repairAll dryRun (r :: rest) total = { total with stopped := some error } := by
  rw [repairAll, hrun]
  exact if_pos hstops

/-- The course of a run whose models were audited and whose repairs were not stopped. -/
theorem fix_eq {e : Environment} {paths files : List String} {dryRun : Bool} {audited : Audited}
    {done : Repairs} (hfiles : (collectModels e.workspace [] (workPaths paths)).2 = .ok files)
    (haudited : (auditAll e.auditor e.workspace files).2 = .ok audited)
    (hdone : repairAll dryRun audited.reports
      { workspace := e.workspace, failures := audited.failures } = done)
    (hgoing : done.stopped = none) :
    ∃ earlier, fix e paths dryRun =
      ⟨earlier ++ Event.step (toString done.applied
          ++ (if dryRun then " fix(es) planned." else " fix(es) applied.")),
        done.workspace, .exit (if 0 < done.failures then 2 else 0)⟩ := by
  have hat : (auditAt e paths).2 = .ok audited := by
    simp only [auditAt, hfiles, haudited]
  refine ⟨Event.greeting :: (auditAt e paths).1 ++ done.events, ?_⟩
  simp only [fix, hat, hdone, hgoing]

/-- **Both loops**: a run deals with the reports of the models in order, and tells their fixes and
whether there were failures. -/
theorem treatedAll_fix {e : Environment} {paths files : List String} (dryRun : Bool)
    (hfiles : (collectModels e.workspace [] (workPaths paths)).2 = .ok files)
    (haudit : ∀ file ∈ files, (∃ r, e.auditor.report e.workspace file = .ok r ∧ r.Tellable) ∨
      ∃ place fault, e.auditor.report e.workspace file = .error (.load (.model place fault))) :
    ∃ treated earlier after failures, treated.map (·.1) =
        files.filterMap (fun file => (e.auditor.report e.workspace file).toOption) ∧
      TreatedAll dryRun e.workspace treated after ∧
      failures = files.countP (fun file => !(e.auditor.report e.workspace file).isOk) +
        treated.countP (!·.2) ∧
      fix e paths dryRun =
        ⟨earlier ++ Event.step (toString (countedAll treated)
            ++ (if dryRun then " fix(es) planned." else " fix(es) applied.")), after,
          .exit (if 0 < failures then 2 else 0)⟩ := by
  have haudited := auditAll_eq (a := e.auditor) (w := e.workspace) fun file hfile =>
    (haudit file hfile).imp_left fun ⟨r, hr, _⟩ => ⟨r, hr⟩
  have htell : ∀ r ∈ files.filterMap (fun file => (e.auditor.report e.workspace file).toOption),
      r.Tellable := by
    intro r hr
    obtain ⟨file, hfile, hreport⟩ := List.mem_filterMap.mp hr
    rcases haudit file hfile with ⟨r', hr', htell⟩ | ⟨place, fault, hfault⟩
    · rw [hr'] at hreport
      exact Option.some.inj hreport ▸ htell
    · rw [hfault] at hreport
      cases hreport
  obtain ⟨treated, hreports, hchain, hgoing, happlied, hfailures⟩ :=
    treatedAll_repairAll dryRun htell
      ⟨[], e.workspace, 0, files.countP fun file => !(e.auditor.report e.workspace file).isOk, none⟩
      rfl
  obtain ⟨earlier, hcourse⟩ := fix_eq hfiles haudited rfl hgoing
  refine ⟨treated, earlier, _, _, hreports, hchain, hfailures, ?_⟩
  rw [hcourse, happlied, Nat.zero_add]

end CommandLine

open CommandLine in
/-- **Atomic for each document, and each document for itself**: let a run that fixes sources come
upon some models, with any configuration and the registry that the program comes with.  The system
may refuse to read and to write what it likes.  Suppose that what keeps a model from being loaded is
a fault of the model, that the sources are paths and that the places of all edits can be put in
words.  Then a report is made for every model that can be loaded, and every report has its turn, as
`Treated` says, on the files as the ones before it left them.  A trial changes no file; otherwise
the only places with another content are those of the sources of reports with fixes that were dealt
with.  The exit code is 2 if a model could not be loaded or a report failed, and 0 if not, and the
number told at the end is that of the fixes of the reports that were dealt with and name a
source. -/
theorem fix_treats_all {w : Workspace} {source : ConfigurationSource} {width : Nat}
    {paths files : List String} {dryRun : Bool}
    (hfiles : (collectModels w [] (workPaths paths)).2 = .ok files)
    (hload : ∀ file ∈ files, ∀ e, Model.load w file = .error e →
      ∃ place fault, e = .model place fault)
    (htell : ∀ file ∈ files, ∀ r, Auditor.report ⟨source.table, .standard⟩ w file = .ok r →
      r.Tellable) :
    ∃ treated : List (Report × Bool), ∃ course,
      fix ⟨w, source, .standard, width⟩ paths dryRun = course ∧
      treated.map (·.1) = files.filterMap (fun file =>
        (Auditor.report ⟨source.table, .standard⟩ w file).toOption) ∧
      (∀ file t path, Model.load w file = .ok (t, path) → ∃ found,
        Auditor.report ⟨source.table, .standard⟩ w file = .ok ⟨file, path, found⟩) ∧
      TreatedAll dryRun w treated course.workspace ∧
      (dryRun = true → course.workspace = w) ∧
      (∀ q, course.workspace.at? q ≠ w.at? q → ∃ r, (r, true) ∈ treated ∧
        (∃ d ∈ r.diagnostics, d.fixable = true) ∧
        ∃ path, r.source = some path ∧ w.locate path = .ok q) ∧
      (course.ending = .exit 2 ∧
          ((∃ file ∈ files, ∃ e, Model.load w file = .error e) ∨ ∃ r, (r, false) ∈ treated) ∨
        course.ending = .exit 0 ∧
          ¬ ((∃ file ∈ files, ∃ e, Model.load w file = .error e) ∨ ∃ r, (r, false) ∈ treated)) ∧
      ∃ earlier, course.events = earlier ++ Event.step (toString (countedAll treated)
        ++ (if dryRun then " fix(es) planned." else " fix(es) applied.")) := by
  have haudit : ∀ file ∈ files,
      (∃ r, Auditor.report ⟨source.table, .standard⟩ w file = .ok r ∧ r.Tellable) ∨
      ∃ place fault, Auditor.report ⟨source.table, .standard⟩ w file =
        .error (.load (.model place fault)) := fun file hfile =>
    (Auditor.report_or_fault source.table (hload file hfile)).imp_left fun ⟨r, hr⟩ =>
      ⟨r, hr, htell file hfile r hr⟩
  obtain ⟨treated, earlier, after, failures, hreports, hchain, hfailures, hcourse⟩ :=
    treatedAll_fix (e := ⟨w, source, .standard, width⟩) dryRun hfiles haudit
  refine ⟨treated, _, hcourse, hreports, fun file t path => Auditor.exists_report _, hchain, ?_, ?_,
    ?_, earlier, rfl⟩
  · rintro rfl
    exact hchain.eq_of_dry
  · intro q hq
    obtain ⟨-, r, hr, hfixes, hsource⟩ := hchain.frame q hq
    exact ⟨r, hr, Report.fixes_ne_nil_iff.mp hfixes, hsource⟩
  · have hfailed : 0 < failures ↔
        (∃ file ∈ files, ∃ e, Model.load w file = .error e) ∨ ∃ r, (r, false) ∈ treated := by
      rw [hfailures, Nat.add_pos_iff_pos_or_pos, List.countP_pos_iff, List.countP_pos_iff]
      simp only [Bool.not_eq_true', Environment.auditor, Auditor.isOk_report_eq_false_iff,
        Prod.exists, exists_eq_right]
    rw [← hfailed]
    by_cases h : 0 < failures <;> simp [h]

/-- The file of a model of a source with a timer that reads from itself. -/
def Stored.timerModel (source : String) : Stored :=
  .file (Text.Utf8.encode ("\x7b\"source\":\"".toList ++ source.toList ++
    "\",\"root\":\x7b\"type\":\"I\",\"span\":[0,8],\"children\":[".toList ++
    "\x7b\"type\":\"Q\",\"id\":\"t\",\"span\":[2,5],\"bindings\":[".toList ++
    "\x7b\"property\":\"x\",\"expression\":\"t.a\",\"span\":[4,3]\x7d]\x7d]\x7d\x7d".toList))

/-- A model that is no text, a model of a source that there is no permission to write, and a model
of a source that can be written. -/
def Workspace.threeModels : Workspace where
  base := "/w"
  stored := [(["A.json"], .file [0xff]),
    (["B.qml"], .file (Text.Utf8.encode "I(Q t.a)".toList)), (["B.json"], .timerModel "B.qml"),
    (["C.qml"], .file (Text.Utf8.encode "I(Q t.a)".toList)), (["C.json"], .timerModel "C.qml")]
  unwritable p _ := if p = ["B.qml"] then some (.refused 13 "Permission denied") else none

/-- What is known of a report: its source, whether the places of its edits can be put in words, and
the number of its fixes that count. -/
private def telling (r : Report) : Option String × Bool × Nat :=
  (r.source, r.edits.all (fun e => !exceedsDigits e.span.offset && !exceedsDigits e.span.length),
    CommandLine.countedFixes r)

private theorem tellable_of_telling {r : Report} {path : String} {n : Nat}
    (h : telling r = (some path, true, n)) (hpath : hasNull path = false) : r.Tellable := by
  obtain ⟨hsource, h⟩ := Prod.mk.inj h
  refine ⟨fun path' hpath' => ?_, fun e he => ?_⟩
  · obtain rfl : path = path' := Option.some.inj (hsource.symm.trans hpath')
    exact hpath
  · simpa using List.all_eq_true.mp (Prod.mk.inj h).1 e he

/-- The broken model and the source that there is no permission to write cost the exit code.  The
one source is as it was, and the other, which is dealt with last, is rewritten. -/
theorem fix_threeModels_treats_all :
    ∃ r r' course, CommandLine.fix ⟨.threeModels, {}, .standard, 80⟩
        ["A.json", "B.json", "C.json"] false = course ∧
      Auditor.report ⟨[], .standard⟩ .threeModels "B.json" = .ok r ∧
      Auditor.report ⟨[], .standard⟩ .threeModels "C.json" = .ok r' ∧
      Repair.run .threeModels r false =
        .error (.access (.file (.refused 13 "Permission denied") "B.qml")) ∧
      CommandLine.TreatedAll false .threeModels [(r, false), (r', true)] course.workspace ∧
      course.workspace.readText "B.qml" = .ok "I(Q t.a)" ∧
      course.workspace.readText "C.qml" = .ok "I(Q als_t_a\n    property alias als_t_a: t.a)" ∧
      course.ending = .exit 2 ∧
      ∃ earlier, course.events = earlier ++ Event.step "1 fix(es) applied." := by
  have hfiles : (CommandLine.collectModels .threeModels []
      (CommandLine.workPaths ["A.json", "B.json", "C.json"])).2 =
        .ok ["A.json", "B.json", "C.json"] := by decide +kernel
  have hbroken : Model.load .threeModels "A.json" =
      .error (.model "A.json" ⟨.notUtf8 ⟨0, 1, 0xff, .startByte⟩, ""⟩) := by decide +kernel
  have hB : (fun r => (telling r,
        (fun done => done.outcome) <$> Repair.run .threeModels r false)) <$>
      Auditor.report ⟨[], .standard⟩ .threeModels "B.json" = .ok ((some "B.qml", true, 1),
        .error (.access (.file (.refused 13 "Permission denied") "B.qml"))) := by decide +kernel
  have hC : telling <$> Auditor.report ⟨[], .standard⟩ .threeModels "C.json" =
      .ok (some "C.qml", true, 1) := by decide +kernel
  obtain ⟨hreadB, hreadC, hending⟩ : (CommandLine.fix ⟨.threeModels, {}, .standard, 80⟩
        ["A.json", "B.json", "C.json"] false).workspace.readText "B.qml" = .ok "I(Q t.a)" ∧
      (CommandLine.fix ⟨.threeModels, {}, .standard, 80⟩
        ["A.json", "B.json", "C.json"] false).workspace.readText "C.qml" =
          .ok "I(Q als_t_a\n    property alias als_t_a: t.a)" ∧
      (CommandLine.fix ⟨.threeModels, {}, .standard, 80⟩
        ["A.json", "B.json", "C.json"] false).ending = .exit 2 := by decide +kernel
  obtain ⟨r, hr, hview⟩ := Outcome.map_eq_ok_iff.mp hB
  obtain ⟨hview, hrefused⟩ := Prod.mk.inj hview
  have hrefused := Outcome.map_eq_error_iff.mp hrefused
  obtain ⟨r', hr', hview'⟩ := Outcome.map_eq_ok_iff.mp hC
  have hload : ∀ file ∈ ["A.json", "B.json", "C.json"], ∀ e,
      Model.load .threeModels file = .error e → ∃ place fault, e = .model place fault := by
    intro file hfile e he
    rcases List.mem_cons.mp hfile with rfl | hfile
    · exact ⟨_, _, Except.error.inj (he.symm.trans hbroken)⟩
    rcases List.mem_pair.mp hfile with rfl | rfl
    · cases (Auditor.report_of_load_error he _).symm.trans hr
    · cases (Auditor.report_of_load_error he _).symm.trans hr'
  have htell : ∀ file ∈ ["A.json", "B.json", "C.json"], ∀ r,
      Auditor.report ⟨[], .standard⟩ .threeModels file = .ok r → r.Tellable := by
    intro file hfile found hfound
    rcases List.mem_cons.mp hfile with rfl | hfile
    · cases (Auditor.report_of_load_error hbroken _).symm.trans hfound
    rcases List.mem_pair.mp hfile with rfl | rfl
    · obtain rfl : r = found := Except.ok.inj (hr.symm.trans hfound)
      exact tellable_of_telling hview (by decide +kernel)
    · obtain rfl : r' = found := Except.ok.inj (hr'.symm.trans hfound)
      exact tellable_of_telling hview' (by decide +kernel)
  obtain ⟨treated, course, hfix, hreports, -, hchain, -, -, -, earlier, hevents⟩ :=
    @fix_treats_all _ {} 80 _ _ false hfiles hload htell
  rw [hfix] at hreadB hreadC hending
  obtain ⟨success, success', rfl⟩ :
      ∃ success success', treated = [(r, success), (r', success')] := by
    rw [List.filterMap_cons_none (by rw [Auditor.report_of_load_error hbroken]; rfl),
      List.filterMap_cons_some (by rw [hr]; rfl), List.filterMap_cons_some (by rw [hr']; rfl),
      List.filterMap_nil] at hreports
    obtain ⟨⟨_, success⟩, rest, rfl, rfl, hrest⟩ := List.map_eq_cons_iff.mp hreports
    obtain ⟨⟨_, success'⟩, rfl, rfl⟩ := List.map_eq_singleton_iff.mp hrest
    exact ⟨success, success', rfl⟩
  obtain ⟨rfl, rfl⟩ : success = false ∧ success' = true := by
    generalize course.workspace = after at hchain hreadC
    cases hchain with
    | cons hfirst hrest =>
      rcases hfirst.run with ⟨-, done, hrun, -⟩ | ⟨rfl, -⟩
      · cases hrun.symm.trans hrefused
      cases hrest with
      | cons hsecond hrest =>
        cases hrest
        cases success' with
        | true => exact ⟨rfl, rfl⟩
        | false =>
          -- another failure would have left the second source as it was
          rw [hsecond.eq_of_failure, hfirst.eq_of_failure] at hreadC
          exact absurd hreadC (by decide +kernel)
  have htold : CommandLine.countedAll [(r, false), (r', true)] = 1 := by
    simp [CommandLine.countedAll, (Prod.mk.inj (Prod.mk.inj hview').2).2]
  rw [htold] at hevents
  exact ⟨r, r', course, hfix, hr, hr', hrefused, hchain, hreadB, hreadC, hending, earlier, hevents⟩

/-- A source for a model whose root is far outside of it, and a source with three reads. -/
def Workspace.farAndNear : Workspace where
  base := "/w"
  stored := [(["A.qml"], .file (Text.Utf8.encode "t.a".toList)),
    (["B.qml"], .file (Text.Utf8.encode "I(Q()J(x:t.a,y:t.b,z:t.a))".toList))]

/-- Where a fault cannot be told, the report behind it has no turn: alone it would have been dealt
with, but now the run stops and its source stays as it is. -/
theorem repairAll_farRoot_stops :
    ∃ far near, Audit.findings [.standard] .farRoot = .ok far ∧
      Audit.findings [.standard] .threeReads = .ok near ∧
      (∃ done, Repair.run .farAndNear ⟨"B.json", some "B.qml", near⟩ false = .ok done ∧
        done.outcome.applied = 3) ∧
      ∃ done fault, CommandLine.repairAll false [⟨"A.json", some "A.qml", far⟩,
          ⟨"B.json", some "B.qml", near⟩] { workspace := .farAndNear } = done ∧
        done.stopped = some (.edit fault) ∧ done.workspace = .farAndNear ∧ done.failures = 0 := by
  have hnear : (fun near => (fun done => done.outcome.applied) <$>
      Repair.run .farAndNear ⟨"B.json", some "B.qml", near⟩ false) <$>
        Audit.findings [.standard] .threeReads = .ok (.ok 3) := by decide +kernel
  have hfar : (fun far => (fun done => done.outcome) <$>
      Repair.run .farAndNear ⟨"A.json", some "A.qml", far⟩ false) <$>
        Audit.findings [.standard] .farRoot =
          .ok (.error (.edit (.outside (Nat.pow 2 14288) 0 3))) := by decide +kernel
  obtain ⟨near, hnear, hdone⟩ := Outcome.map_eq_ok_iff.mp hnear
  obtain ⟨far, hfar, hfailed⟩ := Outcome.map_eq_ok_iff.mp hfar
  obtain ⟨fault, hrun, hstops⟩ : ∃ fault,
      Repair.run .farAndNear ⟨"A.json", some "A.qml", far⟩ false = .error (.edit fault) ∧
        (RepairError.edit fault).stops = true :=
    ⟨_, Outcome.map_eq_error_iff.mp hfailed, by decide +kernel⟩
  refine ⟨far, near, hfar, hnear, Outcome.map_eq_ok_iff.mp hdone, _, fault, rfl, ?_⟩
  rw [CommandLine.repairAll_of_stops _ { workspace := .farAndNear } hrun hstops]
  exact ⟨rfl, rfl, rfl⟩

end BindingAudit
