import BindingAudit.Proofs.Edit.Substitution
import BindingAudit.Proofs.Workspace.Storing
import BindingAudit.Repair

/-!
# What a repair does

A repair of a report without fixes, or without a source, does nothing.  Any other reads the source,
applies the edits to the text and writes what comes out, and each of these steps can fail: the
source cannot be read, the edits cannot be applied, or the system refuses the new text.

All this is said of `Repair.run` here, by one lemma for each way a repair can go, and then once more
for a source that can be read (`run_of_readText`).  Nothing else needs to look into a repair.
-/

namespace BindingAudit

theorem Edit.apply_nil (text : String) : Edit.apply text [] = .ok text := by
  have hnone : Edit.applyToChars text.toList [] = .ok text.toList := rfl
  exact Edit.apply_eq_ok_iff.mpr hnone

theorem Report.fixes_ne_nil_iff {r : Report} :
    r.fixes ≠ [] ↔ ∃ d ∈ r.diagnostics, d.fixable = true := by
  rw [Report.fixes, ne_eq, List.filterMap_eq_nil_iff]
  simp [Diagnostic.fixable, Option.isSome_iff_ne_none]

namespace Repair

variable {w : Workspace} {r : Report} {path : String}

/-! ## Section 1: Reports with nothing to apply -/

/-- Where there is no fix, a repair has nothing to do. -/
theorem run_of_unfixed (w : Workspace) (hfixes : r.fixes = []) (trial : Bool) :
    run w r trial = .ok ⟨⟨r.source, 0, r.diagnostics.length, none⟩, w, []⟩ := by
  simp only [run, hfixes]
  rfl

/-- Where there is no source, a repair leaves all findings to be fixed by hand. -/
theorem run_of_sourceless (w : Workspace) (hfixes : r.fixes ≠ []) (hsource : r.source = none)
    (trial : Bool) :
    run w r trial = .ok ⟨⟨none, 0, r.diagnostics.length, none⟩, w,
      [⟨.warning, r.model ++ ": model names no QML source; fixes not applied."⟩]⟩ := by
  simp only [run, List.isEmpty_iff, hfixes, hsource]
  rfl

/-! ## Section 2: The steps of a repair -/

/-- Where there are fixes and a source, a repair computes the new text and stores it. -/
theorem run_eq (hfixes : r.fixes ≠ []) (hsource : r.source = some path) (trial : Bool) :
    run w r trial = newText w r path >>= fun new => store w trial path new >>= fun w' =>
      .ok ⟨⟨some path, r.fixes.length, r.diagnostics.length - r.fixes.length, some new⟩, w',
        [notice trial r.fixes.length path]⟩ := by
  simp only [run]
  rw [if_neg (by simpa using hfixes), hsource]
  rfl

/-- The new text of a source is what the edits make of the text that is read. -/
theorem newText_eq_ok_iff {new : String} :
    newText w r path = .ok new ↔
      ∃ text, w.readText path = .ok text ∧ Edit.apply text r.edits = .ok new := by
  unfold newText
  cases w.readText path with
  | error e => simp
  | ok text =>
    simp only [Except.ok.injEq, exists_eq_left']
    cases Edit.apply text r.edits with
    | error fault => simp
    | ok new => simp

/-- A repair of a source stores the new text, or, on trial, only tells it. -/
theorem newText_of_run {trial : Bool} {first : Repair} (hfixes : r.fixes ≠ [])
    (hsource : r.source = some path) (h : run w r trial = .ok first) :
    ∃ new, newText w r path = .ok new ∧ store w trial path new = .ok first.workspace ∧
      first.outcome.newText = some new := by
  rw [run_eq hfixes hsource] at h
  obtain ⟨new, hnew, hrest⟩ := Outcome.bind_eq_ok_iff.mp h
  obtain ⟨w', hstore, hfirst⟩ := Outcome.bind_eq_ok_iff.mp hrest
  cases hfirst
  exact ⟨new, hnew, hstore, rfl⟩

/-- A repair that is no trial reads the source, applies the edits to it and writes the outcome. -/
theorem run_eq_ok {first : Repair} (hfixes : r.fixes ≠ []) (hsource : r.source = some path)
    (h : run w r false = .ok first) :
    ∃ text new, w.readText path = .ok text ∧ Edit.apply text r.edits = .ok new ∧
      w.writeText path new = .ok first.workspace ∧ first.outcome.newText = some new := by
  obtain ⟨new, hnew, hstore, houtcome⟩ := newText_of_run hfixes hsource h
  obtain ⟨text, hread, happly⟩ := newText_eq_ok_iff.mp hnew
  unfold store at hstore
  simp only [Bool.false_eq_true, if_false] at hstore
  split at hstore
  · cases hstore
  · next hwrite =>
    cases hstore
    exact ⟨text, new, hread, happly, hwrite, houtcome⟩

/-! ## Section 3: The ways a repair can go -/

/-- A repair fails where the source cannot be read. -/
theorem run_of_unread {error : AccessError} (hfixes : r.fixes ≠ []) (hsource : r.source = some path)
    (hread : w.readText path = .error error) (trial : Bool) :
    run w r trial = .error (.access error) := by
  rw [run_eq hfixes hsource, newText, hread]
  rfl

/-- A repair fails where the edits cannot be applied to the source. -/
theorem run_eq_error {text : String} {fault : EditError} (hfixes : r.fixes ≠ [])
    (hsource : r.source = some path) (hread : w.readText path = .ok text)
    (happly : Edit.apply text r.edits = .error fault) (trial : Bool) :
    run w r trial = .error (.edit fault) := by
  rw [run_eq hfixes hsource, newText, hread]
  simp only [happly]
  rfl

section

variable {text new : String} (hfixes : r.fixes ≠ []) (hsource : r.source = some path)
  (hread : w.readText path = .ok text) (happly : Edit.apply text r.edits = .ok new)

include hfixes hsource hread happly

/-- A trial whose edits can be applied tells the new text and writes nothing. -/
theorem run_of_planned :
    run w r true = .ok ⟨⟨some path, r.fixes.length, r.diagnostics.length - r.fixes.length,
      some new⟩, w, [notice true r.fixes.length path]⟩ := by
  rw [run_eq hfixes hsource, newText_eq_ok_iff.mpr ⟨text, hread, happly⟩]
  rfl

/-- A repair fails where the new text cannot be written. -/
theorem run_of_unwritten {error : AccessError} (hwrite : w.writeText path new = .error error) :
    run w r false = .error (.access error) := by
  have hstore : store w false path new = .error (.access error) := by simp [store, hwrite]
  rw [run_eq hfixes hsource, newText_eq_ok_iff.mpr ⟨text, hread, happly⟩, Outcome.ok_bind, hstore,
    Outcome.error_bind]

/-- Where the new text can be written, a repair goes through. -/
theorem run_of_written {after : Workspace} (hwrite : w.writeText path new = .ok after) :
    run w r false = .ok ⟨⟨some path, r.fixes.length, r.diagnostics.length - r.fixes.length,
      some new⟩, after, [notice false r.fixes.length path]⟩ := by
  have hstore : store w false path new = .ok after := by simp [store, hwrite]
  rw [run_eq hfixes hsource, newText_eq_ok_iff.mpr ⟨text, hread, happly⟩, Outcome.ok_bind, hstore,
    Outcome.ok_bind]

end

/-- A repair of a source that can be read fails if the edits cannot be applied or the text with the
edits applied cannot be written; otherwise the source holds that text. -/
theorem run_of_readText {text : String} (hsource : r.source = some path)
    (hread : w.readText path = .ok text) :
    (∃ fault, Edit.apply text r.edits = .error fault ∧ run w r false = .error (.edit fault)) ∨
    ∃ new, Edit.apply text r.edits = .ok new ∧
      ((∃ error, w.writeText path new = .error error ∧ run w r false = .error (.access error)) ∨
        ∃ done, run w r false = .ok done ∧ done.workspace.readText path = .ok new) := by
  by_cases hfixes : r.fixes = []
  · -- without a fix there is no edit, and nothing is done
    have hedits : r.edits = [] := by simp [Report.edits, hfixes, Report.dropRepeated]
    exact Or.inr ⟨text, hedits ▸ Edit.apply_nil text,
      Or.inr ⟨_, run_of_unfixed w hfixes false, hread⟩⟩
  · cases happly : Edit.apply text r.edits with
    | error fault =>
      exact Or.inl ⟨fault, rfl, run_eq_error hfixes hsource hread happly false⟩
    | ok new =>
      refine Or.inr ⟨new, rfl, ?_⟩
      cases hwrite : w.writeText path new with
      | error error =>
        exact Or.inl ⟨error, rfl, run_of_unwritten hfixes hsource hread happly hwrite⟩
      | ok after =>
        exact Or.inr ⟨_, run_of_written hfixes hsource hread happly hwrite,
          Workspace.readText_of_writeText hread hwrite⟩

end Repair

end BindingAudit
