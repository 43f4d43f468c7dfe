import BindingAudit.Console.Basic
import BindingAudit.Diagnostic
import BindingAudit.Edit.Apply
import BindingAudit.Workspace.Basic

/-!
# Repairs

Applying the fixes of a report to the source it is about.  A trial run computes the new text and
writes nothing.
-/

namespace BindingAudit

/-- Why the fixes of a report cannot be applied. -/
inductive RepairError where
  | access (error : AccessError)
  | edit (error : EditError)
deriving DecidableEq, Repr

/-- The wording of a repair error. -/
def RepairError.message : RepairError → String
  | .access error => error.message
  | .edit error => if error.exceeds then DigitError.showing.message else error.message

/-- Whether an error stops a run that goes on after others: a path that is none, or a place that
cannot be told. -/
def RepairError.stops : RepairError → Bool
  | .access .nullByte => true
  | .access _ => false
  | .edit error => error.exceeds

/-- What became of a report's fixes. -/
structure Outcome where
  source : Option String
  /-- The number of fixes applied. -/
  applied : Nat
  /-- The number of findings left to fix by hand. -/
  skipped : Nat
  /-- The new text of the source, if fixes were applied. -/
  newText : Option String := none
deriving DecidableEq, Repr

/-- Whether anything was fixed. -/
def Outcome.modified (o : Outcome) : Bool :=
  0 < o.applied

/-- A repair that went through: its outcome, the files after it, and the status lines it gave. -/
structure Repair where
  outcome : Outcome
  workspace : Workspace
  notices : List Notice := []

namespace Repair

/-- The new text of a source under the fixes of a report. -/
def newText (w : Workspace) (r : Report) (source : String) : Except RepairError String :=
  match w.readText source with
  | .error e => .error (.access e)
  | .ok text =>
    match Edit.apply text r.edits with
    | .error e => .error (.edit e)
    | .ok new => .ok new

/-- The status line of applied fixes. -/
def notice (trial : Bool) (count : Nat) (source : String) : Notice :=
  ⟨.step, (if trial then "Would apply " else "Applied ") ++ toString count ++ " fix(es) to "
    ++ source⟩

/-- The files after a source got a new text; a trial changes none. -/
def store (w : Workspace) (trial : Bool) (source text : String) : Except RepairError Workspace :=
  if trial then .ok w
  else
    match w.writeText source text with
    | .error e => .error (.access e)
    | .ok w => .ok w

/-- Apply the fixes of a report to its source. -/
def run (w : Workspace) (r : Report) (trial : Bool) : Except RepairError Repair :=
  let count := r.fixes.length
  let unfixed := r.diagnostics.length - count
  if r.fixes.isEmpty then .ok ⟨⟨r.source, 0, unfixed, none⟩, w, []⟩
  else
    match r.source with
    | none =>
      .ok ⟨⟨none, 0, r.diagnostics.length, none⟩, w,
        [⟨.warning, r.model ++ ": model names no QML source; fixes not applied."⟩]⟩
    | some source => do
      let text ← newText w r source
      let w ← store w trial source text
      return ⟨⟨some source, count, unfixed, some text⟩, w, [notice trial count source]⟩

end Repair

end BindingAudit
