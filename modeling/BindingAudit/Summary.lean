import BindingAudit.Console.Table
import BindingAudit.Diagnostic
import BindingAudit.Json.Printer
import BindingAudit.Position

/-!
# Summaries of reports

What is printed of the reports of a run: a table with one row for each finding, for readers, or a
JSON document, for programs.  The table and the lines around it go to a printer.
-/

namespace BindingAudit

/-- How reports are printed. -/
inductive Format where
  | table
  | json
deriving DecidableEq, Repr

/-- The format of a name. -/
def Format.ofName? (name : String) : Option Format :=
  if name = "table" then some .table
  else if name = "json" then some .json
  else none

/-- Why a summary cannot be printed. -/
inductive SummaryError where
  | markup (error : Markup.Error)
  /-- A message of the named kind is no text. -/
  | notText (kind : String)
  | position (error : PositionError)
  | json (error : Json.PrintError)
deriving DecidableEq, Repr

/-- The wording of a summary error. -/
def SummaryError.message : SummaryError → String
  | .markup error => error.message
  | .notText kind =>
    "unable to render " ++ kind ++ "; a string or other renderable object is required"
  | .position error => error.message
  | .json error => error.message

namespace Summary

/-- The number of findings. -/
def total (reports : List Report) : Nat :=
  (reports.map fun r => r.diagnostics.length).foldr (· + ·) 0

/-- The findings, each with its report. -/
def findings (reports : List Report) : List (Report × Diagnostic) :=
  reports.flatMap fun r => r.diagnostics.map fun d => (r, d)

/-! ## The table -/

/-- What a finding's message cell holds: the hint of its fix, else its message. -/
def messageCell (d : Diagnostic) : Except SummaryError String :=
  match d.fix with
  | some f => .ok f.hint
  | none =>
    match d.message with
    | .scalar (.text s) => .ok s
    | .scalar .null => .ok ""
    | other => .error (.notText other.shortKind)

/-- What a finding's fix cell holds. -/
def fixCell (d : Diagnostic) : String :=
  if d.fixable then "✅ Auto" else "⚠️ Manual"

/-- What a printer gives. -/
def printed {α : Type} : Except Markup.Error α → Except SummaryError α
  | .ok a => .ok a
  | .error e => .error (.markup e)

/-- The cells of a finding. -/
structure Row where
  file : String
  position : String
  rule : String
  fix : String
  message : String

/-- The cells of a finding of a report. -/
def rowOf (p : Printer) (w : Workspace) (r : Report) (d : Diagnostic) : Except SummaryError Row :=
  match w.placeIn r.source d.location.offset with
  | .error e => .error (.position e)
  | .ok position => do
    return ⟨p.escape r.subject, position, d.tag.shown, fixCell d, ← messageCell d⟩

/-- The table of the findings of reports. -/
def tableOf (p : Printer) (w : Workspace) (reports : List Report) : Except SummaryError Table := do
  let rows ← (findings reports).mapM fun f => rowOf p w f.1 f.2
  let columns := [
    ("File", rows.map Row.file), ("Position", rows.map Row.position),
    ("Rule ID", rows.map Row.rule), ("Fix?", rows.map Row.fix),
    ("Message", rows.map Row.message)]
  printed (p.tableOf "[QML-ALIAS] C++ Object Binding Audit" columns)

/-- The line that tells that there are no findings. -/
def noFindings (reports : List Report) : String :=
  "\n✅ No C++ object bindings detected in " ++ toString reports.length ++ " document(s)."

/-- The line under the table. -/
def footer (reports : List Report) : String :=
  "\n" ++ (toString (total reports) ++ " diagnostic(s) in " ++ toString reports.length
    ++ " document(s).")

/-- The summary for readers. -/
def readable (p : Printer) (w : Workspace) (reports : List Report) :
    Except SummaryError String := do
  if total reports = 0 then printed (p.print (noFindings reports))
  else
    let t ← tableOf p w reports
    return (← printed (p.draw t)) ++ (← printed (p.print (footer reports)))

/-! ## JSON -/

/-- The record of reports. -/
def toData (reports : List Report) : Data :=
  .record [("documents", .list (reports.map Report.toData)), ("total", .int (total reports))]

/-- The summary for programs. -/
def json (reports : List Report) : Except SummaryError String :=
  match Json.print .indented (toData reports) with
  | .ok text => .ok (text ++ "\n")
  | .error e => .error (.json e)

/-- The summary of reports in a format. -/
def render (p : Printer) (w : Workspace) (reports : List Report) :
    Format → Except SummaryError String
  | .table => readable p w reports
  | .json => json reports

end Summary

end BindingAudit
