import BindingAudit.Auditor
import BindingAudit.CommandLine.Arguments
import BindingAudit.Console.Panel
import BindingAudit.Repair
import BindingAudit.Summary
import BindingAudit.Workspace.ConfigurationFile

/-!
# Runs of the program

A run takes arguments, files, a rule registry and the width of the console to what is shown, what is
noted, the files afterwards, and an exit code.

* `check` audits models and prints a summary,
* `fix` audits models and repairs the sources they describe,
* `explain` prints what the registry says about a rule.

A model that cannot be loaded, and a source that cannot be repaired, is told of and counted; any
other failure stops the run.
-/

namespace BindingAudit.CommandLine

/-- A failure that stops a run. -/
inductive RunError where
  | configuration (error : ConfigurationError)
  /-- A path among the arguments cannot be followed. -/
  | path (error : AccessError)
  | audit (error : AuditError)
  | repair (error : RepairError)
  | summary (error : SummaryError)
  | registry (error : RegistryError)
deriving DecidableEq, Repr

/-- The wording of a failure. -/
def RunError.message : RunError → String
  | .configuration error => error.message
  | .path error => error.message
  | .audit error => error.message
  | .repair error => error.message
  | .summary error => error.message
  | .registry error => error.message

/-- How a run ends. -/
inductive Ending where
  | exit (code : Nat)
  | refused (reason : Refusal)
  | stopped (error : RunError)
deriving DecidableEq, Repr

/-- What a command works with. -/
structure Environment where
  workspace : Workspace
  source : ConfigurationSource := {}
  registry : Registry := Registry.standard
  /-- The number of cells of a line of the console. -/
  width : Nat

/-- The auditor of an environment. -/
def Environment.auditor (e : Environment) : Auditor :=
  ⟨e.source.table, e.registry⟩

/-- The course of a command: its events, the files afterwards, and its end. -/
structure Course where
  events : List Event
  workspace : Workspace
  ending : Ending

/-! ## Finding and auditing models -/

/-- The model files at paths, each once, at its first place, and the warnings about paths where
there are none.  `known` holds the files found before. -/
def collectModels (w : Workspace) (known : List String) :
    List String → List Event × Except AccessError (List String)
  | [] => ([], .ok known)
  | path :: rest =>
    match w.modelFiles path with
    | .error e => ([], .error e)
    | .ok found =>
      let (events, files) := collectModels w (Configuration.addNew known found) rest
      let warnings :=
        if found.isEmpty then [Event.warning ("No element-model files found at " ++ path)] else []
      (warnings ++ events, files)

/-- The paths a command works on: those given, as they are shown, or the working directory. -/
def workPaths (paths : List String) : List String :=
  if paths.isEmpty then ["."] else paths.map fun p => (Path.ofText p).shown

/-- The reports of audited models, and the number of models that could not be loaded. -/
structure Audited where
  reports : List Report := []
  failures : Nat := 0

/-- Audit models in turn.  A model that cannot be loaded is told of and counted; any other
failure ends the audit. -/
def auditAll (a : Auditor) (w : Workspace) :
    List String → List Event × Except AuditError Audited
  | [] => ([], .ok {})
  | path :: rest =>
    match a.report w path with
    | .ok report =>
      let (events, audited) := auditAll a w rest
      (a.events w path ++ events,
        audited.map fun done => { done with reports := report :: done.reports })
    | .error (.load (.model place fault)) =>
      let (events, audited) := auditAll a w rest
      (a.events w path ++ Event.error (fault.message place) :: events,
        audited.map fun done => { done with failures := done.failures + 1 })
    | .error error => (a.events w path, .error error)

/-- Find the models at paths and audit them. -/
def auditAt (e : Environment) (paths : List String) : List Event × Except RunError Audited :=
  let (events, files) := collectModels e.workspace [] (workPaths paths)
  match files with
  | .error error => (events, .error (.path error))
  | .ok files =>
    let (more, audited) := auditAll e.auditor e.workspace files
    match audited with
    | .error error => (events ++ more, .error (.audit error))
    | .ok audited => (events ++ more, .ok audited)

/-! ## The commands -/

/-- The status line that names the configuration file. -/
def configurationEvents (source : ConfigurationSource) : List Event :=
  match source.path with
  | some path => Event.step ("Configuration: " ++ path)
  | none => []

/-- The exit code of `check`: models that failed go before findings. -/
def checkCode (audited : Audited) (exitZero : Bool) : Nat :=
  if 0 < audited.failures then 2
  else if audited.reports.any Report.hasViolations && !exitZero then 1
  else 0

/-- Audit the models at paths and print a summary. -/
def check (e : Environment) (paths : List String) (format : String) (exitZero : Bool) : Course :=
  let w := e.workspace
  match Format.ofName? format with
  | none =>
    ⟨[Event.error ("Unknown format '" ++ format ++ "'; use 'table' or 'json'.")], w, .exit 2⟩
  | some f =>
    let (events, audited) := auditAt e paths
    let events := Event.greeting :: configurationEvents e.source ++ events
    match audited with
    | .error error => ⟨events, w, .stopped error⟩
    | .ok audited =>
      match Summary.render (.console e.width) w audited.reports f with
      | .error error => ⟨events, w, .stopped (.summary error)⟩
      | .ok text => ⟨events ++ [.output text], w, .exit (checkCode audited exitZero)⟩

/-- Repairs of several reports: their events, the files afterwards, how many fixes and failures
there were, and what stopped them, if anything did. -/
structure Repairs where
  events : List Event := []
  workspace : Workspace
  applied : Nat := 0
  failures : Nat := 0
  stopped : Option RepairError := none

/-- The events of a repair that went through. -/
def repairEvents (r : Report) (done : Repair) (dryRun : Bool) : List Event :=
  done.notices.flatMap Event.ofNotice
    ++ (if 0 < done.outcome.skipped then
      [Event.warning (r.subject ++ ": " ++ toString done.outcome.skipped
        ++ " diagnostic(s) need a manual fix")]
      else [])
    ++ (match dryRun, done.outcome.source, done.outcome.newText with
      | true, some source, some text => [.output ("--- " ++ source ++ "\n" ++ text ++ "\n")]
      | _, _, _ => [])

/-- Repair the sources of reports in turn.  A source that cannot be read or no longer fits is told
of and counted. -/
def repairAll (dryRun : Bool) : List Report → Repairs → Repairs
  | [], total => total
  | r :: rest, total =>
    match Repair.run total.workspace r dryRun with
    | .ok done =>
      repairAll dryRun rest
        { total with
          events := total.events ++ repairEvents r done dryRun
          workspace := done.workspace
          applied := total.applied + done.outcome.applied }
    | .error error =>
      if error.stops then { total with stopped := some error }
      else
        repairAll dryRun rest
          { total with
            events := total.events ++ [Event.error (r.subject ++ ": " ++ error.message)]
            failures := total.failures + 1 }

/-- Audit the models at paths and repair the sources they describe. -/
def fix (e : Environment) (paths : List String) (dryRun : Bool) : Course :=
  let w := e.workspace
  let (events, audited) := auditAt e paths
  let events := Event.greeting :: events
  match audited with
  | .error error => ⟨events, w, .stopped error⟩
  | .ok audited =>
    let done := repairAll dryRun audited.reports { workspace := w, failures := audited.failures }
    let events := events ++ done.events
    match done.stopped with
    | some error => ⟨events, done.workspace, .stopped (.repair error)⟩
    | none =>
      let closing := Event.step (toString done.applied
        ++ (if dryRun then " fix(es) planned." else " fix(es) applied."))
      ⟨events ++ closing, done.workspace, .exit (if 0 < done.failures then 2 else 0)⟩

/-! ## Explanations -/

/-- Lines printed in turn, and what stopped the printing, if anything did. -/
structure Printed where
  text : String := ""
  stopped : Option RegistryError := none

/-- Print lines up to the first that cannot be made. -/
def printLines : List (Except RegistryError String) → Printed
  | [] => {}
  | .error e :: _ => ⟨"", some e⟩
  | .ok line :: rest =>
    let printed := printLines rest
    { printed with text := line ++ "\n" ++ printed.text }

/-- A value as it is printed. -/
def valueShown (d : Data) : Except RegistryError String :=
  match d.shown with
  | .ok text => .ok text
  | .error e => .error (.digits e)

/-- The value of a field as text, or a default. -/
def fieldShown (r : Registry) (fields : Fields) (key default : String) :
    Except RegistryError String :=
  match r.field? fields key with
  | some d => valueShown d
  | none => .ok default

/-- One line of the list of rules. -/
def ruleLine (r : Registry) (entry : Scalar × Fields) : Except RegistryError String := do
  let code ← valueShown (.scalar entry.1)
  let symbol ← fieldShown r entry.2 "symbol" ""
  let description ← fieldShown r entry.2 "short_description" ""
  return code ++ "  " ++ symbol ++ "  " ++ description

/-- The line that names a rule. -/
def headLine (r : Registry) (rule : String) (fields : Fields) : Except RegistryError String := do
  let name ← fieldShown r fields "display_name" rule
  let symbol ← fieldShown r fields "symbol" rule
  return name ++ " (" ++ symbol ++ ")"

/-- The line that describes a rule, if there is a description. -/
def descriptionLines (r : Registry) (fields : Fields) : List (Except RegistryError String) :=
  match r.field? fields "short_description" with
  | some d => if d.truthy then [("  " ++ ·) <$> valueShown d] else []
  | none => []

/-- The line that tells whether a rule has fixes. -/
def fixLine (r : Registry) (fields : Fields) : String :=
  let fixable := ((r.field? fields "fixable").map Data.truthy).getD false
  "  Auto-fix: " ++ if fixable then "yes" else "no"

/-- The lines with the references of a rule. -/
def referenceLines (r : Registry) (fields : Fields) : List (Except RegistryError String) :=
  match lookupText fields "references" with
  | none => []
  | some p =>
    match r.items p with
    | .error e => [.error e]
    | .ok items => items.map fun i => ("  See: " ++ ·) <$> valueShown (r.document.data i)

/-- The lines about a rule. -/
def ruleLines (r : Registry) (rule : String) (fields : Fields) :
    List (Except RegistryError String) :=
  [headLine r rule fields] ++ descriptionLines r fields ++ [.ok (fixLine r fields)]
    ++ [("  How to fix: " ++ ·) <$> r.instructions rule] ++ referenceLines r fields

/-- The course of printing lines. -/
def printCourse (w : Workspace) (lines : List (Except RegistryError String)) : Course :=
  let printed := printLines lines
  ⟨[.output printed.text], w,
    match printed.stopped with
    | some e => .stopped (.registry e)
    | none => .exit 0⟩

/-- Print what the registry says about all rules, or about one. -/
def explain (e : Environment) (rule : Option String) : Course :=
  let w := e.workspace
  match rule with
  | none =>
    match e.registry.entries with
    | .error error => ⟨[], w, .stopped (.registry error)⟩
    | .ok entries => printCourse w (entries.map (ruleLine e.registry))
  | some rule =>
    match e.registry.entry rule with
    | .error error => ⟨[], w, .stopped (.registry error)⟩
    | .ok none => ⟨[Event.error ("Unknown rule '" ++ rule ++ "'.")], w, .exit 2⟩
    | .ok (some fields) => printCourse w (ruleLines e.registry rule fields)

/-- Carry a command out. -/
def carryOut (e : Environment) : Command → Course
  | .check paths format exitZero => check e paths format exitZero
  | .fix paths dryRun => fix e paths dryRun
  | .explain rule => explain e rule

/-! ## Runs -/

/-- A run of the program. -/
structure Run where
  /-- The number of cells of a line of the console. -/
  width : Nat
  /-- What was noted before the command started. -/
  preamble : List Entry
  /-- Whether the journal is shown in full. -/
  verbose : Bool := false
  events : List Event := []
  workspace : Workspace
  ending : Ending

namespace Run

/-- Run the program: take up the configuration, read the arguments, carry the command out. -/
def ofArguments (w : Workspace) (registry : Registry) (width : Nat) (arguments : List String) :
    Run :=
  match w.configuration none with
  | (preamble, .error error) =>
    { width, preamble, workspace := w, ending := .stopped (.configuration error) }
  | (preamble, .ok source) =>
    let preamble := preamble ++ Configuration.unknownEntries source.table
    match invocationOf arguments with
    | .error reason => { width, preamble, workspace := w, ending := .refused reason }
    | .ok i =>
      if i.command.paths.any hasNull then
        { width, preamble, workspace := w, ending := .stopped (.path .nullByte) }
      else
        let course := carryOut ⟨w, source, registry, width⟩ i.command
        { width, preamble, verbose := i.verbose, events := course.events,
          workspace := course.workspace, ending := course.ending }

/-- What goes to standard output. -/
def output (r : Run) : String :=
  String.join (r.events.map Event.outputText)

/-- A status line of the program as it is shown. -/
def shown (line : Except Markup.Error String) : String :=
  match line with
  | .ok s => s
  | .error e => e.message ++ "\n"

/-- What an event puts on the status stream. -/
def eventStatus (r : Run) : Event → String
  | .entry e => if r.verbose || e.level == .warning then e.line ++ "\n" else ""
  | .greeting => shown (Console.standard r.width).handshake
  | .notice n => shown ((Console.standard r.width).line n)
  | .output _ => ""

/-- What goes to the status stream: the warnings of the preamble as bare messages, the events,
and what is wrong with the arguments. -/
def status (r : Run) : String :=
  String.join ((warningsOf r.preamble).map (· ++ "\n"))
    ++ String.join (r.events.map r.eventStatus)
    ++ match r.ending with
      | .refused reason =>
        ((reason.message?).map fun text => Panel.draw r.width "Error" text).getD ""
      | _ => ""

/-- The exit code, unless a failure stopped the run. -/
def code? (r : Run) : Option Nat :=
  match r.ending with
  | .exit code => some code
  | .refused reason => some reason.code
  | .stopped _ => none

/-- Whether the usage of the program is to be shown. -/
def showsUsage (r : Run) : Bool :=
  match r.ending with
  | .refused reason => reason.message?.isNone
  | _ => false

end Run

end BindingAudit.CommandLine
