import BindingAudit.Console.Basic
import BindingAudit.Journal

/-!
# Events

What a run shows and notes, in the order in which it happens: records of the journal, status
lines, and output.
-/

namespace BindingAudit

/-- Something a run shows or notes. -/
inductive Event where
  | entry (e : Entry)
  | greeting
  | notice (n : Notice)
  | output (text : String)
deriving DecidableEq, Repr

namespace Event

/-- A step: it is noted, then shown. -/
def step (message : String) : List Event :=
  [.entry (.ofConsole message), .notice ⟨.step, message⟩]

/-- The events of a status line. -/
def ofNotice (n : Notice) : List Event :=
  match n.kind with
  | .step => step n.message
  | _ => [.notice n]

/-- A status line that tells of an error. -/
def error (message : String) : Event :=
  .notice ⟨.error, message⟩

/-- A status line that warns. -/
def warning (message : String) : Event :=
  .notice ⟨.warning, message⟩

/-- The record of an event, if it is one. -/
def entry? : Event → Option Entry
  | .entry e => some e
  | _ => none

/-- The status line of an event, if it is one. -/
def notice? : Event → Option Notice
  | .notice n => some n
  | _ => none

/-- The output of an event. -/
def outputText : Event → String
  | .output text => text
  | _ => ""

end Event

end BindingAudit
