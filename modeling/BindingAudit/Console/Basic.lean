import BindingAudit.Console.Highlight
import BindingAudit.Console.Terminal

/-!
# The console

Status lines for the user: a greeting, steps, warnings and errors, each behind a label with the
name of the program.  Names and messages show literally.
-/

namespace BindingAudit

/-- The kinds of status lines. -/
inductive NoticeKind where
  | step
  | warning
  | error
deriving DecidableEq, Repr

/-- The name of a kind. -/
def NoticeKind.name : NoticeKind → String
  | .step => "step"
  | .warning => "warning"
  | .error => "error"

/-- A status line. -/
structure Notice where
  kind : NoticeKind
  message : String
deriving DecidableEq, Repr

/-- How status lines are shown. -/
structure Console where
  /-- The number of cells of a line. -/
  width : Nat
  name : String := "QML-ALIAS"
  color : String := "cyan"
  welcome : String
  /-- Whether lines go to a colour terminal. -/
  terminal : Bool := false

namespace Console

/-- The console of the program, with lines of a width. -/
def standard (width : Nat) : Console :=
  { width, welcome := "Scanning bindings for C++ object access" }

/-- The label in front of a line, as marked-up text. -/
def label (c : Console) : String :=
  Markup.escape ("[" ++ c.name ++ "]")

/-- The lines of the banner. -/
def banner : List String := [
  "   ____  __  _____       ___    ___",
  "  / __ \\/  |/  / /      /   |  / (_)___ ______",
  " / / / / /|_/ / /      / /| | / / / __ `/ ___/",
  "/ /_/ / /  / / /___   / ___ |/ / / /_/ (__  )",
  "\\___\\_\\_/  /_/_____/  /_/  |_/_/_/\\__,_/____/   lint"]

/-- The banner in colour, with an empty line before and after it. -/
def paintedBanner (width : Nat) : Except ColorError String :=
  let text := ("\n" ++ String.join (banner.map (· ++ "\n"))).toList
  Terminal.send width true ⟨text, [⟨0, text.length, "cyan"⟩]⟩

/-- Show marked-up text; `highlight` makes what stands out by itself do so on a terminal. -/
def show? (c : Console) (highlight : Bool) (markup : String) : Except Markup.Error String := do
  let t ← Markup.render markup
  let marks := if highlight then Highlight.stretches t.text else []
  match Terminal.send c.width c.terminal { t with stretches := marks ++ t.stretches } with
  | .ok text => return text
  | .error e => .error (.color e)

/-- The greeting. -/
def handshake (c : Console) : Except Markup.Error String := do
  let line ← c.show? true ("[" ++ c.color ++ "]" ++ c.label ++ "[/] " ++ Markup.escape c.welcome)
  if c.terminal then
    match paintedBanner c.width with
    | .ok banner => return banner ++ line
    | .error e => .error (.color e)
  else return line

/-- The marked-up text of a status line. -/
def markup (c : Console) (n : Notice) : String :=
  let opening :=
    match n.kind with
    | .step => "[" ++ c.color ++ "]" ++ c.label
    | .warning => "[yellow]" ++ c.label ++ " WARNING:"
    | .error => "[bold red]" ++ c.label ++ " ERROR:"
  opening ++ "[/] " ++ Markup.escape n.message

/-- A status line as it is shown. -/
def line (c : Console) (n : Notice) : Except Markup.Error String :=
  c.show? false (c.markup n)

end Console

end BindingAudit
