import BindingAudit.CommandLine.Run

/-!
# The command

Takes the files the arguments can reach into a workspace, with what the system refuses to do with
them, runs the program on it, writes the files that changed, and passes on what is shown and the
exit code.
-/

namespace BindingAudit

/-- How the program is used. -/
def usage : String :=
  "Usage: binding-audit [-v] check [PATHS] [-f table|json] [--exit-zero]\n" ++
  "       binding-audit [-v] fix [PATHS] [--dry-run]\n" ++
  "       binding-audit [-v] explain [RULE]\n"

/-- The full path of a place below the root directory. -/
def rootPath (p : Place) : String :=
  "/" ++ String.intercalate "/" p

/-- What the system answers an attempt with, if it refuses it. -/
def refusal {α : Type} (attempt : IO α) : IO (Option FileError) := do
  try
    discard attempt
    return none
  catch
  | .permissionDenied _ code reason | .inappropriateType _ code reason =>
    return some (.refused code.toNat reason)
  | error => return some (.refused 5 error.toString)

/-- Add the file at a place to a workspace, if there is one. -/
def addFile (w : Workspace) (p : Place) : IO Workspace := do
  let path := (← IO.currentDir) / rootPath p
  unless ← path.pathExists do return w
  let bytes ← try IO.FS.readBinFile path catch _ => pure .empty
  let reading ← refusal (IO.FS.readBinFile path)
  -- opening a file for both reading and writing leaves its bytes as they are
  let writing ← refusal (IO.FS.Handle.mk path .readWrite)
  let w := w.place (.file bytes.toList) [] p
  return { w with
    unreadable := fun q => if q = p then reading else w.unreadable q
    unwritable := fun q bytes => if q = p then writing else w.unwritable q bytes }

/-- Add what is at a place and below it to a workspace. -/
partial def addTree (w : Workspace) (p : Place) : IO Workspace := do
  let here := (← IO.currentDir) / rootPath p
  if ← here.isDir then
    let mut w := w.place .directory [] p
    for entry in ← here.readDir do
      w ← addTree w (p ++ [entry.fileName])
    return w
  else addFile w p

/-- The workspace of a run: what is below the working directory and around the paths given, and
the configuration files above. -/
def workspaceFor (arguments : List String) : IO Workspace := do
  let current := (Path.ofText (← IO.currentDir).toString).names
  let mut w : Workspace := { base := "", current }
  for directory in Workspace.upwards current do
    w ← addFile w (directory ++ ["pyproject.toml"])
  w ← addTree w current
  for argument in arguments do
    unless CommandLine.isOption argument do
      if let some p := w.resolve? argument then
        unless current.isPrefixOf p do
          w ← addTree w (if ← ((← IO.currentDir) / rootPath p).isDir then p else p.dropLast)
  return w

/-- Write the files that changed. -/
def writeChanges (before after : Workspace) : IO Unit := do
  for (p, s) in after.stored do
    if let .file bytes := s then
      unless before.at? p == some s do
        IO.FS.writeBinFile (rootPath p) ⟨bytes.toArray⟩

end BindingAudit

open BindingAudit in
/-- Run the program. -/
def main (arguments : List String) : IO UInt32 := do
  let w ← workspaceFor arguments
  let width := ((← IO.getEnv "COLUMNS").bind String.toNat?).getD 80
  let r := CommandLine.Run.ofArguments w Registry.standard width arguments
  writeChanges w r.workspace
  (← IO.getStderr).putStr r.status
  (← IO.getStdout).putStr r.output
  match r.ending with
  | .exit code => return code.toUInt32
  | .refused reason =>
    if r.showsUsage then
      (← if reason.code = 0 then IO.getStdout else IO.getStderr).putStr usage
    return reason.code.toUInt32
  | .stopped error =>
    (← IO.getStderr).putStrLn error.message
    return 1
