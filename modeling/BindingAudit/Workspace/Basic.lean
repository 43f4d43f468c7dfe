import BindingAudit.Text.Quoted
import BindingAudit.Text.Utf8
import BindingAudit.Workspace.Path

/-!
# Workspaces

The files and directories below a base directory, and the working directory among them.  A place
is the list of names that leads to it from the base.  Paths as texts are followed name by name,
so that a missing directory or a file in a directory's place is noticed where it is; what lies
outside the base does not exist.

The system may refuse to read a file that is there, and to write bytes to one.  What it refuses is
part of a workspace; a write that is refused leaves the files as they are.
-/

namespace BindingAudit

/-- A place below the base directory. -/
abbrev Place := List String

/-- What is stored at a place. -/
inductive Stored where
  | directory
  | file (bytes : List UInt8)
deriving DecidableEq, Repr

/-- Why a file cannot be read or written. -/
inductive FileError where
  | missing
  | notDirectory
  | isDirectory
  | nameTooLong
  /-- What the system answers, by its number and wording: that there is no permission, say, or that
  a device is full or can only be read. -/
  | refused (code : Nat) (reason : String)
deriving DecidableEq, Repr

/-- The number of a file error. -/
def FileError.code : FileError → Nat
  | .missing => 2
  | .notDirectory => 20
  | .isDirectory => 21
  | .nameTooLong => 36
  | .refused code _ => code

/-- The wording of a file error without the path. -/
def FileError.reason : FileError → String
  | .missing => "No such file or directory"
  | .notDirectory => "Not a directory"
  | .isDirectory => "Is a directory"
  | .nameTooLong => "File name too long"
  | .refused _ reason => reason

/-- Why a text cannot be read from or written to a path. -/
inductive AccessError where
  | file (error : FileError) (path : String)
  | decoding (fault : Text.Utf8.Fault)
  /-- The path holds the character that ends paths. -/
  | nullByte
deriving DecidableEq, Repr

/-- The wording of an access error. -/
def AccessError.message : AccessError → String
  | .file error path =>
    "[Errno " ++ toString error.code ++ "] " ++ error.reason ++ ": " ++ Text.quoted path
  | .decoding fault => fault.message
  | .nullByte => "embedded null byte"

/-- The greatest number of bytes of a name. -/
def nameLimit : Nat := 255

/-- The greatest number of bytes of a path. -/
def pathLimit : Nat := 4095

/-- Whether a path holds the character that ends paths. -/
def hasNull (path : String) : Bool :=
  path.toList.contains (Char.ofNat 0)

/-- Files and directories below a base directory. -/
structure Workspace where
  /-- The full path of the base directory. -/
  base : String
  /-- The working directory. -/
  current : Place := []
  /-- What is stored where; a directory that holds something is stored itself. -/
  stored : List (Place × Stored) := []
  /-- Why the system does not let a file be read, if it does not. -/
  unreadable : Place → Option FileError := fun _ => none
  /-- Why the system does not let bytes be written to a file, if it does not. -/
  unwritable : Place → List UInt8 → Option FileError := fun _ _ => none

namespace Workspace

/-! ## Looking up and storing -/

/-- What is stored at a place; the base is a directory. -/
def at? (w : Workspace) (p : Place) : Option Stored :=
  if p = [] then some .directory
  else (w.stored.find? fun e => e.1 == p).map (·.2)

/-- Store something at a place, in place of what was there. -/
def store (w : Workspace) (p : Place) (s : Stored) : Workspace :=
  if w.stored.any fun e => e.1 == p then
    { w with stored := w.stored.map fun e => if e.1 == p then (p, s) else e }
  else { w with stored := w.stored ++ [(p, s)] }

/-- Store something at a path from the base, making the directories on the way. -/
def place (w : Workspace) (s : Stored) : Place → List String → Workspace
  | _, [] => w
  | p, [n] => w.store (p ++ [n]) s
  | p, n :: rest =>
    if n = ".." then w.place s p.dropLast rest
    else
      let here := p ++ [n]
      let w := if (w.at? here).isSome then w else w.store here .directory
      w.place s here rest

/-! ## Following paths -/

/-- Follow one name from a directory. -/
def enter (w : Workspace) (p : Place) (name : String) : Except FileError Place :=
  match w.at? p with
  | none => .error .missing
  | some (.file _) => .error .notDirectory
  | some .directory =>
    if name = "" ∨ name = "." then .ok p
    else if name = ".." then
      if p = [] then .error .missing else .ok p.dropLast
    else if nameLimit < name.utf8ByteSize then .error .nameTooLong
    else .ok (p ++ [name])

/-- Follow names from a place; the last may lead to where nothing is stored. -/
def follow (w : Workspace) (p : Place) (names : List String) : Except FileError Place :=
  names.foldlM w.enter p

/-- Where a path starts, and the names that follow.  A path with a root is below the base or
leads nowhere. -/
def origin? (w : Workspace) (path : String) : Option (Place × List String) :=
  let names := (Text.splitAt '/' path.toList).map String.ofList
  let baseNames := (Text.splitAt '/' w.base.toList).map String.ofList
  if baseNames.isPrefixOf names then some ([], names.drop baseNames.length)
  else if Path.rootOf path.toList = "" then some (w.current, names)
  else none

/-- Where a path starts, and the names that follow, if it can be followed. -/
def origin (w : Workspace) (path : String) : Except FileError (Place × List String) :=
  if path = "" then .error .missing
  else if pathLimit < path.utf8ByteSize then .error .nameTooLong
  else
    match w.origin? path with
    | some found => .ok found
    | none => .error .missing

/-- The place a path leads to. -/
def locate (w : Workspace) (path : String) : Except FileError Place := do
  let (start, names) ← w.origin path
  w.follow start names

/-- What is stored where a path leads, if anything is; a path that leads nowhere has nothing, but
one that cannot be followed for its length is an error. -/
def stat (w : Workspace) (path : String) : Except AccessError (Option Stored) :=
  if hasNull path then .ok none
  else
    match w.locate path with
    | .ok p => .ok (w.at? p)
    | .error .nameTooLong => .error (.file .nameTooLong path)
    | .error _ => .ok none

/-! ## Reading and writing -/

/-- The bytes of the file a path leads to. -/
def readBytes (w : Workspace) (path : String) : Except FileError (List UInt8) := do
  let p ← w.locate path
  match w.at? p with
  | none => .error .missing
  | some .directory => .error .isDirectory
  | some (.file bytes) =>
    if path.endsWith "/" then .error .notDirectory
    else
      match w.unreadable p with
      | some error => .error error
      | none => .ok bytes

/-- The text of the file a path leads to. -/
def readText (w : Workspace) (path : String) : Except AccessError String :=
  if hasNull path then .error .nullByte
  else
    match w.readBytes path with
    | .error e => .error (.file e path)
    | .ok bytes =>
      match Text.Utf8.decode bytes with
      | .error fault => .error (.decoding fault)
      | .ok cs => .ok (String.ofList cs)

/-- The place a file is to be written to: its directory has to be there. -/
def locateForWriting (w : Workspace) (path : String) : Except FileError Place := do
  let (start, names) ← w.origin path
  let trimmed := (names.reverse.dropWhile (· == "")).reverse
  let directory ← w.follow start trimmed.dropLast
  let directory ← w.enter directory "."
  if path.endsWith "/" then .error .isDirectory
  else
    let p ← w.enter directory (trimmed.getLastD "")
    match w.at? p with
    | some .directory => .error .isDirectory
    | _ => .ok p

/-- Write a text to the file a path leads to. -/
def writeText (w : Workspace) (path text : String) : Except AccessError Workspace :=
  if hasNull path then .error .nullByte
  else
    match w.locateForWriting path with
    | .error e => .error (.file e path)
    | .ok p =>
      let bytes := Text.Utf8.encode text.toList
      match w.unwritable p bytes with
      | some e => .error (.file e path)
      | none => .ok (w.store p (.file bytes))

/-! ## Model files -/

/-- The endings of the names of element models. -/
def modelEndings : List String := [".qml.yaml", ".qml.yml", ".qml.json"]

/-- Whether a file is named like an element model. -/
def isModelName (name : String) : Bool :=
  modelEndings.any fun e => e.toList.reverse.isPrefixOf name.toList.reverse

/-- The names that lead from a directory to a place below it. -/
def below? (directory p : Place) : Option (List String) :=
  if directory.isPrefixOf p ∧ directory.length < p.length then some (p.drop directory.length)
  else none

/-- The model files below a directory, in alphabetical order, with their paths as continuations
of the directory's. -/
def modelsBelow (w : Workspace) (path : Path) (p : Place) : List String :=
  Text.sorted (w.stored.filterMap fun e =>
    match e.2, below? p e.1 with
    | .file _, some names =>
      if isModelName (names.getLastD "") then
        some (Path.mk path.root (path.names ++ names)).shown
      else none
    | _, _ => none)

/-- The model files at a path: those anywhere below a directory, or the file itself whatever its
name. -/
def modelFiles (w : Workspace) (path : String) : Except AccessError (List String) := do
  let cleaned := Path.ofText path
  match ← w.stat cleaned.shown with
  | none => return []
  | some (.file _) => return [cleaned.shown]
  | some .directory =>
    match w.locate cleaned.shown with
    | .ok p => return w.modelsBelow cleaned p
    | .error _ => return []

end Workspace

end BindingAudit
