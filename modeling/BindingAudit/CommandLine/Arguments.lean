import BindingAudit.Text.Quoted
import BindingAudit.Text.Search

/-!
# Command-line arguments

Arguments are options and operands.  A long option is a name behind two dashes, and takes its
value from behind an equals sign or from the next argument.  Behind one dash stand short options,
as many as take no value; the first that takes one takes the rest of the argument, or the next.
Two dashes alone end the options.

The options of the program stand in front of the command.  Those of a command may stand between
its operands.
-/

namespace BindingAudit.CommandLine

/-- Why arguments lead to no run. -/
inductive Refusal where
  /-- Help was asked for. -/
  | help
  /-- The arguments fit no use of the program. -/
  | usage
  /-- An option stands at the end without its value. -/
  | valueMissing (option : String)
  /-- An option that takes no value has one. -/
  | valueGiven (option : String)
deriving DecidableEq, Repr

/-- The wording of a refusal that says what is wrong. -/
def Refusal.message? : Refusal → Option String
  | .valueMissing option => some ("Option " ++ Text.quoted option ++ " requires an argument.")
  | .valueGiven option => some ("Option " ++ Text.quoted option ++ " does not take a value.")
  | _ => none

/-- The exit code of a refusal. -/
def Refusal.code : Refusal → Nat
  | .help => 0
  | _ => 2

/-! ## Options -/

/-- The options of the program and its commands. -/
inductive OptionName where
  | help
  | verbose
  | format
  | exitZero
  | dryRun
deriving DecidableEq, Repr

/-- An option's spellings. -/
structure OptionForm where
  name : OptionName
  long : String
  short : Option Char := none
  takesValue : Bool := false

/-- The help option, which every command has. -/
def helpForm : OptionForm := { name := .help, long := "--help" }

/-- The options of the program. -/
def programForms : List OptionForm := [
  { name := .verbose, long := "--verbose", short := some 'v' }, helpForm]

/-- The options of `check`. -/
def checkForms : List OptionForm := [
  { name := .format, long := "--format", short := some 'f', takesValue := true },
  { name := .exitZero, long := "--exit-zero" }, helpForm]

/-- The options of `fix`. -/
def fixForms : List OptionForm := [{ name := .dryRun, long := "--dry-run" }, helpForm]

/-- The options of `explain`. -/
def explainForms : List OptionForm := [helpForm]

/-- What stands among arguments: options with their values, and operands. -/
structure Parsed where
  options : List (OptionName × String) := []
  operands : List String := []
deriving DecidableEq, Repr

namespace Parsed

/-- Whether an option stands among the arguments. -/
def has (p : Parsed) (o : OptionName) : Bool :=
  p.options.any fun e => e.1 == o

/-- The last value of an option. -/
def value? (p : Parsed) (o : OptionName) : Option String :=
  (p.options.reverse.find? fun e => e.1 == o).map (·.2)

/-- Add an option. -/
def addOption (p : Parsed) (o : OptionName) (value : String) : Parsed :=
  { p with options := p.options ++ [(o, value)] }

/-- Add operands. -/
def addOperands (p : Parsed) (operands : List String) : Parsed :=
  { p with operands := p.operands ++ operands }

end Parsed

/-- The name of a long option and the value behind its equals sign. -/
def longParts (argument : String) : String × Option String :=
  let name := argument.toList.takeWhile (· != '=')
  match argument.toList.drop name.length with
  | _ :: value => (String.ofList name, some (String.ofList value))
  | [] => (argument, none)

/-- Take the value of an option from the front of the arguments that follow. -/
def takeValue (option : String) : List String → Except Refusal (String × List String)
  | [] => .error (.valueMissing option)
  | value :: rest => .ok (value, rest)

/-- Read a long option; the result has the arguments that are left. -/
def readLong (form : OptionForm) (value : Option String) (rest : List String) (p : Parsed) :
    Except Refusal (Parsed × List String) :=
  if form.takesValue then do
    let (v, rest) ← takeValue form.long (value.toList ++ rest)
    return (p.addOption form.name v, rest)
  else
    match value with
    | some _ => .error (.valueGiven form.long)
    | none => .ok (p.addOption form.name "", rest)

/-- Read the short options behind one dash; the result has the arguments that are left. -/
def readShort (forms : List OptionForm) :
    List Char → List String → Parsed → Except Refusal (Parsed × List String)
  | [], rest, p => .ok (p, rest)
  | c :: more, rest, p =>
    match forms.find? fun f => f.short == some c with
    | none => .error .usage
    | some form =>
      if form.takesValue then do
        let attached := if more.isEmpty then [] else [String.ofList more]
        let (v, rest) ← takeValue (String.ofList ['-', c]) (attached ++ rest)
        return (p.addOption form.name v, rest)
      else readShort forms more rest (p.addOption form.name "")

/-- Read an argument that starts with a dash; the result has the arguments that are left. -/
def readOption (forms : List OptionForm) (argument : String) (rest : List String) (p : Parsed) :
    Except Refusal (Parsed × List String) :=
  let (name, value) := longParts argument
  match forms.find? fun f => f.long == name with
  | some form => readLong form value rest p
  | none =>
    match argument.toList with
    | '-' :: '-' :: _ => .error .usage
    | _ :: letters => readShort forms letters rest p
    | [] => .error .usage

/-- Whether an argument is an option. -/
def isOption (argument : String) : Bool :=
  match argument.toList with
  | '-' :: _ :: _ => true
  | _ => false

/-- Read arguments.  With `mixed`, options may stand behind operands; without, the first operand
ends them.  `fuel` bounds the number of arguments. -/
def readArguments (forms : List OptionForm) (mixed : Bool) :
    Nat → List String → Parsed → Except Refusal Parsed
  | 0, rest, p => .ok (p.addOperands rest)
  | _, [], p => .ok p
  | fuel + 1, argument :: rest, p =>
    if argument = "--" then .ok (p.addOperands rest)
    else if isOption argument then
      match readOption forms argument rest p with
      | .error e => .error e
      | .ok (p, rest) => readArguments forms mixed fuel rest p
    else if mixed then readArguments forms mixed fuel rest (p.addOperands [argument])
    else .ok (p.addOperands (argument :: rest))

/-- Read arguments; a request for help goes before everything but a mistake in the options. -/
def parse (forms : List OptionForm) (mixed : Bool) (arguments : List String) :
    Except Refusal Parsed := do
  let p ← readArguments forms mixed arguments.length arguments {}
  if p.has .help then .error .help else return p

/-! ## Commands -/

/-- What the program is asked to do. -/
inductive Command where
  | check (paths : List String) (format : String) (exitZero : Bool)
  | fix (paths : List String) (dryRun : Bool)
  | explain (rule : Option String)
deriving DecidableEq, Repr

/-- The paths a command is given. -/
def Command.paths : Command → List String
  | .check paths _ _ => paths
  | .fix paths _ => paths
  | .explain _ => []

/-- A command and whether the journal is shown in full. -/
structure Invocation where
  verbose : Bool
  command : Command
deriving DecidableEq, Repr

/-- Read the arguments of a command. -/
def commandOf (name : String) (arguments : List String) : Except Refusal Command :=
  if name = "check" then do
    let p ← parse checkForms true arguments
    return .check p.operands ((p.value? .format).getD "table") (p.has .exitZero)
  else if name = "fix" then do
    let p ← parse fixForms true arguments
    return .fix p.operands (p.has .dryRun)
  else if name = "explain" then do
    let p ← parse explainForms true arguments
    match p.operands with
    | [] => return .explain none
    | [rule] => return .explain (some rule)
    | _ => .error .usage
  else if isOption name then do
    -- An option behind two dashes is no command, but it is looked at as an option.
    let _ ← parse programForms false (name :: arguments)
    .error .usage
  else .error .usage

/-- Read the arguments of the program. -/
def invocationOf (arguments : List String) : Except Refusal Invocation := do
  let p ← parse programForms false arguments
  match p.operands with
  | [] => .error .usage
  | name :: rest => return ⟨p.has .verbose, ← commandOf name rest⟩

end BindingAudit.CommandLine
