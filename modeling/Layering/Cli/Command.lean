import Layering.Cli.Items
import Layering.Family
import Layering.Report.Format
import Layering.Severity

/-!
# Commands

What a command line asks for. The shared switches may stand before the command and after its name;
what stands after the name wins.
-/

namespace Layering.Cli

/-- What a check is asked to do. -/
structure CheckArguments where
  /-- Files and directories to check. -/
  paths : List String := []
  format : Option Report.Format := none
  minSeverity : Option Severity := none
  maxViolations : Option Nat := none
  /-- Further patterns to exclude. -/
  excludes : List String := []
  /-- Families to switch on, whatever the configuration says. -/
  enable : List Family := []
  /-- The file to write the report to. -/
  output : Option String := none
  parallel : Bool := true
  colors : Bool := true
deriving Repr

/-- The name of a new configuration file, if none is given. -/
def defaultFile : String := "architecture_guardian.yaml"

/-- A command. -/
inductive Command where
  | check (arguments : CheckArguments)
  | validateConfig (file : Option String)
  | rules (family : Option Family)
  | explain (rule : String)
  | init (file : String) (enable : List Family) (force : Bool)
deriving Repr

/-- What the shared switches say. -/
structure Globals where
  verbose : Bool := false
  /-- Log events as JSON. -/
  logJson : Bool := false
  /-- The configuration file. -/
  config : Option String := none
deriving Repr

/-- What is said after the name of the command, over what is said before it. -/
def Globals.over (inner outer : Globals) : Globals :=
  { verbose := inner.verbose || outer.verbose
    logJson := inner.logJson || outer.logJson
    config := inner.config.or outer.config }

/-- A command with what the shared switches say. -/
structure Invocation where
  globals : Globals
  command : Command
deriving Repr

/-- Why a command line leads to no command. -/
inductive Halt where
  | help
  | version
  | misuse (m : Misuse)
deriving Repr

/-! ## Values -/

/-- A path, which must not be empty. -/
def readPath (text : String) : Except Halt String :=
  if text.isEmpty then .error (.misuse .emptyPath) else .ok text

/-- A value that the reader of the switch accepts. -/
def readValue {α : Type} (s : Switch) (read? : String → Option α) (text : String) : Except Halt α :=
  match read? text with
  | some a => .ok a
  | none => .error (.misuse (.invalidValue s text))

/-- A count of 64 bits, with an optional plus sign. -/
def count? (text : String) : Option Nat :=
  let digits := match text.toList with
    | '+' :: rest => rest
    | digits => digits
  (Severity.digits? digits).filter (· < Nat.pow 2 64)

/-- An output format by its name on the command line. -/
def format? (text : String) : Option Report.Format :=
  [Report.Format.human, .json, .github].find? (·.name == text)

/-! ## Collecting items -/

/-- Take an item of a kind that belongs to one command only. -/
abbrev Taker (α : Type) := α → Item → Except Halt α

/-- Take an item that may belong to the shared switches. -/
def takeShared {α : Type} (take : Taker α) (state : Globals × α) : Item → Except Halt (Globals × α)
  | .switch .help _ => .error .help
  | .switch .version _ => .error .version
  | .switch .verbose _ => .ok ({ state.1 with verbose := true }, state.2)
  | .switch .logJson _ => .ok ({ state.1 with logJson := true }, state.2)
  | .switch .config value => do
    let path ← readPath value
    return ({ state.1 with config := some path }, state.2)
  | item => do return (state.1, ← take state.2 item)

/-- Take items in order, where `seen` are the switches that may not come again. -/
def takeItems {α : Type} (take : Taker α) :
    List Switch → Globals × α → List Item → Except Halt (Globals × α)
  | _, state, [] => .ok state
  | seen, state, item :: rest => do
    let seen ← match item with
      | .switch s _ =>
        if s.repeats then .ok seen
        else if seen.contains s then .error (.misuse (.repeated s))
        else .ok (s :: seen)
      | .operand _ => .ok seen
    takeItems take seen (← takeShared take state item) rest

/-- No operand and no further switch is taken. -/
def takeNothing {α : Type} : Taker α
  | _, .switch s _ => .error (.misuse (.unknownSwitch ("--" ++ s.long)))
  | _, .operand text => .error (.misuse (.unexpectedOperand text))

def takeCheck : Taker CheckArguments
  | a, .operand text => do return { a with paths := a.paths ++ [← readPath text] }
  | a, .switch .format text => do
    return { a with format := some (← readValue .format format? text) }
  | a, .switch .minSeverity text => do
    return { a with minSeverity := some (← readValue .minSeverity Severity.parse? text) }
  | a, .switch .maxViolations text => do
    return { a with maxViolations := some (← readValue .maxViolations count? text) }
  | a, .switch .exclude text => .ok { a with excludes := a.excludes ++ [text] }
  | a, .switch .enable text => do
    return { a with enable := a.enable ++ [← readValue .enable Family.ofKey? text] }
  | a, .switch .output text => do return { a with output := some (← readPath text) }
  | a, .switch .noParallel _ => .ok { a with parallel := false }
  | a, .switch .noColor _ => .ok { a with colors := false }
  | a, item => takeNothing a item

/-- Take one operand. -/
def takeOperand (read : String → Except Halt String) : Taker (Option String)
  | none, .operand text => do return some (← read text)
  | state, item => takeNothing state item

def takeRules : Taker (Option Family)
  | _, .switch .family text => do return some (← readValue .family Family.ofKey? text)
  | state, item => takeNothing state item

def takeInit : Taker (Option String × List Family × Bool)
  | (file, enable, force), .switch .enable text => do
    return (file, enable ++ [← readValue .enable Family.ofKey? text], force)
  | (file, enable, _), .switch .force _ => .ok (file, enable, true)
  | (file, rest), item => do return (← takeOperand readPath file item, rest)

/-! ## Reading a command line -/

/-- The names of the commands. -/
def commandNames : List String :=
  ["check", "validate-config", "rules", "explain", "init", "help"]

/-- The name and version of the program. -/
def versionText : String := "architecture-guardian 0.1.0\n"

/-- What the program can be asked to do. -/
def helpText : String :=
  "Checks PHP source trees against DDD, Clean and Hexagonal architecture rules\n\n" ++
  "Usage: architecture-guardian [OPTIONS] <COMMAND>\n\n" ++
  "Commands:\n" ++
  "  check            Check source trees for architecture violations\n" ++
  "  validate-config  Validate a configuration file\n" ++
  "  rules            List the rules of every family\n" ++
  "  explain          Explain what a specific rule does\n" ++
  "  init             Write a default configuration file\n" ++
  "  help             Print this message or the help of the given subcommand(s)\n\n" ++
  "Options:\n" ++
  "  -v, --verbose          Enable verbose logging\n" ++
  "      --log-json         Emit logs as JSON lines\n" ++
  "  -c, --config <CONFIG>  Configuration file path\n" ++
  "  -h, --help             Print help\n" ++
  "  -V, --version          Print version\n"

/-- Read the arguments of a command, which takes some switches beside the shared ones. -/
def readCommand {α : Type} (switches : List Switch) (take : Taker α) (start : α)
    (arguments : List String) : Except Halt (Globals × α) := do
  let read := readItems (switches ++ Switch.shared) [] arguments
  let state ← takeItems take [] ({}, start) read.items
  match read.ending with
  | .misuse m => .error (.misuse m)
  | _ => .ok state

/-- Read the command with a name and its arguments. -/
def Command.read (name : String) (arguments : List String) : Except Halt (Globals × Command) :=
  match name with
  | "check" => do
    let (g, a) ← readCommand
      [.format, .minSeverity, .maxViolations, .exclude, .enable, .output, .noParallel, .noColor]
      takeCheck {} arguments
    return (g, .check a)
  | "validate-config" => do
    let (g, file) ← readCommand [] (takeOperand readPath) none arguments
    return (g, .validateConfig file)
  | "rules" => do
    let (g, family) ← readCommand [.family] takeRules none arguments
    return (g, .rules family)
  | "explain" => do
    let (g, rule) ← readCommand [] (takeOperand .ok) none arguments
    match rule with
    | some rule => .ok (g, .explain rule)
    | none => .error (.misuse .missingOperand)
  | "init" => do
    let (g, file, enable, force) ← readCommand [.enable, .force] takeInit (none, [], false) arguments
    return (g, .init (file.getD defaultFile) enable force)
  | "help" => .error <| match arguments with
    | [] => .help
    | topic :: rest =>
      if commandNames.contains topic && rest.isEmpty then .help
      else .misuse (.unknownCommand topic)
  | name => .error (.misuse (.unknownCommand name))

/-- Read a command line. -/
def Invocation.read (arguments : List String) : Except Halt Invocation := do
  let outer := readItems (.version :: Switch.shared) commandNames arguments
  let (g, _) ← takeItems takeNothing [] ({}, ()) outer.items
  match outer.ending with
  | .command name rest => do
    let (inner, command) ← Command.read name rest
    return ⟨inner.over g, command⟩
  | .misuse m => .error (.misuse m)
  | .complete => .error (.misuse .missingCommand)

end Layering.Cli
