import Layering.Analysis.Events
import Layering.Cli.Command
import Layering.Cli.Outcome

/-!
# Running a command

Each command as a function from the files it finds to its outcome. A command that needs a
configuration takes the one it is given, else the nearest one, else the defaults.
-/

namespace Layering.Cli

/-- What a command finds when it starts. -/
structure Environment where
  files : FileSystem
  /-- Whether the output may have colours. -/
  colors : Bool := false
  /-- When a report is finished. -/
  now : Report.Timestamp := {}
  /-- How long a validation takes, in milliseconds. -/
  elapsed : Nat := 0

/-- The current directory as a path. -/
def workingDirectory (fs : FileSystem) : String := "/" ++ "/".intercalate fs.current

/-- The configuration file to use: the given one, else the nearest one. -/
def configFile? (fs : FileSystem) (given : Option String) : Option String :=
  given.or (Config.discover fs (workingDirectory fs))

/-- The configuration to use. -/
def loadConfig (fs : FileSystem) (given : Option String) : Except Failure Config :=
  match configFile? fs given with
  | none => .ok .default
  | some path => match Config.loadFile fs path with
    | .ok c => .ok c
    | .error fault => .error (.loading path fault)

/-- A configuration is about to be loaded. -/
def loadEvent (fs : FileSystem) (given : Option String) : Note :=
  .event <| match configFile? fs given with
    | some path => Log.debug ("Loading configuration from " ++ path)
    | none => Log.debug "No configuration file found, using defaults"

/-- The built-in rules are registered. -/
def registryNotes : List Note := Registry.builtinEvents.map .event

def statusOf (s : Config.FamilySettings) : String := if s.enabled then "enabled" else "disabled"

/-! ## Checking -/

/-- How a check shows its report. A report that goes to a file has no colours. -/
def checkView (c : Config) (a : CheckArguments) : Report.View :=
  let view := Report.View.ofSettings c.report
  { view with
    minSeverity := a.minSeverity.getD view.minSeverity
    maxViolations := a.maxViolations.or view.maxViolations
    useColors := view.useColors && a.colors && (a.output.or c.report.output).isNone }

/-- The exit code of a check that fails on violations of at least a severity. -/
def checkExit (threshold : Severity) (r : Report) : Nat :=
  if r.cancelled then exitFailure
  else if r.hasViolationsAt threshold then exitViolations
  else 0

/-- Said when nothing would be checked. -/
def noFamiliesMessage : String :=
  "No architecture families are enabled. Enable one with --enable <family> or create a " ++
    "configuration with \x60architecture-guardian init\x60."

/-- Check files with a configuration, after some notes. -/
def checkWith (env : Environment) (a : CheckArguments) (c : Config) (notes : List Note) : Outcome :=
  let c := c.enableAll a.enable
  let notes := notes ++
    if c.enabledFamilies.isEmpty then [.message noFamiliesMessage] else []
  match Validator.ofConfig c with
  | .error e => .failed env.files notes (.library e)
  | .ok v =>
    let v := { v with view := checkView c a }
    let mode : Analysis.Mode := if a.parallel then .parallel else .sequential
    let paths := if a.paths.isEmpty then ["."] else a.paths
    let notes := notes ++ registryNotes ++
      (v.pathsEvents env.files mode false paths a.excludes).map .event
    match v.validatePaths env.files mode false paths a.excludes with
    | .error e => .failed env.files notes (.library e)
    | .ok report =>
      let report := (report.setDuration env.elapsed).setFinishedAt env.now
      let text := v.render env.colors report (a.format.getD c.report.format)
      let exit := checkExit v.view.minSeverity report
      match a.output.or c.report.output with
      | none => { exit, output := text, notes, files := env.files }
      | some path => match env.files.write path text.toUTF8.toList with
        | .ok files =>
          { exit, output := unlines ["Report written to " ++ path], notes,
            written := some (path, text), files }
        | .error fault => .failed env.files notes (.writingReport path fault)

def check (env : Environment) (config : Option String) (a : CheckArguments) : Outcome :=
  let notes := [loadEvent env.files config]
  match loadConfig env.files config with
  | .error f => .failed env.files notes f
  | .ok c => checkWith env a c notes

/-! ## Configurations -/

/-- The lines that sum up a configuration. -/
def summaryLines (c : Config) : List String :=
  let families := c.enabledFamilies.map Family.title
  ["Configuration summary:",
   "  Enabled families: " ++ if families.isEmpty then "none" else ", ".intercalate families] ++
  ((c.custom.customRules.keys.filter fun id => !Registry.builtin.contains id).map fun id =>
    "  Warning: custom rule '" ++ id ++ "' is not registered and will be skipped") ++
  ["  Exclude patterns: " ++ toString c.paths.excludes.length,
   "  Minimum severity: " ++ c.report.minSeverity.label,
   "  Fingerprint: " ++ c.fingerprint]

def validateConfig (env : Environment) (config : Option String) : Outcome :=
  match configFile? env.files config with
  | none => .failed env.files [] .noConfiguration
  | some path =>
    let first := "Validating configuration: " ++ path
    match Config.loadFile env.files path with
    | .ok c =>
      { output := unlines (first :: "Configuration is valid" :: summaryLines c)
        notes := registryNotes
        files := env.files }
    | .error fault =>
      { exit := exitFailure
        output := unlines [first]
        notes := [.message ("Configuration validation failed: " ++ (Error.configuration fault).message)]
        files := env.files }

/-- The comment a new configuration file starts with. -/
def fileHeader : String :=
  "# Architecture Guardian configuration\n" ++
  "# Enable a family by setting \x60enabled: true\x60 under analyzers.<family>.\n"

def init (env : Environment) (file : String) (enable : List Family) (force : Bool) : Outcome :=
  if env.files.contains file && !force then
    { exit := exitFailure
      notes := [.message (file ++ " already exists; use --force to overwrite")]
      files := env.files }
  else
    let text := fileHeader ++ (Config.default.enableAll enable).toYaml
    match env.files.write file text.toUTF8.toList with
    | .ok files =>
      { output := unlines ["Wrote default configuration to " ++ file],
        written := some (file, text), files }
    | .error fault => .failed env.files [] (.writing file fault)

/-! ## Rules -/

/-- The description of a built-in rule. -/
def descriptionOf (id : String) : String :=
  match Registry.builtin.instantiate id with
  | .ok rule => rule.description
  | .error _ => ""

/-- The lines that list the rules of a family, with an empty line at the end. -/
def familyLines (c : Config) (f : Family) : List String :=
  let settings := c.family f
  [f.title ++ " [" ++ f.key ++ "] (" ++ statusOf settings ++ ")"] ++
  (f.rules.map fun id => "  " ++ id ++ " - " ++ descriptionOf id) ++
  (if f = .custom then settings.customRules.keys.map fun id => "  " ++ id ++ " (custom)" else []) ++
  [""]

def rules (env : Environment) (config : Option String) (family : Option Family) : Outcome :=
  let notes := [loadEvent env.files config]
  match loadConfig env.files config with
  | .error f => .failed env.files notes f
  | .ok c =>
    let wanted := match family with
      | some f => [f]
      | none => Family.all
    { output := unlines (wanted.flatMap (familyLines c))
      notes := notes ++ registryNotes
      files := env.files }

/-- The lines that explain a rule of a family. -/
def ruleLines (c : Config) (f : Family) (id : String) : List String :=
  let settings := c.family f
  let options := settings.optionsOf id
  ["Rule: " ++ id, "Family: " ++ f.title ++ " (" ++ statusOf settings ++ ")", "",
   "Description:", "   " ++ descriptionOf id] ++
  if options.isEmpty then []
  else ["", "Effective options:"] ++
    ((Yaml.render (.mapping options.entries)).splitOn "\n").dropLast.map ("   " ++ ·)

def explain (env : Environment) (config : Option String) (id : String) : Outcome :=
  let notes := [loadEvent env.files config]
  match loadConfig env.files config with
  | .error f => .failed env.files notes f
  | .ok c =>
    let notes := notes ++ registryNotes
    match Family.all.find? fun f => f.rules.contains id with
    | some f => { output := unlines (ruleLines c f id), notes, files := env.files }
    | none =>
      { exit := exitFailure
        output := unlines (["", "Available rules:"] ++ Registry.builtin.ids.map ("  - " ++ ·))
        notes := notes ++ [.message ("Rule '" ++ id ++ "' not found")]
        files := env.files }

/-! ## All commands -/

/-- Run a command. -/
def Invocation.run (env : Environment) (i : Invocation) : Outcome :=
  let config := i.globals.config
  match i.command with
  | .check a => check env config a
  | .validateConfig file => validateConfig env (file.or config)
  | .rules family => rules env config family
  | .explain id => explain env config id
  | .init file enable force => init env file enable force

/-- How the events of a run are logged. -/
def Globals.log (g : Globals) : LogSettings :=
  { level := if g.verbose then .debug else .warn, json := g.logJson }

end Layering.Cli
