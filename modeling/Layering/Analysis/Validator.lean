import Layering.Analysis.Analyzer
import Layering.Config.Loading
import Layering.Report.Rendering

/-!
# Validators

A validator runs the analyzers of all enabled families over files and reports what they find. A
run that is cancelled stops with the analyzer that noticed it.
-/

namespace Layering

open Analysis

/-- A checked configuration, the rules to draw on, and how reports are shown. -/
structure Validator where
  config : Config
  registry : Registry := .builtin
  view : Report.View

namespace Validator

/-- A validator for a configuration that passes its checks. -/
def ofConfig (c : Config) : Except Error Validator :=
  match c.validate with
  | .ok () => .ok { config := c, view := .ofSettings c.report }
  | .error fault => .error (.configuration fault)

/-- A validator for the configuration in a file. -/
def ofFile (fs : FileSystem) (path : String) : Except Error Validator :=
  match Config.loadFile fs path with
  | .ok c => ofConfig c
  | .error fault => .error (.configuration fault)

/-! ## Analyzers -/

/-- The options of the built-in rules of a family. -/
def ruleOptions (v : Validator) (f : Family) : Table Options :=
  .ofList (f.rules.map fun rule => (rule, (v.config.family f).optionsOf rule))

/-- The further rules of the custom family that can be made, in the order of their ids. -/
def customRules (v : Validator) : List Rule :=
  v.config.custom.customRules.entries.filterMap fun (id, o) => (v.registry.create id o).toOption

/-- The analyzer of a family with its options. -/
def analyzerOf (v : Validator) (f : Family) : Analyzer :=
  let builtin := (Analyzer.ofFamily f v.registry).configure (v.ruleOptions f)
  match f with
  | .custom => { builtin with rules := builtin.rules ++ v.customRules }
  | _ => builtin

/-- The analyzers of the enabled families, in order. -/
def analyzers (v : Validator) : List Analyzer := v.config.enabledFamilies.map v.analyzerOf

/-! ## Runs -/

/-- Run analyzers one after the other and collect what they find. -/
def runAnalyzers (mode : Mode) (ctx : Context) (sources : List Source) :
    Bool → Bool → List Analyzer → Report → Report
  | _, _, [], r => r
  | first, cancelled, a :: rest, r =>
    let (o, cancelled) := a.analyze mode ctx cancelled sources
    let r := r.addAll o.violations
    if o.cancelled then (if first then r.setFiles o.filesAnalyzed else r).setCancelled true
    else runAnalyzers mode ctx sources false cancelled rest r

/-- Run all analyzers over sources, where `files` are the paths of all files of the run. -/
def run (v : Validator) (mode : Mode) (cancelled : Bool) (sources : List Source)
    (files : List String) : Report :=
  runAnalyzers mode ⟨v.config, files⟩ sources true cancelled v.analyzers
    ((Report.empty.setFingerprint v.config.fingerprint).setFiles sources.length)

/-- Validate sources. -/
def validateSources (v : Validator) (mode : Mode) (cancelled : Bool) (sources : List Source) :
    Report :=
  v.run mode cancelled sources (sources.map (·.path))

/-- Read a source file. Bytes that are no text are replaced. -/
def loadSource (fs : FileSystem) (path : String) : Except Error Source :=
  match fs.read path with
  | .ok bytes => .ok (.ofContent path (Text.Utf8.decodeLossy bytes))
  | .error fault => .error (.fileRead path fault)

/-- The files that can be read and those that cannot, both in order. -/
def loadSources (fs : FileSystem) : List String → List Source × List Report.Skipped
  | [] => ([], [])
  | path :: rest =>
    let (sources, skipped) := loadSources fs rest
    match loadSource fs path with
    | .ok source => (source :: sources, skipped)
    | .error e => (sources, ⟨path, e.message⟩ :: skipped)

/-- Validate files; those that cannot be read are skipped. -/
def validateFiles (v : Validator) (fs : FileSystem) (mode : Mode) (cancelled : Bool)
    (files : List String) : Report :=
  let (sources, skipped) := loadSources fs files
  skipped.foldl (fun r s => r.skip s.path s.reason) (v.run mode cancelled sources files)

/-- The files to validate at some roots, with further patterns to exclude. -/
def discover (v : Validator) (fs : FileSystem) (roots excludes : List String) :
    Except Error (List String) :=
  match PathFilter.ofLists (v.config.paths.excludes ++ excludes) v.config.paths.extensions with
  | .error fault => .error (.pattern (.filter fault))
  | .ok filter => match filter.discover fs roots with
    | .ok files => .ok files
    | .error fault => .error (.ofRoot fault)

/-- Validate the files at some roots. -/
def validatePaths (v : Validator) (fs : FileSystem) (mode : Mode) (cancelled : Bool)
    (roots excludes : List String) : Except Error Report := do
  return v.validateFiles fs mode cancelled (← v.discover fs roots excludes)

/-- A report in a format, as the validator shows it. -/
def render (v : Validator) (colors : Bool) (r : Report) (format : Report.Format) : String :=
  r.render v.view colors format

end Validator

end Layering
