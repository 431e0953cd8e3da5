import Layering.Analysis.Validator

/-!
# What a validator logs

The events of each operation of a validator, in the order they happen.
-/

namespace Layering.Validator

open Analysis Log

/-- The further rules of the custom family are made. -/
def customEvents (v : Validator) : List Event :=
  v.config.custom.customRules.entries.map fun (id, o) => match v.registry.create id o with
    | .ok r => Analyzer.additionEvent Family.custom.title r.name
    | .error e => warn ("Skipping custom rule '" ++ id ++ "': " ++ e.message)

/-- The analyzers are made. -/
def analyzersEvents (v : Validator) : List Event :=
  let made := v.config.enabledFamilies.flatMap fun f =>
    Analyzer.familyEvents f v.registry ++ if f = .custom then v.customEvents else []
  if v.config.enabledFamilies.isEmpty then
    [warn "No architecture families are enabled; nothing will be checked"]
  else made

/-- Analyzers are run one after the other. -/
def runAnalyzersEvents (mode : Mode) (ctx : Context) (sources : List Source) :
    Bool → List Analyzer → List Event
  | _, [] => []
  | cancelled, a :: rest =>
    let (o, cancelled) := a.analyze mode ctx cancelled sources
    a.outcomeEvent o ::
      if o.cancelled then [warn ("Validation cancelled during " ++ a.name)]
      else runAnalyzersEvents mode ctx sources cancelled rest

/-- All analyzers are run. -/
def runEvents (v : Validator) (mode : Mode) (cancelled : Bool) (sources : List Source)
    (files : List String) : List Event :=
  v.analyzersEvents ++ runAnalyzersEvents mode ⟨v.config, files⟩ sources cancelled v.analyzers

/-- Sources are validated. -/
def sourcesEvents (v : Validator) (mode : Mode) (cancelled : Bool) (sources : List Source) :
    List Event :=
  v.runEvents mode cancelled sources (sources.map (·.path))

/-- Files are read and validated. -/
def filesEvents (v : Validator) (fs : FileSystem) (mode : Mode) (cancelled : Bool)
    (files : List String) : List Event :=
  let (sources, skipped) := loadSources fs files
  skipped.map (fun s => warn ("Skipping " ++ s.path ++ ": " ++ s.reason)) ++
    v.runEvents mode cancelled sources files

/-- Files have been found. -/
def discoveryEvents (found : Except Error (List String)) : List Event :=
  match found with
  | .ok files => [debug ("Discovered " ++ toString files.length ++ " file(s)")]
  | .error _ => []

/-- The files at some roots have been validated. -/
def reportEvent (r : Report) : Event :=
  info ("Validated " ++ toString r.totalFiles ++ " file(s): " ++ toString r.violations.length ++
    " violation(s), " ++ toString r.skipped.length ++ " skipped" ++
    if r.cancelled then " (cancelled)" else "")

/-- The files at some roots are found and validated. -/
def pathsEvents (v : Validator) (fs : FileSystem) (mode : Mode) (cancelled : Bool)
    (roots excludes : List String) : List Event :=
  let found := v.discover fs roots excludes
  discoveryEvents found ++ match found with
    | .ok files =>
      v.filesEvents fs mode cancelled files ++
        [reportEvent (v.validateFiles fs mode cancelled files)]
    | .error _ => []

end Layering.Validator
