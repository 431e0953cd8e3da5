import Layering.Config.Decoding
import Layering.Config.Encoding
import Layering.Naming.Rules
import Layering.Yaml.Reader

/-!
# Loading configurations

A document is merged over the defaults, then read and checked. A configuration can also be put
together step by step from the defaults.
-/

namespace Layering.Config

open Yaml

/-! ## Checking -/

/-- Check an exclude pattern: if it looks like a glob it has to be one. -/
def checkExclude (pattern : String) : Except Fault Unit :=
  let text := PathFilter.bare pattern
  if Glob.looksLike text then
    match Glob.parse text with
    | .ok _ => .ok ()
    | .error fault => .error (.exclude pattern fault)
  else .ok ()

/-- The pattern of an entry of the naming rules. -/
def entryPattern? : Value → Option String
  | .string pattern => some pattern
  | .mapping entries => Naming.text? "pattern" entries
  | _ => none

/-- Check one entry of the naming rules. -/
def checkNamingEntry (entry : Value) : Except Fault Unit :=
  match entryPattern? entry with
  | none => .error .namingWithoutPattern
  | some pattern => match Naming.compile pattern with
    | .ok _ => .ok ()
    | .error fault => .error (.naming fault)

/-- Check the naming rules of some options. -/
def checkNaming (o : Options) : Except Fault Unit :=
  match o.mapping? "naming_rules" with
  | none => .ok ()
  | some entries => entries.forM fun (_, value) => (Naming.entriesOf value).forM checkNamingEntry

/-- Check the settings of a family. -/
def checkFamily (c : Config) (f : Family) : Except Fault Unit := do
  let s := c.family f
  s.rules.entries.forM fun (rule, overrides) =>
    if f.rules.contains rule then checkNaming (s.options.merged overrides)
    else .error (.unknownRule rule f)
  checkNaming s.options

/-- Check a configuration. -/
def validate (c : Config) : Except Fault Unit := do
  if !supportedVersions.contains c.version then .error (.version c.version)
  c.paths.excludes.forM checkExclude
  Family.all.forM c.checkFamily

/-! ## Documents -/

/-- An empty mapping for null. -/
def fillIn (v : Value) : Value :=
  match v.untagged with
  | .null => .mapping []
  | _ => v

/-- Apply `f` to the entries of a mapping, inside its tags. -/
def onEntries (f : Entries → Entries) : Value → Value
  | .mapping entries => .mapping (f entries)
  | .tagged tag v => .tagged tag (onEntries f v)
  | v => v

/-- A table of rules in which null, as a whole or as an entry, is an empty mapping. -/
def normalizeTable (v : Value) : Value :=
  onEntries (Entries.mapValues fillIn) (fillIn v)

/-- The settings of a family with empty mappings for null. -/
def normalizeFamily (v : Value) : Value :=
  onEntries (fun entries =>
    Entries.modify "custom_rules" normalizeTable
      (Entries.modify "rules" normalizeTable (Entries.modify "config" fillIn entries))) v

/-- A document whose families have empty mappings for null. -/
def normalize (v : Value) : Value :=
  onEntries (Entries.modify "analyzers" (onEntries (Entries.mapValues normalizeFamily))) v

/-- A configuration from a document, merged over the defaults. -/
def ofDocument (document : Value) : Except Fault Config := do
  let overlay ← match document with
    | .null => .ok (.mapping [])
    | .mapping entries => .ok (.mapping entries)
    | _ => .error .rootNotMapping
  match decode (normalize (merge default.encode overlay)) with
  | .error fault => .error (.invalid fault)
  | .ok c => do
    c.validate
    return c

/-- A configuration from a text. -/
def load (text : String) : Except Fault Config :=
  match Yaml.parse? text with
  | none => .error .unparsable
  | some document => ofDocument document

/-- A configuration from a file. -/
def loadFile (fs : FileSystem) (path : String) : Except Fault Config :=
  match fs.readText path with
  | .error fault => .error (.unreadable path fault)
  | .ok text => match load text with
    | .ok c => .ok c
    | .error fault => .error (.inFile path fault)

/-- The names configuration files have, the first ones first. -/
def fileNames : List String :=
  ["architecture_guardian.yaml", "architecture_guardian.yml", ".architecture-guardian.yaml"]

/-- The nearest configuration file in a directory or above it. -/
def discover (fs : FileSystem) (start : String) : Option String :=
  (Path.ancestors start).findSome? fun directory =>
    (fileNames.map (Path.join directory)).find? fs.isFile

/-! ## Step by step -/

/-- A step in putting a configuration together. -/
inductive Step where
  | enable (f : Family)
  | option (f : Family) (key : String) (value : Value)
  | override (f : Family) (rule : String) (options : Options)
  | customRule (id : String) (options : Options)
  | exclude (pattern : String)
  | minSeverity (severity : Severity)

/-- Take a step. -/
def apply (c : Config) : Step → Config
  | .enable f => c.enable f
  | .option f key value => c.modifyFamily f fun s => { s with options := s.options.withValue key value }
  | .override f rule options =>
    c.modifyFamily f fun s => { s with rules := s.rules.insert rule options }
  | .customRule id options =>
    { c with custom := { c.custom with customRules := c.custom.customRules.insert id options } }
  | .exclude pattern => { c with paths := { c.paths with excludes := c.paths.excludes ++ [pattern] } }
  | .minSeverity severity => { c with report := { c.report with minSeverity := severity } }

/-- Take steps from the defaults on and check the result. -/
def build (steps : List Step) : Except Fault Config := do
  let c := steps.foldl apply default
  c.validate
  return c

end Layering.Config
