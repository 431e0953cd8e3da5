import Layering.Config.Basic
import Layering.Config.Fault
import Layering.Yaml.Printer
import Layering.Json.Printer
import Layering.SipHash
import Layering.Text.Quoted

/-!
# Writing configurations

A configuration as a YAML value and as YAML and JSON text, and the fingerprint of its text.
-/

namespace Layering.Config

open Yaml

/-- The entries of a structure: fields in order. -/
def fields (pairs : List (String × Value)) : Value :=
  .mapping (pairs.map fun (k, v) => (.string k, v))

def encodeStrings (items : List String) : Value := .sequence (items.map .string)

/-- A table of options; nothing when it is empty. -/
def encodeTable (key : String) (t : Table Options) : List (String × Value) :=
  if t.isEmpty then [] else [(key, fields (t.entries.map fun (k, o) => (k, .mapping o.entries)))]

def FamilySettings.encode (s : FamilySettings) : Value :=
  fields ([("enabled", .bool s.enabled), ("config", .mapping s.options.entries)] ++
    encodeTable "rules" s.rules ++ encodeTable "custom_rules" s.customRules)

def PathSettings.encode (s : PathSettings) : Value :=
  fields [("extensions", encodeStrings s.extensions), ("exclude_patterns", encodeStrings s.excludes)]

def ReportSettings.encode (s : ReportSettings) : Value :=
  fields [("format", .string s.format.name), ("min_severity", .int s.minSeverity.level),
    ("use_colors", .bool s.useColors),
    ("max_violations", match s.maxViolations with
      | some n => .int n
      | none => .null),
    ("output", match s.output with
      | some path => .string path
      | none => .null)]

/-- The configuration as a YAML value. -/
def encode (c : Config) : Value :=
  fields [("version", .string c.version),
    ("analyzers", fields (Family.all.map fun f => (f.key, (c.family f).encode))),
    ("paths", c.paths.encode),
    ("report", c.report.encode)]

/-- The configuration as YAML text. -/
def toYaml (c : Config) : String := render c.encode

/-- A hash of the configuration's text, in hexadecimal. -/
def fingerprint (c : Config) : String :=
  Text.hexText (SipHash.hash (c.toYaml.toUTF8.toList ++ [0xFF])).toNat

/-! ## JSON -/

/-- The text of a key in JSON. -/
def jsonKey : Value → Except KeyFault String
  | .string s => .ok s
  | .bool b => .ok (if b then "true" else "false")
  | .int n => .ok (Number.Binary64.integerText n)
  | .float x => if x.isFinite then .ok x.dataText else .error .notFinite
  | _ => .error .notText

mutual

/-- A YAML value as JSON; a tag becomes the key of an object. -/
def jsonOf : Value → Except KeyFault Json
  | .null => .ok .null
  | .bool b => .ok (.bool b)
  | .int n => .ok (.int n)
  | .float x => .ok (.float x)
  | .string s => .ok (.string s)
  | .sequence items => (jsonItems items).map .array
  | .mapping entries => (jsonEntries entries).map .object
  | .tagged tag v => (jsonOf v).map fun j => .object [("!" ++ tag, j)]

def jsonItems : List Value → Except KeyFault (List Json)
  | [] => .ok []
  | v :: rest => do return (← jsonOf v) :: (← jsonItems rest)

def jsonEntries : List (Value × Value) → Except KeyFault (List (String × Json))
  | [] => .ok []
  | (k, v) :: rest => do
    let key ← jsonKey k
    return (key, ← jsonOf v) :: (← jsonEntries rest)

end

/-- The configuration as JSON text over several lines. -/
def toJson (c : Config) : Except Fault String :=
  match jsonOf c.encode with
  | .ok j => .ok j.pretty
  | .error fault => .error (.unwritable fault)

end Layering.Config
