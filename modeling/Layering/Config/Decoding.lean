import Layering.Config.Basic
import Layering.Config.Fault

/-!
# Reading configurations

A configuration from a YAML value. Tags around values do not count, unknown keys are ignored,
and the first fault in the order of the document wins. A structure or a list written as null is
empty.
-/

namespace Layering.Config

open Yaml

abbrev Decoded (α : Type) := Except DecodeFault α

def decodeString (v : Value) : Decoded String :=
  match v.untagged with
  | .string s => .ok s
  | other => .error (.kind other "a string")

def decodeBool (v : Value) : Decoded Bool :=
  match v.untagged with
  | .bool b => .ok b
  | other => .error (.kind other "a boolean")

/-- The items of a list; null has none. -/
def decodeItems (v : Value) : Decoded (List Value) :=
  match v.untagged with
  | .sequence items => .ok items
  | .null => .ok []
  | other => .error (.kind other "a sequence")

/-- The entries of a mapping; null has none. -/
def decodeEntries (expected : String) (v : Value) : Decoded Entries :=
  match v.untagged with
  | .mapping entries => .ok entries
  | .null => .ok []
  | other => .error (.kind other expected)

def decodeStrings (v : Value) : Decoded (List String) := do
  (← decodeItems v).mapM decodeString

def decodeOptions (v : Value) : Decoded Options := do
  return ⟨← decodeEntries "a YAML mapping" v⟩

def decodeSeverity (v : Value) : Decoded Severity :=
  match v.untagged with
  | .int n => if n < Nat.pow 2 63 then .ok (.ofLevel n) else .error (.range n "i64")
  | other => .error (.kind other "i64")

def decodeCount (v : Value) : Decoded Nat :=
  match v.untagged with
  | .int n => if 0 ≤ n then .ok n.toNat else .error (.range n "usize")
  | other => .error (.kind other "usize")

def decodePath (v : Value) : Decoded String :=
  match v.untagged with
  | .string s => .ok s
  | other => .error (.kind other "path string")

/-- A value that null leaves out. -/
def decodeOptional {α : Type} (decode : Value → Decoded α) (v : Value) : Decoded (Option α) :=
  match v with
  | .null => .ok none
  | v => (decode v).map some

/-- A report format: its name, or a tag with that name on null. -/
def decodeFormat (v : Value) : Decoded Report.Format :=
  let named := fun name => match Report.Format.ofName? name with
    | some f => Except.ok f
    | none => .error (.format name)
  match v with
  | .string name => named name
  | .tagged tag inner => do
    let f ← named tag
    match inner.untagged with
    | .null => .ok f
    | other => .error (.kind other "unit")
  | other => .error (.kind other "a Value::Tagged enum")

/-! ## Structures -/

/-- Read the fields of a structure one after the other, each at most once. -/
def decodeFields {σ : Type} (known : List String) (set : σ → String → Value → Decoded σ) :
    List String → σ → Entries → Decoded (σ × List String)
  | seen, s, [] => .ok (s, seen)
  | seen, s, (key, value) :: rest =>
    match key.untagged with
    | .string name =>
      if !known.contains name then decodeFields known set seen s rest
      else if seen.contains name then .error (.duplicate name)
      else match set s name value with
        | .ok s => decodeFields known set (name :: seen) s rest
        | .error fault => .error fault
    | other => .error (.kind other "field identifier")

/-- Read a structure whose missing fields keep the values of `start`. -/
def decodeStruct {σ : Type} (expected : String) (known : List String) (start : σ)
    (set : σ → String → Value → Decoded σ) (v : Value) : Decoded σ := do
  let (s, _) ← decodeFields known set [] start (← decodeEntries expected v)
  return s

/-- Read a structure all of whose fields have to be there. -/
def decodeFullStruct {σ : Type} (expected : String) (known : List String) (start : σ)
    (set : σ → String → Value → Decoded σ) (v : Value) : Decoded σ := do
  let (s, seen) ← decodeFields known set [] start (← decodeEntries expected v)
  match known.find? fun name => !seen.contains name with
  | some name => .error (.missing name)
  | none => return s

/-- Read the entries of a table of options. -/
def decodeTableEntries : Table Options → Entries → Decoded (Table Options)
  | t, [] => .ok t
  | t, (key, value) :: rest => do
    let name ← decodeString key
    let options ← decodeOptions value
    decodeTableEntries (t.insert name options) rest

def decodeTable (v : Value) : Decoded (Table Options) := do
  decodeTableEntries .empty (← decodeEntries "a map" v)

def FamilySettings.decode : Value → Decoded FamilySettings :=
  decodeStruct "struct FamilyConfig" ["enabled", "config", "rules", "custom_rules"] {}
    fun s name v => match name with
      | "enabled" => do return { s with enabled := ← decodeBool v }
      | "config" => do return { s with options := ← decodeOptions v }
      | "rules" => do return { s with rules := ← decodeTable v }
      | "custom_rules" => do return { s with customRules := ← decodeTable v }
      | _ => .ok s

def PathSettings.decode : Value → Decoded PathSettings :=
  decodeStruct "struct PathConfig" ["extensions", "exclude_patterns"] {}
    fun s name v => match name with
      | "extensions" => do return { s with extensions := ← decodeStrings v }
      | "exclude_patterns" => do return { s with excludes := ← decodeStrings v }
      | _ => .ok s

def ReportSettings.decode : Value → Decoded ReportSettings :=
  decodeStruct "struct ReportConfig"
    ["format", "min_severity", "use_colors", "max_violations", "output"] {}
    fun s name v => match name with
      | "format" => do return { s with format := ← decodeFormat v }
      | "min_severity" => do return { s with minSeverity := ← decodeSeverity v }
      | "use_colors" => do return { s with useColors := ← decodeBool v }
      | "max_violations" => do return { s with maxViolations := ← decodeOptional decodeCount v }
      | "output" => do return { s with output := ← decodeOptional decodePath v }
      | _ => .ok s

/-- Read the settings of all families. -/
def decodeAnalyzers (c : Config) : Value → Decoded Config :=
  decodeFullStruct "struct AnalyzersConfig" (Family.all.map Family.key) c
    fun c name v => match Family.ofKey? name with
      | some f => do
        let s ← FamilySettings.decode v
        return c.modifyFamily f fun _ => s
      | none => .ok c

/-- Read a configuration. -/
def decode : Value → Decoded Config :=
  decodeFullStruct "struct GuardianConfig" ["version", "analyzers", "paths", "report"] default
    fun c name v => match name with
      | "version" => do return { c with version := ← decodeString v }
      | "analyzers" => decodeAnalyzers c v
      | "paths" => do return { c with paths := ← PathSettings.decode v }
      | "report" => do return { c with report := ← ReportSettings.decode v }
      | _ => .ok c

end Layering.Config
