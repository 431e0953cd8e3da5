import Layering.Naming.Pattern
import Layering.Options
import Layering.Yaml.Outline

/-!
# Naming rules

Naming rules are given by prefix of a namespace: one entry or a list of entries, each a pattern
or a mapping with a pattern and a description. Entries that cannot be read are collected as
faults and left out.
-/

namespace Layering.Naming

open Yaml

/-- A requirement on names. -/
structure Requirement where
  pattern : String
  description : String
  regex : Regex

/-- The requirements on names below a prefix. -/
structure Scope where
  start : String
  requirements : List Requirement

/-- An entry of the naming rules that cannot be read. -/
inductive RuleFault where
  /-- A prefix that is no scalar. -/
  | key (value : Value)
  | entry (start : String) (fault : Fault)

def RuleFault.message : RuleFault → String
  | .key value => "non-string namespace key " ++ outline value
  | .entry start fault => start ++ ": Pattern error: " ++ fault.message

/-- The text under a key of an entry. -/
def text? (key : String) (entries : Entries) : Option String :=
  (Entries.find? key entries).bind fun v => v.untagged.string?

/-- The pattern of an entry and its description, if it has one. -/
def entryTexts : Value → Except Fault (String × Option String)
  | .string pattern => .ok (pattern, none)
  | .mapping entries => match text? "pattern" entries with
    | some pattern => .ok (pattern, text? "description" entries)
    | none => .error .missing
  | _ => .error .notPattern

/-- Read an entry. -/
def Requirement.ofEntry (entry : Value) : Except Fault Requirement := do
  let (pattern, description) ← entryTexts entry
  let regex ← compile pattern
  return { pattern, description := description.getD ("Must match pattern: " ++ pattern), regex }

/-- The entries given for one prefix. -/
def entriesOf : Value → List Value
  | .sequence items => items
  | single => [single]

/-- The entries of a list that can be read, and the faults of the others. -/
def readEntries (start : String) : List Value → List Requirement × List RuleFault
  | [] => ([], [])
  | entry :: rest =>
    let (requirements, faults) := readEntries start rest
    match Requirement.ofEntry entry with
    | .ok r => (r :: requirements, faults)
    | .error fault => (requirements, .entry start fault :: faults)

/-- The scopes that can be read, and the faults of all entries, both in order. -/
def readScopes : Entries → List Scope × List RuleFault
  | [] => ([], [])
  | (key, value) :: rest =>
    let (scopes, faults) := readScopes rest
    match Options.scalarText? key with
    | none => (scopes, .key key :: faults)
    | some start =>
      let (requirements, own) := readEntries start (entriesOf value)
      ({ start, requirements } :: scopes, own ++ faults)

/-- The naming rules of some options. -/
def ofOptions (o : Options) : List Scope × List RuleFault :=
  match o.mapping? "naming_rules" with
  | some entries => readScopes entries
  | none => ([], [])

end Layering.Naming
