import Layering.Json.Printer
import Layering.Json.Reader
import Layering.Path
import Layering.Severity

/-!
# Violations

A violation is what one rule has against one file. Its details are members in the order they
were given. Violations are written as JSON objects and read back from objects or arrays.
-/

namespace Layering

/-- What a rule has against a file. -/
structure Violation where
  path : String
  message : String
  rule : String
  severity : Severity
  details : List (String × Json) := []

namespace Violation

/-- Attach a detail: a key that is present keeps its place and takes the new value. -/
def withDetail (v : Violation) (key : String) (value : Json) : Violation :=
  { v with details := Json.insert key value v.details }

/-- The detail under a key. -/
def detail? (v : Violation) (key : String) : Option Json := Json.lookup key v.details

/-- The strings of a detail that is an array. -/
def detailStrings (v : Violation) (key : String) : List String :=
  match v.detail? key with
  | some (.array items) => items.filterMap fun item => match item with
    | .string s => some s
    | _ => none
  | _ => []

/-- The dependencies the rule forbids. -/
def forbidden (v : Violation) : List String := v.detailStrings "forbidden_dependencies"

/-- The dependencies the rule looked at. -/
def dependencies (v : Violation) : List String := v.detailStrings "all_dependencies"

/-- A violation on one line, with a star for each level. -/
def text (v : Violation) : String :=
  "[" ++ String.ofList (List.replicate v.severity.level '*') ++ "] " ++ v.rule ++ ": " ++
    v.message ++ " in " ++ v.path

/-- Equality, in which details have no order and paths compare by component. -/
def same (v w : Violation) : Bool :=
  Path.same v.path w.path && v.message == w.message && v.rule == w.rule &&
    v.severity == w.severity && Json.same (.object v.details) (.object w.details)

/-! ## As JSON -/

/-- A violation as a JSON object; no details, no member for them. -/
def toJson (v : Violation) : Json :=
  .object <|
    [("file_path", .string v.path), ("message", .string v.message), ("rule_name", .string v.rule),
      ("severity", .int v.severity.level)] ++
    if v.details.isEmpty then [] else [("details", .object v.details)]

/-- The string under a key that stands exactly once. -/
def stringMember? (key : String) (members : List (String × Json)) : Option String :=
  match members.filter (·.1 == key) with
  | [(_, .string s)] => some s
  | _ => none

/-- A severity from a JSON integer of 64 bits. -/
def severity? : Json → Option Severity
  | .int n => if n < Nat.pow 2 63 then some (.ofLevel n) else none
  | _ => none

/-- Details from a JSON object. -/
def details? : Json → Option (List (String × Json))
  | .object members => some members
  | _ => none

/-- A violation from the members of an object. Each of its keys stands at most once, and all but
the details have to be there; others are ignored. -/
def ofMembers? (members : List (String × Json)) : Option Violation := do
  let path ← stringMember? "file_path" members
  let message ← stringMember? "message" members
  let rule ← stringMember? "rule_name" members
  let severity ← match members.filter (·.1 == "severity") with
    | [(_, j)] => severity? j
    | _ => none
  let details ← match members.filter (·.1 == "details") with
    | [] => some []
    | [(_, j)] => details? j
    | _ => none
  return { path, message, rule, severity, details }

/-- A violation from the items of an array, in the order of the fields. -/
def ofItems? : List Json → Option Violation
  | [.string path, .string message, .string rule, severity] =>
    (severity? severity).map fun severity => { path, message, rule, severity }
  | [.string path, .string message, .string rule, severity, details] =>
    (severity? severity).bind fun severity => (details? details).map fun details =>
      { path, message, rule, severity, details }
  | _ => none

/-- A violation from a JSON value. -/
def ofJson? : Json → Option Violation
  | .object members => ofMembers? members
  | .array items => ofItems? items
  | _ => none

/-- A violation from a JSON text, in which a repeated key of the object is a fault. -/
def parse? (text : String) : Option Violation :=
  match Json.parseMembers? text with
  | some members => ofMembers? members
  | none => (Json.parse? text).bind fun j => match j with
    | .array items => ofItems? items
    | _ => none

end Violation

/-! ## Collections -/

/-- Violations in the order they were found. -/
abbrev Violations := List Violation

/-- How many violations there are of each severity. -/
structure Counts where
  notice : Nat := 0
  info : Nat := 0
  warning : Nat := 0
  error : Nat := 0
  critical : Nat := 0
deriving DecidableEq, Repr

namespace Counts

/-- Count one violation more. -/
def add (c : Counts) : Severity → Counts
  | .notice => { c with notice := c.notice + 1 }
  | .info => { c with info := c.info + 1 }
  | .warning => { c with warning := c.warning + 1 }
  | .error => { c with error := c.error + 1 }
  | .critical => { c with critical := c.critical + 1 }

def get (c : Counts) : Severity → Nat
  | .notice => c.notice
  | .info => c.info
  | .warning => c.warning
  | .error => c.error
  | .critical => c.critical

def total (c : Counts) : Nat := c.notice + c.info + c.warning + c.error + c.critical

end Counts

namespace Violations

/-- The violations of at least a severity, in order. -/
def atLeast (vs : Violations) (min : Severity) : Violations :=
  vs.filter fun v => min ≤ v.severity

/-- The violations of one rule, in order. -/
def ofRule (vs : Violations) (rule : String) : Violations := vs.filter (·.rule == rule)

/-- How many violations there are of each severity. -/
def counts (vs : Violations) : Counts := vs.foldl (fun c v => c.add v.severity) {}

/-- Whether two collections hold the same violations in the same order. -/
def same : Violations → Violations → Bool
  | [], [] => true
  | v :: vs, w :: ws => v.same w && same vs ws
  | _, _ => false

/-- The lines of a numbered list. -/
def numbered (n : Nat) : Violations → String
  | [] => ""
  | v :: rest => toString n ++ ". " ++ v.text ++ "\n" ++ numbered (n + 1) rest

/-- The collection as a numbered list. -/
def text (vs : Violations) : String :=
  if vs.isEmpty then "No violations found."
  else "Found " ++ toString vs.length ++ " violation(s):\n\n" ++ numbered 1 vs

/-- The collection as a JSON array. -/
def toJson (vs : Violations) : Json := .array (vs.map Violation.toJson)

/-- A collection from a JSON array. -/
def ofJson? : Json → Option Violations
  | .array items => items.mapM Violation.ofJson?
  | _ => none

end Violations

end Layering
