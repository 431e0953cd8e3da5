import Layering.Config.Basic
import Layering.Error
import Layering.Source.Basic
import Layering.Violation

/-!
# Policies

A policy judges a file by its facts, under options. It has at most one thing against a file. A
policy with options is a rule.
-/

namespace Layering

/-- What a policy sees besides the file. -/
structure Context where
  config : Config
  /-- The paths of all files of the run. -/
  files : List String

/-- A policy that files are judged by. -/
structure Policy where
  /-- A family and a policy with a dot between them. -/
  name : String
  description : String
  /-- Whether the options can be used. -/
  validate : Options → Except Error Unit := fun _ => .ok ()
  check : Options → Source → Context → Option Violation
  /-- Whether judging a file cancels the run. -/
  trips : Options → Source → Bool := fun _ _ => false

/-- A policy with options. -/
structure Rule where
  policy : Policy
  options : Options := {}

namespace Rule

def name (r : Rule) : String := r.policy.name

def description (r : Rule) : String := r.policy.description

/-- Replace the options as a whole. -/
def configure (r : Rule) (options : Options) : Rule := { r with options }

def validate (r : Rule) : Except Error Unit := r.policy.validate r.options

/-- What the rule has against a file. -/
def check (r : Rule) (f : Source) (ctx : Context) : Option Violation :=
  r.policy.check r.options f ctx

/-- Whether judging a file cancels the run. -/
def trips (r : Rule) (f : Source) : Bool := r.policy.trips r.options f

end Rule

namespace Policy

/-- The parts of a rule's name consist of these. -/
def isNamePart (part : List Char) : Bool :=
  !part.isEmpty && part.all fun c => c.isAlphanum || c == '_' || c == '-'

/-- Family and policy of a rule's name, which stand around its only dot. -/
def splitName? (name : String) : Option (String × String) :=
  let chars := name.toList
  match chars.dropWhile (· != '.') with
  | [] => none
  | _ :: policy =>
    let family := chars.takeWhile (· != '.')
    if isNamePart family && isNamePart policy then
      some (String.ofList family, String.ofList policy)
    else none

/-- A violation that lists the dependencies of a file that are forbidden; nothing when none
is. -/
def forbid (rule summary : String) (severity : Severity) (isForbidden : String → Bool)
    (f : Source) : Option Violation :=
  match f.dependencies.matching isForbidden with
  | [] => none
  | forbidden => some
    { path := f.path
      message := summary ++ " Found dependencies: " ++ ", ".intercalate forbidden
      rule, severity
      details :=
        [("forbidden_dependencies", Json.strings forbidden),
          ("all_dependencies", Json.strings f.dependencies.toList)] }

end Policy

end Layering
