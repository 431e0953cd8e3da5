import Layering.Log
import Layering.Registry

/-!
# Analyzers

An analyzer judges files by an ordered set of rules. Files are evaluated one after the other or
by parallel workers. A cancelled run evaluates no further file: in sequence that is noticed
before each file, in parallel by each worker on its own, and then only the unbroken leading run
of evaluated files counts.
-/

namespace Layering

/-- An ordered set of rules. -/
structure Analyzer where
  name : String
  rules : List Rule := []

/-- The outcome of an analysis. -/
structure Analysis.Outcome where
  /-- By file, then by rule. -/
  violations : Violations := []
  filesAnalyzed : Nat := 0
  /-- Whether some file was not evaluated. -/
  cancelled : Bool := false

/-- How files are evaluated. -/
inductive Analysis.Mode where
  | sequential
  | parallel
deriving DecidableEq, Repr

namespace Analyzer

open Analysis Log

/-- Add a rule after the others. -/
def add (a : Analyzer) (r : Rule) : Analyzer := { a with rules := a.rules ++ [r] }

/-- The analyzer of a family: those of its built-in rules that a registry has. -/
def ofFamily (f : Family) (registry : Registry) : Analyzer :=
  { name := f.title
    rules := f.rules.filterMap fun id => (registry.instantiate id).toOption }

def ruleNames (a : Analyzer) : List String := a.rules.map Rule.name

/-- Give each rule the options under its name; rules without any keep theirs. -/
def configure (a : Analyzer) (options : Table Options) : Analyzer :=
  { a with rules := a.rules.map fun r => match options.get? r.name with
      | some o => r.configure o
      | none => r }

/-- What the rules have against a file, in the order of the rules. -/
def evaluate (a : Analyzer) (ctx : Context) (f : Source) : Violations :=
  a.rules.filterMap fun r => r.check f ctx

/-- Whether evaluating a file cancels the run. -/
def trips (a : Analyzer) (f : Source) : Bool := a.rules.any fun r => r.trips f

/-! ## Runs over files -/

/-- Evaluate files one after the other until the run is cancelled. Gives what was found in each
file evaluated, and whether the run is cancelled at the end. -/
def evaluateInTurn (a : Analyzer) (ctx : Context) : Bool → List Source → List Violations × Bool
  | true, _ => ([], true)
  | false, [] => ([], false)
  | false, f :: rest =>
    let (found, cancelled) := a.evaluateInTurn ctx (a.trips f) rest
    (a.evaluate ctx f :: found, cancelled)

/-- Evaluate each file whose worker did not see the run cancelled. -/
def evaluateScheduled (a : Analyzer) (ctx : Context) (sawCancelled : List Bool)
    (files : List Source) : List (Option Violations) :=
  List.zipWith (fun f saw => if saw then none else some (a.evaluate ctx f)) files sawCancelled

/-- The results before the first one that is missing. -/
def leadingRun : List (Option Violations) → List Violations
  | some found :: rest => found :: leadingRun rest
  | _ => []

/-- The outcome for `total` files from what was found in those evaluated. -/
def outcome (total : Nat) (found : List Violations) : Outcome :=
  { violations := found.flatten
    filesAnalyzed := found.length
    cancelled := found.length < total }

/-- Analyse files under a schedule: what each worker saw of the cancellation. -/
def analyzeScheduled (a : Analyzer) (ctx : Context) (sawCancelled : List Bool)
    (files : List Source) : Outcome :=
  outcome files.length (leadingRun (a.evaluateScheduled ctx sawCancelled files))

/-- Analyse files in a run that may be cancelled already. Gives the outcome and whether the run
is cancelled afterwards. Parallel workers all see what was the case at the start. -/
def analyze (a : Analyzer) (mode : Mode) (ctx : Context) (cancelled : Bool)
    (files : List Source) : Outcome × Bool :=
  match mode with
  | .sequential =>
    let (found, after) := a.evaluateInTurn ctx cancelled files
    (outcome files.length found, after)
  | .parallel =>
    (a.analyzeScheduled ctx (List.replicate files.length cancelled) files,
      cancelled || files.any a.trips)

/-! ## What the log says -/

/-- A rule is added. -/
def additionEvent (analyzer rule : String) : Event :=
  debug (analyzer ++ ": adding rule '" ++ rule ++ "'")

/-- The rules of a family are looked up. -/
def familyEvents (f : Family) (registry : Registry) : List Event :=
  f.rules.map fun id => match registry.instantiate id with
    | .ok r => additionEvent f.title r.name
    | .error e => warn ("Built-in rule '" ++ id ++ "' unavailable: " ++ e.message)

/-- An analysis is done. -/
def outcomeEvent (a : Analyzer) (o : Outcome) : Event :=
  debug (a.name ++ ": " ++ toString o.filesAnalyzed ++ " file(s), " ++
    toString o.violations.length ++ " violation(s)")

/-- The analyzer and its rules on one line. -/
def outline (a : Analyzer) : String :=
  "Analyzer \x7b name: " ++ Text.quoted a.name ++ ", rules: [" ++
    ", ".intercalate (a.ruleNames.map Text.quoted) ++ "] \x7d"

end Analyzer

namespace Registry

/-- A policy is registered. -/
def registrationEvent (id : String) : Log.Event :=
  Log.debug ("Registering rule factory '" ++ id ++ "'")

/-- The built-in policies are registered. -/
def builtinEvents : List Log.Event := builtinPolicies.map fun p => registrationEvent p.name

end Registry

end Layering
