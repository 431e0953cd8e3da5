import Layering.Config.Basic
import Layering.Report.Basic

/-!
# What a report shows

A report shows the violations of at least a severity, and no more than a maximum of them.
-/

namespace Layering.Report

/-- How much of a report is shown, and how. -/
structure View where
  useColors : Bool := true
  minSeverity : Severity := .notice
  maxViolations : Option Nat := none
  /-- List the forbidden dependencies of each violation. -/
  showDetails : Bool := true
deriving DecidableEq, Repr

/-- The view a configuration asks for. -/
def View.ofSettings (s : Config.ReportSettings) : View :=
  { useColors := s.useColors
    minSeverity := s.minSeverity
    maxViolations := s.maxViolations }

/-- The violations of at least the view's severity. -/
def matching (view : View) (r : Report) : Violations := r.violations.atLeast view.minSeverity

/-- The violations shown: as many of the matching ones as the view allows. -/
def shown (view : View) (r : Report) : Violations :=
  match view.maxViolations with
  | some n => (matching view r).take n
  | none => matching view r

end Layering.Report
