import Layering.Report.Timestamp
import Layering.Violation

/-!
# Reports

A report collects the violations of a run in the order they were found, keeps count of them by
severity, and remembers what else happened: files that could not be read, and whether the run
was cancelled.
-/

namespace Layering

/-- A file that could not be read. -/
structure Report.Skipped where
  path : String
  reason : String
deriving DecidableEq, Repr

/-- The outcome of a run. -/
structure Report where
  violations : Violations := []
  counts : Counts := {}
  /-- How many files were analysed. -/
  totalFiles : Nat := 0
  skipped : List Report.Skipped := []
  /-- How long the run took, in milliseconds. -/
  duration : Nat := 0
  finishedAt : Report.Timestamp := {}
  cancelled : Bool := false
  /-- The fingerprint of the configuration of the run. -/
  fingerprint : Option String := none

namespace Report

def empty : Report := {}

/-- Add a violation and count it. -/
def add (r : Report) (v : Violation) : Report :=
  { r with violations := r.violations ++ [v], counts := r.counts.add v.severity }

/-- Add violations in order. -/
def addAll (r : Report) (vs : Violations) : Report := vs.foldl add r

/-- Add a file that could not be read. -/
def skip (r : Report) (path reason : String) : Report :=
  { r with skipped := r.skipped ++ [⟨path, reason⟩] }

def setFiles (r : Report) (n : Nat) : Report := { r with totalFiles := n }

def setDuration (r : Report) (milliseconds : Nat) : Report := { r with duration := milliseconds }

def setFinishedAt (r : Report) (t : Timestamp) : Report := { r with finishedAt := t }

def setFingerprint (r : Report) (text : String) : Report := { r with fingerprint := some text }

def setCancelled (r : Report) (b : Bool) : Report := { r with cancelled := b }

def hasViolations (r : Report) : Bool := !r.violations.isEmpty

/-- Whether there is a violation of at least a severity. -/
def hasViolationsAt (r : Report) (min : Severity) : Bool :=
  r.violations.any fun v => min ≤ v.severity

end Report

end Layering
