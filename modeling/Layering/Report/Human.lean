import Layering.Number.Binary64
import Layering.Report.Paint
import Layering.Report.Selection

/-!
# Reports to read

A numbered listing of the violations shown, and a summary of the run.
-/

namespace Layering.Report

open Number

/-- `n / d` rounded to a whole number, a half to the even neighbour. -/
def roundDiv (n d : Nat) : Nat :=
  let q := n / d
  let r := n % d
  if 2 * r > d || (2 * r == d && q % 2 == 1) then q + 1 else q

/-- The duration in seconds as a double. -/
def secondsOf (milliseconds : Nat) : Binary64 :=
  .ofFloat (milliseconds.toUInt64.toFloat / 1000.0)

/-- A double with one decimal place, from its exact value. -/
def oneDecimal (x : Binary64) : String :=
  let (m, q) := x.magnitude
  let tenths := roundDiv (m * 10 * Nat.pow 2 q.toNat) (Nat.pow 2 (-q).toNat)
  Binary64.digitsText (tenths / 10) ++ "." ++ Binary64.digitsText (tenths % 10)

/-- The style of a severity. -/
def styleOf : Severity → Style
  | .notice => .blue
  | .info => .cyan
  | .warning => .yellow
  | .error => .red
  | .critical => .whiteOnRed

/-- The forbidden dependencies of a violation, one on a line. -/
def forbiddenLines (v : Violation) : String :=
  if v.forbidden.isEmpty then ""
  else "   Forbidden dependencies:\n" ++
    String.join (v.forbidden.map fun dep => "     - " ++ dep ++ "\n")

/-- One violation of the listing. -/
def entry (view : View) (number : Nat) (v : Violation) : Painted :=
  Painted.plain ("\n" ++ toString number ++ ") ") ++
    Painted.styled (styleOf v.severity) v.severity.label ++ Painted.plain " in " ++
    Painted.styled .cyan v.path ++
    Painted.plain ("\n   Rule: " ++ v.rule ++ "\n   " ++ v.message ++ "\n" ++
      (if view.showDetails then forbiddenLines v else "") ++ "\n")

/-- The violations shown, numbered. -/
def entriesFrom (view : View) (number : Nat) : Violations → Painted
  | [] => []
  | v :: rest => entry view number v ++ entriesFrom view (number + 1) rest

/-- How many violations there are of each severity, the highest first. -/
def countsText (c : Counts) : String :=
  let parts := Severity.all.reverse.filterMap fun s =>
    if c.get s == 0 then none
    else some (toString (c.get s) ++ " " ++ String.ofList (s.label.toList.map Char.toLower))
  if parts.isEmpty then "0 violations" else ", ".intercalate parts

/-- The summary of the run. -/
def summary (r : Report) : Painted :=
  Painted.styled .bold "Summary:" ++
    Painted.plain (" " ++ countsText r.counts ++ " in " ++ toString r.totalFiles ++ " files (" ++
      oneDecimal (secondsOf r.duration) ++ "s)\n" ++
      (if r.skipped.isEmpty then ""
        else "Skipped " ++ toString r.skipped.length ++ " unreadable file(s)\n")) ++
    (if r.cancelled then
        Painted.styled .yellow "Validation was cancelled; results are partial\n"
      else [])

/-- The listing of the violations. -/
def listing (view : View) (r : Report) : Painted :=
  let found := (matching view r).length
  let hidden := found - (shown view r).length
  if found == 0 then
    Painted.styled .green "No architecture violations found!" ++ Painted.plain "\n"
  else
    Painted.styled .red ("Found " ++ toString found ++ " architecture violation(s):\n") ++
      entriesFrom view 1 (shown view r) ++
      Painted.plain (if hidden == 0 then "" else "... and " ++ toString hidden ++ " more not shown\n\n")

/-- The report to read. -/
def human (view : View) (r : Report) : Painted := listing view r ++ summary r

end Layering.Report
