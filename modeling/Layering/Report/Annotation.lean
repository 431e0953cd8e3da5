import Layering.Report.Selection

/-!
# Reports as annotations

One line for each violation. A percent sign and line breaks in a message are written as a
percent sign and two hexadecimal digits, so that a message never ends its line.
-/

namespace Layering.Report

/-- A character of a message in an annotation. -/
def escapeChar (c : Char) : List Char :=
  if c == '%' then ['%', '2', '5']
  else if c == '\r' then ['%', '0', 'D']
  else if c == '\n' then ['%', '0', 'A']
  else [c]

/-- A message in an annotation. -/
def escapeMessage (s : String) : String := String.ofList (s.toList.flatMap escapeChar)

/-- How annotations call a severity. -/
def annotationLevel : Severity → String
  | .critical => "error"
  | .error => "error"
  | .warning => "warning"
  | .info => "notice"
  | .notice => "notice"

/-- The annotation of a violation, without the end of its line. -/
def annotation (v : Violation) : String :=
  "::" ++ annotationLevel v.severity ++ " file=" ++ v.path ++ ",title=" ++ v.rule ++ "::" ++
    escapeMessage v.message

/-- The annotations of the violations shown. -/
def annotations (view : View) (r : Report) : String :=
  String.join ((shown view r).map fun v => annotation v ++ "\n")

end Layering.Report
