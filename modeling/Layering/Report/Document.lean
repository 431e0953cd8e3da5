import Layering.Report.Selection

/-!
# Reports as JSON
-/

namespace Layering.Report

/-- A file that could not be read, as JSON. -/
def Skipped.toJson (s : Skipped) : Json :=
  .object [("path", .string s.path), ("reason", .string s.reason)]

/-- The report as a JSON value. -/
def document (view : View) (r : Report) : Json :=
  .object
    [("violations", (shown view r).toJson),
      ("summary", .object
        [("total_files", .int r.totalFiles),
          ("skipped_files", .array (r.skipped.map Skipped.toJson)),
          ("violations_by_severity", .object
            (Severity.all.map fun s => (s.label, .int (r.counts.get s)))),
          ("total_violations", .int r.counts.total),
          ("reported_violations", .int (shown view r).length),
          ("execution_time_ms", .int r.duration),
          ("validated_at", .string r.finishedAt.text),
          ("cancelled", .bool r.cancelled)]),
      ("config_fingerprint", match r.fingerprint with
        | some text => .string text
        | none => .null)]

/-- The report as JSON text. -/
def documentText (view : View) (r : Report) : String := (document view r).pretty ++ "\n"

end Layering.Report
