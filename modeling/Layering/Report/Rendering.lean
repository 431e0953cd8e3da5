import Layering.FileSystem
import Layering.Report.Annotation
import Layering.Report.Document
import Layering.Report.Format
import Layering.Report.Human

/-!
# Rendering reports
-/

namespace Layering.Report

/-- The report in a format. `colors` tells whether the terminal takes colours at all. -/
def render (view : View) (colors : Bool) (r : Report) : Format → String
  | .human => (human view r).render (view.useColors && colors)
  | .json => documentText view r
  | .github => annotations view r

/-- Whether a text fits into a buffer of some bytes. -/
def writeTo (limit : Nat) (text : String) : Except FileFault Unit :=
  if text.utf8ByteSize ≤ limit then .ok () else .error .shortWrite

end Layering.Report
