import Layering.Text.Lowercase

/-!
# Report formats
-/

namespace Layering.Report

/-- How a report is rendered. -/
inductive Format where
  /-- A numbered listing to read. -/
  | human
  /-- A JSON document. -/
  | json
  /-- Annotations for workflows. -/
  | github
deriving DecidableEq, Repr, Inhabited

namespace Format

def name : Format → String
  | .human => "human"
  | .json => "json"
  | .github => "github"

/-- The names of all formats. -/
def names : List String := ["human", "json", "github"]

/-- The format with a name or another name for it. -/
def ofName? (name : String) : Option Format :=
  if name == "human" || name == "console" then some .human
  else if name == "json" then some .json
  else if name == "github" || name == "github-actions" then some .github
  else none

/-- A format by its name in any case; fails with the name in lower case. -/
def parse (text : String) : Except String Format :=
  match ofName? (Text.lowercase text) with
  | some f => .ok f
  | none => .error (Text.lowercase text)

end Format

end Layering.Report
