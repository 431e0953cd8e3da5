import Layering.Text.Scan

/-!
# Qualified names

Names are written with backslashes between their segments. `isWithin` is the order by leading
segments, `isCalled` the order by trailing ones.
-/

namespace Layering.Source

open Text

/-- The segments of a name between its backslashes. -/
def segments (name : String) : List (List Char) :=
  name.toList.splitOnP (· == '\\')

/-- The segment after the last backslash. -/
def lastSegment (name : String) : String :=
  String.ofList ((name.toList.reverse.takeWhile (· != '\\')).reverse)

/-- Whether `name` is `base` or lives below it. -/
def isWithin (name base : String) : Bool :=
  name == base ||
    match literal? base.toList name.toList with
    | some (c :: _) => c == '\\'
    | _ => false

/-- Whether `name` is `short` or ends in a backslash and `short`. -/
def isCalled (name short : String) : Bool :=
  name == short ||
    match literal? short.toList.reverse name.toList.reverse with
    | some (c :: _) => c == '\\'
    | _ => false

/-- A namespace and a type name as one name, empty if either is missing. -/
def qualify (space typeName : String) : String :=
  if space.isEmpty || typeName.isEmpty then "" else space ++ "\\" ++ typeName

/-- Whether a name contains one of the patterns: membership in a layer. -/
def inLayer (name : String) (patterns : List String) : Bool :=
  patterns.any fun pattern => contains name pattern

end Layering.Source
