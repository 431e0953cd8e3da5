import Std.Data.HashSet
import Layering.Source.Import
import Layering.Source.Hint

/-!
# Dependencies

The names a file depends on, trimmed, without repetition, in the order they were first seen.
An index beside the ordered names answers membership.
-/

namespace Layering.Source

open Text

/-- Distinct names in first-seen order, with an index for membership. -/
structure Dependencies where
  ordered : Array String := #[]
  index : Std.HashSet String := ∅

namespace Dependencies

def empty : Dependencies := {}

/-- The names in first-seen order. -/
def toList (d : Dependencies) : List String := d.ordered.toList

def contains (d : Dependencies) (name : String) : Bool := d.index.contains name

/-- Whether `insert` would add the name: trimmed, it is not empty and not present. -/
def isNew (d : Dependencies) (name : String) : Bool :=
  !(strip name).isEmpty && !d.contains (strip name)

/-- Add a trimmed name unless it is empty or present. -/
def insert (d : Dependencies) (name : String) : Dependencies :=
  if d.isNew name then
    { ordered := d.ordered.push (strip name), index := d.index.insert (strip name) }
  else d

/-- The names of a list, inserted in order. -/
def ofList (names : List String) : Dependencies := names.foldl insert empty

def size (d : Dependencies) : Nat := d.ordered.size

def isEmpty (d : Dependencies) : Bool := d.ordered.isEmpty

/-- The dependencies that satisfy `p`, in order. -/
def matching (d : Dependencies) (p : String → Bool) : List String := d.toList.filter p

/-- Whether a dependency is `target` or lives below it. -/
def hasDependency (d : Dependencies) (target : String) : Bool :=
  d.toList.any (isWithin · target)

/-- The dependencies that are, or live below, one of `forbidden`. -/
def findForbidden (d : Dependencies) (forbidden : List String) : List String :=
  d.matching fun name => forbidden.any (isWithin name)

end Dependencies

/-- Everything the text depends on: its imports, then its type hints. -/
def dependenciesOf (content : List Char) : Dependencies :=
  Dependencies.ofList
    ((importsOf content).map (·.path) ++ (hintsOf content).map String.ofList)

end Layering.Source
