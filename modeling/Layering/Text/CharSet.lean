import Layering.Text.Category
import Layering.Text.Fold

/-!
# Sets of characters

A set of characters by its membership test, with a count of the ranges it was built from.
-/

namespace Layering.Text

/-- A set of characters. -/
structure CharSet where
  contains : Char → Bool
  /-- How many ranges the set was built from. -/
  pieces : Nat := 1
  /-- The set was built from ASCII characters only. -/
  ascii : Bool := false

namespace CharSet

def empty : CharSet := ⟨fun _ => false, 0, true⟩

def all : CharSet := { contains := fun _ => true }

def singleton (c : Char) : CharSet := ⟨(· == c), 1, c.toNat < 128⟩

/-- The characters from `lo` to `hi`, bounds included. -/
def range (lo hi : Char) : CharSet := ⟨fun c => lo ≤ c && c ≤ hi, 1, hi.toNat < 128⟩

def ofCodePoints (s : CodePoints) : CharSet := { contains := s.contains, pieces := s.ranges.size }

/-- The characters of some general categories. -/
def ofCategories (gs : List Category) : CharSet :=
  { contains := fun c => gs.any (·.contains c)
    pieces := gs.foldl (fun n g => n + g.codePoints.ranges.size) 0 }

def union (s t : CharSet) : CharSet :=
  ⟨fun c => s.contains c || t.contains c, s.pieces + t.pieces, s.ascii && t.ascii⟩

def inter (s t : CharSet) : CharSet :=
  ⟨fun c => s.contains c && t.contains c, s.pieces + t.pieces, s.ascii || t.ascii⟩

def diff (s t : CharSet) : CharSet :=
  ⟨fun c => s.contains c && !t.contains c, s.pieces + t.pieces, s.ascii⟩

/-- The characters in exactly one of the two sets. -/
def symmDiff (s t : CharSet) : CharSet :=
  ⟨fun c => s.contains c != t.contains c, s.pieces + t.pieces, s.ascii && t.ascii⟩

def compl (s : CharSet) : CharSet :=
  { contains := fun c => !s.contains c, pieces := s.pieces + 1 }

/-- The characters that equal a member up to case. -/
def folded (s : CharSet) : CharSet :=
  { s with
    contains := fun c => (caseVariants c).any s.contains
    pieces := 2 * s.pieces }

/-- The characters that equal a member up to the case of ASCII letters. -/
def foldedAscii (s : CharSet) : CharSet :=
  { s with
    contains := fun c => s.contains c || s.contains c.toLower || s.contains c.toUpper
    pieces := 2 * s.pieces }

/-- The union of several sets. -/
def unions (sets : List CharSet) : CharSet := sets.foldl union empty

/-- The set of the characters listed as ranges. -/
def ofRanges (ranges : List (Char × Char)) : CharSet :=
  unions (ranges.map fun (lo, hi) => range lo hi)

end CharSet

end Layering.Text
