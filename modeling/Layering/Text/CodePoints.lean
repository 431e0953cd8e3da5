/-!
# Sets of code points

A set of characters as sorted, disjoint ranges, written in the compact text `41-5A 61-7A AA`
(hexadecimal, bounds included) and searched by halving.
-/

namespace Layering.Text

/-- Sorted, disjoint ranges of code points, bounds included. -/
structure CodePoints where
  ranges : Array (Nat × Nat)

namespace CodePoints

/-- The value of a hexadecimal digit. -/
def hexDigit? (c : Char) : Option Nat :=
  if '0' ≤ c && c ≤ '9' then some (c.toNat - 48)
  else if 'A' ≤ c && c ≤ 'F' then some (c.toNat - 55)
  else if 'a' ≤ c && c ≤ 'f' then some (c.toNat - 87)
  else none

/-- A table text read so far: the finished ranges, the lower bound of the open range if its
dash was read, and the number being read. -/
structure Reading where
  done : Array (Nat × Nat) := #[]
  low : Option Nat := none
  current : Option Nat := none

/-- Finish the range being read. -/
def Reading.close (r : Reading) : Reading :=
  match r.current with
  | none => r
  | some n => { done := r.done.push (r.low.getD n, n) }

/-- Read one character of a table text. -/
def Reading.step (r : Reading) (c : Char) : Reading :=
  match hexDigit? c with
  | some d => { r with current := some (r.current.getD 0 * 16 + d) }
  | none => if c == '-' then { r with low := r.current, current := none } else r.close

/-- The ranges a table text lists. -/
def parse (text : String) : CodePoints :=
  ⟨((text.foldl Reading.step {}).close).done⟩

/-- Whether a range between the indices `lo` and `hi` holds `n`. -/
def searchBetween (ranges : Array (Nat × Nat)) (n lo hi : Nat) : Bool :=
  if lo < hi then
    let mid := (lo + hi) / 2
    match ranges[mid]? with
    | none => false
    | some (a, b) =>
      if n < a then searchBetween ranges n lo mid
      else if b < n then searchBetween ranges n (mid + 1) hi
      else true
  else false
termination_by hi - lo

/-- Whether the set holds `c`. -/
def contains (s : CodePoints) (c : Char) : Bool :=
  searchBetween s.ranges c.toNat 0 s.ranges.size

end CodePoints

end Layering.Text
