import Layering.Number.Binary64

/-!
# JSON values

Objects keep their members in the order they were written, and numbers are either integers or
doubles.
-/

namespace Layering

open Number

/-- A JSON value. -/
inductive Json where
  | null
  | bool (b : Bool)
  | int (n : Int)
  | float (x : Binary64)
  | string (s : String)
  | array (items : List Json)
  | object (members : List (String × Json))
deriving Inhabited

namespace Json

/-- The value of the member called `key` in a list of members. -/
def lookup (key : String) (members : List (String × Json)) : Option Json :=
  (members.find? (·.1 == key)).map (·.2)

/-- Set a member: a key that is present keeps its place, a new one goes to the end. -/
def insert (key : String) (value : Json) : List (String × Json) → List (String × Json)
  | [] => [(key, value)]
  | (k, v) :: rest => if k == key then (k, value) :: rest else (k, v) :: insert key value rest

/-- Build the members of an object from pairs in order. -/
def ofPairs (pairs : List (String × Json)) : List (String × Json) :=
  pairs.foldl (fun members p => insert p.1 p.2 members) []

/-- A list of strings as an array. -/
def strings (items : List String) : Json :=
  .array (items.map .string)

mutual

/-- Equality of values, in which the members of an object have no order and numbers compare
by value within their kind. -/
def same : Json → Json → Bool
  | .null, .null => true
  | .bool a, .bool b => a == b
  | .int a, .int b => a == b
  | .float a, .float b => a == b || (a.isZero && b.isZero)
  | .string a, .string b => a == b
  | .array xs, .array ys => sameItems xs ys
  | .object xs, .object ys => xs.length == ys.length && sameMembers xs ys
  | _, _ => false

def sameItems : List Json → List Json → Bool
  | [], [] => true
  | x :: xs, y :: ys => same x y && sameItems xs ys
  | _, _ => false

/-- Every member on the left has an equal one on the right. -/
def sameMembers : List (String × Json) → List (String × Json) → Bool
  | [], _ => true
  | (k, v) :: rest, ys =>
    (match lookup k ys with
      | some w => same v w
      | none => false) && sameMembers rest ys

end

end Json

end Layering
