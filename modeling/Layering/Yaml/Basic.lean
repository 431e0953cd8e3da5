import Layering.Number.Binary64

/-!
# YAML values

Mappings keep their entries in order, and any value can be a key. Two keys are the same when
they are equal as values, where the entries of a mapping have no order and numbers compare by
value within their kind; `1` and `'1'` are different keys.
-/

namespace Layering.Yaml

open Number

/-- A YAML value. -/
inductive Value where
  | null
  | bool (b : Bool)
  | int (n : Int)
  | float (x : Binary64)
  | string (s : String)
  | sequence (items : List Value)
  | mapping (entries : List (Value × Value))
  | tagged (tag : String) (value : Value)
deriving Inhabited

namespace Value

mutual

/-- Equality of values, as keys are compared. -/
def same : Value → Value → Bool
  | .null, .null => true
  | .bool a, .bool b => a == b
  | .int a, .int b => a == b
  | .float a, .float b => a.same b
  | .string a, .string b => a == b
  | .sequence xs, .sequence ys => sameItems xs ys
  | .mapping xs, .mapping ys => xs.length == ys.length && sameEntries xs ys
  | .tagged s v, .tagged t w => s == t && same v w
  | _, _ => false

def sameItems : List Value → List Value → Bool
  | [], [] => true
  | x :: xs, y :: ys => same x y && sameItems xs ys
  | _, _ => false

/-- Every entry on the left has an equal one on the right. -/
def sameEntries : List (Value × Value) → List (Value × Value) → Bool
  | [], _ => true
  | (k, v) :: rest, ys => ys.any (fun e => same k e.1 && same v e.2) && sameEntries rest ys

end

/-- The entries of a mapping. -/
def entries? : Value → Option (List (Value × Value))
  | .mapping entries => some entries
  | _ => none

def bool? : Value → Option Bool
  | .bool b => some b
  | _ => none

def string? : Value → Option String
  | .string s => some s
  | _ => none

/-- A value without the tags around it. -/
def untagged : Value → Value
  | .tagged _ v => v.untagged
  | v => v

end Value

/-- The entries of a mapping, in order. -/
abbrev Entries := List (Value × Value)

namespace Entries

/-- The value under a key. -/
def get? (key : Value) : Entries → Option Value
  | [] => none
  | (k, v) :: rest => if k.same key then some v else get? key rest

/-- The value under a string key. -/
def find? (key : String) (entries : Entries) : Option Value := get? (.string key) entries

/-- Set a value: a key that is present keeps its place, a new one goes to the end. -/
def insert (key value : Value) : Entries → Entries
  | [] => [(key, value)]
  | (k, v) :: rest =>
    if k.same key then (k, value) :: rest else (k, v) :: insert key value rest

/-- Apply `f` to the value under a string key, if it is present. -/
def modify (key : String) (f : Value → Value) : Entries → Entries
  | [] => []
  | (k, v) :: rest =>
    if k.same (.string key) then (k, f v) :: rest else (k, v) :: modify key f rest

/-- Apply `f` to every value. -/
def mapValues (f : Value → Value) (entries : Entries) : Entries :=
  entries.map fun (k, v) => (k, f v)

end Entries

end Layering.Yaml
