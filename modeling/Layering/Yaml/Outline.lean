import Layering.Text.Quoted
import Layering.Yaml.Scalar

/-!
# Outlines

The kind and the contents of a value on one line, as messages about unexpected values show it.
-/

namespace Layering.Yaml

open Text

/-- A scalar key of a mapping without its kind. -/
def keyOutline? : Value → Option String
  | .bool b => some (if b then "true" else "false")
  | .int n => some (Number.Binary64.integerText n)
  | .float x => some (floatText x)
  | .string s => some (quoted s)
  | _ => none

mutual

/-- The kind and the contents of a value. -/
def outline : Value → String
  | .null => "Null"
  | .bool b => "Bool(" ++ (if b then "true" else "false") ++ ")"
  | .int n => "Number(" ++ Number.Binary64.integerText n ++ ")"
  | .float x => "Number(" ++ floatText x ++ ")"
  | .string s => "String(" ++ quoted s ++ ")"
  | .sequence items => "Sequence [" ++ outlineItems items ++ "]"
  | .mapping entries => "Mapping \x7b" ++ outlineEntries entries ++ "\x7d"
  | .tagged tag v => "TaggedValue \x7b tag: !" ++ tag ++ ", value: " ++ outline v ++ " \x7d"

def outlineItems : List Value → String
  | [] => ""
  | [v] => outline v
  | v :: w :: rest => outline v ++ ", " ++ outlineItems (w :: rest)

def outlineEntries : List (Value × Value) → String
  | [] => ""
  | [(k, v)] => (keyOutline? k).getD (outline k) ++ ": " ++ outline v
  | (k, v) :: e :: rest =>
    (keyOutline? k).getD (outline k) ++ ": " ++ outline v ++ ", " ++ outlineEntries (e :: rest)

end

end Layering.Yaml
