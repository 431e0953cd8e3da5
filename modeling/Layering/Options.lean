import Layering.Yaml.Merge
import Layering.Yaml.Scalar

/-!
# Options

The options of a rule: a mapping whose entries stay in order. Lists of texts may be given as a
single scalar, and numbers and booleans count as the texts they are written as.
-/

namespace Layering

open Yaml

/-- The options of a rule. -/
structure Options where
  entries : Entries := []
deriving Inhabited

namespace Options

def empty : Options := {}

/-- The value under a key. -/
def get? (o : Options) (key : String) : Option Value := Entries.find? key o.entries

def isEmpty (o : Options) : Bool := o.entries.isEmpty

/-- A string, a number or a boolean as text. -/
def scalarText? : Value → Option String
  | .string s => some s
  | .int n => some (Number.Binary64.integerText n)
  | .float x => some (floatText x)
  | .bool b => some (if b then "true" else "false")
  | _ => none

/-- The list of texts under a key: the scalars of a sequence, a single scalar, or none for
null. -/
def list? (o : Options) (key : String) : Option (List String) :=
  match o.get? key with
  | none => none
  | some (.sequence items) => some (items.filterMap scalarText?)
  | some .null => some []
  | some other => (scalarText? other).map ([·])

/-- The list of texts under a key, or `standard` when there is none. -/
def listOr (o : Options) (key : String) (standard : List String) : List String :=
  (o.list? key).getD standard

/-- The boolean under a key; tags around it do not count. -/
def flag? (o : Options) (key : String) : Option Bool :=
  (o.get? key).bind fun v => v.untagged.bool?

/-- The boolean under a key, or `standard` when there is none. -/
def flagOr (o : Options) (key : String) (standard : Bool) : Bool := (o.flag? key).getD standard

/-- The entries of the mapping under a key; tags around it do not count. -/
def mapping? (o : Options) (key : String) : Option Entries :=
  (o.get? key).bind fun v => v.untagged.entries?

/-- Set a value: a key that is present keeps its place. -/
def withValue (o : Options) (key : String) (value : Value) : Options :=
  ⟨Entries.insert (.string key) value o.entries⟩

def withList (o : Options) (key : String) (items : List String) : Options :=
  o.withValue key (.sequence (items.map .string))

def withFlag (o : Options) (key : String) (value : Bool) : Options := o.withValue key (.bool value)

/-- The options with others merged on top. -/
def merged (o overrides : Options) : Options := ⟨mergeEntries o.entries overrides.entries⟩

end Options

end Layering
