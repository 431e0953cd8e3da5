import Layering.Yaml.Lexer
import Layering.Yaml.Node
import Layering.Yaml.Scalar

/-!
# Reading YAML

The value of a text with a single document: references replaced by what they stand for, plain
scalars resolved, local tags kept. Collections may nest 128 deep, references may be followed a
hundred times for each node of the document, and a mapping must not repeat a key.
-/

namespace Layering.Yaml

/-- The name of a local tag; tags of other kinds are not kept. -/
def localTag? (tag : Option String) : Option String :=
  tag.bind fun t => match t.toList with
    | ['!'] => some "!"
    | '!' :: rest => some (String.ofList rest)
    | _ => none

/-- The value of a scalar that is not given a local tag. -/
def scalarValue (text : String) (plain : Bool) (tag : Option String) : Option Value :=
  match tag with
  | none => if plain then resolvePlain text else some (.string text)
  | some t =>
    if t == "tag:yaml.org,2002:bool" then (boolOf text).map .bool
    else if t == "tag:yaml.org,2002:int" then
      match integerOf text.toList with
      | some (some n) => some (.int n)
      | _ => none
    else if t == "tag:yaml.org,2002:float" then (doubleOf text.toList).map .float
    else if t == "tag:yaml.org,2002:null" then if isNullText text then some .null else none
    else some (.string text)

/-- Composing a value counts the references it follows. -/
abbrev Composer (α : Type) := Nat → Option (α × Nat)

/-- The node an anchor's number stands for: of several, the one that begins last. -/
def Marks.node? (m : Marks) (number : Nat) : Option Node :=
  ((m.nodes.filter (·.1 == number)).foldl (fun best entry => match best with
    | some (start, node) => if start < entry.2.1 then some entry.2 else some (start, node)
    | none => some entry.2) none).map (·.2)

mutual

/-- The value of a node, for `depth` levels of collections below it. -/
def compose (m : Marks) (depth : Nat) : Nat → Node → Composer Value
  | 0, _ => fun _ => none
  | fuel + 1, n => fun jumps => match n with
    | .reference number =>
      if jumps + 1 > m.events * 100 then none
      else (m.node? number).bind fun target => compose m depth fuel target (jumps + 1)
    | .scalar text plain tag =>
      match localTag? tag with
      | some name => (scalarValue text plain none).map fun v => (.tagged name v, jumps)
      | none => (scalarValue text plain tag).map (·, jumps)
    | .sequence items tag => match depth with
      | 0 => none
      | depth + 1 => (composeItems m depth fuel items jumps).map fun (vs, jumps) =>
          (match localTag? tag with
            | some name => .tagged name (.sequence vs)
            | none => .sequence vs, jumps)
    | .mapping entries tag => match depth with
      | 0 => none
      | depth + 1 => (composeEntries m depth fuel entries [] jumps).map fun (es, jumps) =>
          (match localTag? tag with
            | some name => .tagged name (.mapping es)
            | none => .mapping es, jumps)

def composeItems (m : Marks) (depth : Nat) : Nat → List Node → Composer (List Value)
  | 0, _ => fun _ => none
  | _ + 1, [] => fun jumps => some ([], jumps)
  | fuel + 1, n :: rest => fun jumps =>
    (compose m depth fuel n jumps).bind fun (v, jumps) =>
      (composeItems m depth fuel rest jumps).map fun (vs, jumps) => (v :: vs, jumps)

def composeEntries (m : Marks) (depth : Nat) :
    Nat → List (Node × Node) → Entries → Composer Entries
  | 0, _, _ => fun _ => none
  | _ + 1, [], done => fun jumps => some (done, jumps)
  | fuel + 1, (k, v) :: rest, done => fun jumps =>
    (compose m depth fuel k jumps).bind fun (key, jumps) =>
      if (Entries.get? key done).isSome then none
      else (compose m depth fuel v jumps).bind fun (value, jumps) =>
        composeEntries m depth fuel rest (done ++ [(key, value)]) jumps

end

/-- The value of a text; nothing if it is not YAML. -/
def parse? (text : String) : Option Value :=
  (tokens? text).bind fun ts => (document? ts).bind fun doc => match doc with
    | none => some .null
    | some doc =>
      (compose doc.marks 128 (200 * (doc.marks.events + 2) + 1000) doc.root 0).map (·.1)

end Layering.Yaml
