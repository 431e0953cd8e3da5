import Layering.Yaml.Token

/-!
# From tokens to nodes

The syntax tree of a document: scalars, sequences and mappings with their tags and anchors,
and references not yet replaced. A node is counted by the events it takes to deliver it.
-/

namespace Layering.Yaml

/-- The syntax tree of a document. -/
inductive Node where
  | reference (anchor : Nat)
  | scalar (text : String) (plain : Bool) (tag : Option String)
  | sequence (items : List Node) (tag : Option String)
  | mapping (entries : List (Node × Node)) (tag : Option String)
deriving Inhabited

/-- What the nodes read so far leave behind. -/
structure Marks where
  /-- The number each anchor name stands for, the latest first. -/
  names : List (String × Nat) := []
  /-- The nodes behind the numbers, each with the number of events before it. -/
  nodes : List (Nat × Nat × Node) := []
  /-- How many events were delivered. -/
  events : Nat := 0
  /-- The tag handles in force. -/
  handles : List (String × String) := [("!", "!"), ("!!", "tag:yaml.org,2002:")]

/-- The number of an anchor: as many as there are different names before it. -/
def Marks.declare (m : Marks) (name : String) : Nat × Marks :=
  let known := m.names.filter (·.1 != name)
  let number := m.names.length
  (number, { m with names := (name, number) :: known })

/-- A reader of nodes: the rest of the tokens and the marks go through it. -/
abbrev NodeReader (α : Type) := Marks → List Token → Option (α × Marks × List Token)

/-- An empty plain scalar. -/
def Node.empty : Node := .scalar "" true none

/-- Deliver an empty node. -/
def emptyNode : NodeReader Node := fun m ts =>
  some (.empty, { m with events := m.events + 1 }, ts)

/-- The full tag for a handle and a suffix. -/
def Marks.resolveTag (m : Marks) (handle suffix : String) : Option String :=
  if handle.isEmpty then some suffix
  else (m.handles.find? (·.1 == handle)).map fun (_, start) => start ++ suffix

/-- The anchor and the tag in front of a node, in either order. -/
def properties (m : Marks) : List Token →
    Option (Option String × Option String × List Token)
  | .anchor a :: .tag h s :: rest => (m.resolveTag h s).map fun t => (some a, some t, rest)
  | .tag h s :: .anchor a :: rest => (m.resolveTag h s).map fun t => (some a, some t, rest)
  | .anchor a :: rest => some (some a, none, rest)
  | .tag h s :: rest => (m.resolveTag h s).map fun t => (none, some t, rest)
  | ts => some (none, none, ts)

/-- Note a finished node, begun after `start` events, under its anchor. -/
def Marks.note (m : Marks) (number : Option Nat) (start : Nat) (node : Node) : Marks :=
  match number with
  | some n => { m with nodes := (n, start, node) :: m.nodes }
  | none => m

def Marks.count (m : Marks) (events : Nat) : Marks := { m with events := m.events + events }

mutual

/-- A node; `block` allows block collections and `indentless` a sequence at the column of its
key. -/
def node (block indentless : Bool) : Nat → NodeReader Node
  | 0 => fun _ _ => none
  | fuel + 1 => fun m ts => match ts with
    | .reference name :: rest =>
      (m.names.find? (·.1 == name)).map fun (_, number) => (.reference number, m.count 1, rest)
    | _ =>
      (properties m ts).bind fun (anchor, tag, rest) =>
        let (number, m) := match anchor with
          | some a => let (n, m) := m.declare a; (some n, m)
          | none => (none, m)
        let start := m.events
        let finish := fun (found : Node × Marks × List Token) =>
          (found.1, found.2.1.note number start found.1, found.2.2)
        match rest with
        | .scalar text plain :: after =>
          some (finish (.scalar text plain (tag.filter (· != "!")), m.count 1, after))
        | .flowSequenceStart :: after =>
          (flowItems true fuel (m.count 2) after).map fun (items, m, ts) =>
            finish (.sequence items tag, m, ts)
        | .flowMappingStart :: after =>
          (flowEntries true fuel (m.count 2) after).map fun (entries, m, ts) =>
            finish (.mapping entries tag, m, ts)
        | .blockSequenceStart :: after =>
          if block then
            (blockItems fuel (m.count 2) after).map fun (items, m, ts) =>
              finish (.sequence items tag, m, ts)
          else if anchor.isSome || tag.isSome then
            some (finish (.scalar "" true tag, m.count 1, rest))
          else none
        | .blockMappingStart :: after =>
          if block then
            (blockEntries fuel (m.count 2) after).map fun (entries, m, ts) =>
              finish (.mapping entries tag, m, ts)
          else if anchor.isSome || tag.isSome then
            some (finish (.scalar "" true tag, m.count 1, rest))
          else none
        | .blockEntry :: _ =>
          if indentless then
            (indentlessItems fuel (m.count 2) rest).map fun (items, m, ts) =>
              finish (.sequence items tag, m, ts)
          else if anchor.isSome || tag.isSome then
            some (finish (.scalar "" true tag, m.count 1, rest))
          else none
        | _ =>
          if anchor.isSome || tag.isSome then
            some (finish (.scalar "" true tag, m.count 1, rest))
          else none

/-- The items of a block sequence up to its end. -/
def blockItems : Nat → NodeReader (List Node)
  | 0 => fun _ _ => none
  | fuel + 1 => fun m ts => match ts with
    | .blockEntry :: rest =>
      let item := match rest with
        | .blockEntry :: _ | .blockEnd :: _ => emptyNode m rest
        | _ => node true false fuel m rest
      item.bind fun (x, m, ts) =>
        (blockItems fuel m ts).map fun (xs, m, ts) => (x :: xs, m, ts)
    | .blockEnd :: rest => some ([], m, rest)
    | _ => none

/-- The items of a sequence at the column of its key. -/
def indentlessItems : Nat → NodeReader (List Node)
  | 0 => fun _ _ => none
  | fuel + 1 => fun m ts => match ts with
    | .blockEntry :: rest =>
      let item := match rest with
        | .blockEntry :: _ | .key :: _ | .value :: _ | .blockEnd :: _ => emptyNode m rest
        | _ => node true false fuel m rest
      item.bind fun (x, m, ts) =>
        (indentlessItems fuel m ts).map fun (xs, m, ts) => (x :: xs, m, ts)
    | _ => some ([], m, ts)

/-- The entries of a block mapping up to its end. -/
def blockEntries : Nat → NodeReader (List (Node × Node))
  | 0 => fun _ _ => none
  | fuel + 1 => fun m ts => match ts with
    | .blockEnd :: rest => some ([], m, rest)
    | .key :: rest =>
      let key := match rest with
        | .key :: _ | .value :: _ | .blockEnd :: _ => emptyNode m rest
        | _ => node true true fuel m rest
      key.bind fun (k, m, ts) => blockValue k fuel m ts
    | _ => none

/-- The value of a block mapping's key, and the entries after it. -/
def blockValue (k : Node) : Nat → NodeReader (List (Node × Node))
  | 0 => fun _ _ => none
  | fuel + 1 => fun m ts =>
    let value := match ts with
      | .value :: rest => match rest with
        | .key :: _ | .value :: _ | .blockEnd :: _ => emptyNode m rest
        | _ => node true true fuel m rest
      | _ => emptyNode m ts
    value.bind fun (v, m, ts) =>
      (blockEntries fuel m ts).map fun (es, m, ts) => ((k, v) :: es, m, ts)

/-- The items of a flow sequence up to its bracket; a single pair counts as a mapping. -/
def flowItems (first : Bool) : Nat → NodeReader (List Node)
  | 0 => fun _ _ => none
  | fuel + 1 => fun m ts => match ts with
    | .flowSequenceEnd :: rest => some ([], m, rest)
    | _ =>
      let start := if first then some ts else match ts with
        | .flowEntry :: rest => some rest
        | _ => none
      start.bind fun ts => match ts with
        | .flowSequenceEnd :: rest => some ([], m, rest)
        | .key :: rest =>
          (flowPair fuel (m.count 2) rest).bind fun (x, m, ts) =>
            (flowItems false fuel m ts).map fun (xs, m, ts) => (x :: xs, m, ts)
        | _ =>
          (node false false fuel m ts).bind fun (x, m, ts) =>
            (flowItems false fuel m ts).map fun (xs, m, ts) => (x :: xs, m, ts)

/-- A pair inside a flow sequence, after its key mark. -/
def flowPair : Nat → NodeReader Node
  | 0 => fun _ _ => none
  | fuel + 1 => fun m ts =>
    let key := match ts with
      | .value :: rest | .flowEntry :: rest | .flowSequenceEnd :: rest => emptyNode m rest
      | _ => node false false fuel m ts
    key.bind fun (k, m, ts) =>
      let value := match ts with
        | .value :: rest => match rest with
          | .flowEntry :: _ | .flowSequenceEnd :: _ => emptyNode m rest
          | _ => node false false fuel m rest
        | _ => emptyNode m ts
      value.map fun (v, m, ts) => (.mapping [(k, v)] none, m, ts)

/-- The entries of a flow mapping up to its brace. -/
def flowEntries (first : Bool) : Nat → NodeReader (List (Node × Node))
  | 0 => fun _ _ => none
  | fuel + 1 => fun m ts => match ts with
    | .flowMappingEnd :: rest => some ([], m, rest)
    | _ =>
      let start := if first then some ts else match ts with
        | .flowEntry :: rest => some rest
        | _ => none
      start.bind fun ts => match ts with
        | .flowMappingEnd :: rest => some ([], m, rest)
        | .key :: rest =>
          let key := match rest with
            | .value :: _ | .flowEntry :: _ | .flowMappingEnd :: _ => emptyNode m rest
            | _ => node false false fuel m rest
          key.bind fun (k, m, ts) =>
            let value := match ts with
              | .value :: rest => match rest with
                | .flowEntry :: _ | .flowMappingEnd :: _ => emptyNode m rest
                | _ => node false false fuel m rest
              | _ => emptyNode m ts
            value.bind fun (v, m, ts) =>
              (flowEntries false fuel m ts).map fun (es, m, ts) => ((k, v) :: es, m, ts)
        | _ =>
          (node false false fuel m ts).bind fun (k, m, ts) =>
            (emptyNode m ts).bind fun (v, m, ts) =>
              (flowEntries false fuel m ts).map fun (es, m, ts) => ((k, v) :: es, m, ts)

end

/-! ## Documents -/

/-- The tag handles a document's directives declare: at most one version, no handle twice. -/
def directives : Bool → List (String × String) → List Token →
    Option (List (String × String) × List Token)
  | seen, handles, .version major minor :: rest =>
    if seen || major != 1 || (minor != 1 && minor != 2) then none
    else directives true handles rest
  | seen, handles, .tagDirective handle start :: rest =>
    if handles.any (·.1 == handle) then none
    else directives seen ((handle, start) :: handles) rest
  | _, handles, ts => some (handles, ts)

/-- A document that was read: its node and what its nodes left behind. -/
structure Document where
  root : Node
  marks : Marks

/-- The content of a document after its start marker. -/
def documentContent (m : Marks) (ts : List Token) : Option (Document × List Token) :=
  match ts with
  | [] | .version .. :: _ | .tagDirective .. :: _ | .documentStart :: _ | .documentEnd :: _ =>
    some (⟨.empty, m.count 1⟩, ts)
  | _ => (node true false (4 * ts.length + 4) m ts).map fun (n, m, ts) => (⟨n, m⟩, ts)

/-- The single document of a token list: `none` when it is malformed or when another document
follows, no document at all when there are no tokens. -/
def document? (ts : List Token) : Option (Option Document) :=
  let first : Option (Option (Document × List Token)) := match ts with
    | [] => some none
    | .version .. :: _ | .tagDirective .. :: _ | .documentStart :: _ =>
      (directives false [] ts).bind fun (handles, ts) => match ts with
        | .documentStart :: rest =>
          let marks : Marks := {}
          (documentContent { marks with handles := handles ++ marks.handles } rest).map some
        | _ => none
    | _ => (node true false (4 * ts.length + 4) {} ts).map fun (n, m, ts) =>
        some (⟨n, m⟩, ts)
  first.bind fun found => match found with
    | none => some none
    | some (doc, ts) =>
      if (ts.dropWhile (· == .documentEnd)).isEmpty then some (some doc) else none

end Layering.Yaml
