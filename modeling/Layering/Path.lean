/-!
# Paths

A path is a text whose components stand between slashes. Repeated slashes and inner dots do not
count, so two texts can be the same path; paths are compared component by component.
-/

namespace Layering.Path

/-- A component of a path. -/
inductive Component where
  /-- The slash an absolute path starts with. -/
  | root
  /-- A dot at the start of a relative path. -/
  | current
  | parent
  | normal (name : String)
deriving DecidableEq, Repr

/-- Which kind of component comes first in order. -/
def Component.rank : Component → Nat
  | .root => 0
  | .current => 1
  | .parent => 2
  | .normal _ => 3

/-- The order of components: by kind, then by name. -/
def Component.compare : Component → Component → Ordering
  | .normal a, .normal b => compareOfLessAndEq a b
  | a, b => compareOfLessAndEq a.rank b.rank

/-- The texts between the slashes. -/
def pieces (path : String) : List String :=
  (path.toList.splitOnP (· == '/')).map String.ofList

def isAbsolute (path : String) : Bool := path.startsWith "/"

/-- The component of a piece that is not the first one. -/
def innerComponent (piece : String) : Option Component :=
  if piece.isEmpty || piece == "." then none
  else if piece == ".." then some .parent
  else some (.normal piece)

/-- The components of a path. -/
def components (path : String) : List Component :=
  match pieces path with
  | [] => []
  | first :: rest =>
    let head :=
      if isAbsolute path then some .root
      else if first == "." then some .current
      else innerComponent first
    head.toList ++ rest.filterMap innerComponent

/-- Whether two texts are the same path. -/
def same (a b : String) : Bool := components a == components b

/-- Lexicographic order of component lists. -/
def compareComponents : List Component → List Component → Ordering
  | [], [] => .eq
  | [], _ => .lt
  | _, [] => .gt
  | a :: as, b :: bs => (a.compare b).then (compareComponents as bs)

/-- The order of paths. -/
def compare (a b : String) : Ordering := compareComponents (components a) (components b)

/-- Whether `a` does not come after `b`. -/
def le (a b : String) : Bool := compare a b != .gt

/-- The last component, if it is a name. -/
def fileName (path : String) : Option String :=
  match (components path).getLast? with
  | some (.normal name) => some name
  | _ => none

/-- The text after the last dot of the file name, unless that dot starts it. -/
def extension (path : String) : Option String :=
  (fileName path).bind fun name =>
    let chars := name.toList.reverse
    match chars.dropWhile (· != '.') with
    | _ :: _ :: _ => some (String.ofList (chars.takeWhile (· != '.')).reverse)
    | _ => none

/-- A path below a directory; an absolute one stays as it is. -/
def join (directory path : String) : String :=
  if isAbsolute path then path
  else if directory.isEmpty || directory.endsWith "/" then directory ++ path
  else directory ++ "/" ++ path

/-- Pieces without those at their end that are no components, where `first` tells whether the
first piece may be a leading dot. Works on the reversed list. -/
def dropIgnored (relative : Bool) : List String → List String
  | [] => []
  | [piece] => if piece.isEmpty || (piece == "." && !relative) then [] else [piece]
  | piece :: rest => if piece.isEmpty || piece == "." then dropIgnored relative rest else piece :: rest

/-- The path without its last component; nothing when there is none to drop. -/
def parent? (path : String) : Option String :=
  let absolute := isAbsolute path
  let body := if absolute then (pieces path).drop 1 else pieces path
  match dropIgnored (!absolute) body.reverse with
  | [] => none
  | _ :: rest =>
    let kept := (dropIgnored (!absolute) rest).reverse
    some ((if absolute then "/" else "") ++ "/".intercalate kept)

/-- The path and everything above it, for at most `fuel` steps. -/
def ancestorsFrom : Nat → String → List String
  | 0, path => [path]
  | fuel + 1, path => match parent? path with
    | some p => path :: ancestorsFrom fuel p
    | none => [path]

/-- The path, its parent, the parent of that, and so on. -/
def ancestors (path : String) : List String := ancestorsFrom path.length path

/-- The path with slashes for backslashes. -/
def normalize (path : String) : String :=
  path.map fun c => if c == '\\' then '/' else c

end Layering.Path
