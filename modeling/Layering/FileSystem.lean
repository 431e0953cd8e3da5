import Layering.Text.Utf8
import Layering.Path

/-!
# File systems

A tree of directories, files and symbolic links, with a current directory. Paths are resolved
piece by piece; a link is replaced by its target, at most forty times.
-/

namespace Layering

open Text

/-- A file, a link or a directory with its entries. -/
inductive FileTree where
  | file (bytes : List UInt8)
  | link (target : String)
  | directory (entries : List (String × FileTree))
deriving Inhabited

/-- Why the file system refuses. -/
inductive FileFault where
  | notFound
  | notDirectory
  | isDirectory
  | tooManyLinks
  | invalidUtf8
  | shortWrite
deriving DecidableEq, Repr

def FileFault.message : FileFault → String
  | .notFound => "No such file or directory (os error 2)"
  | .notDirectory => "Not a directory (os error 20)"
  | .isDirectory => "Is a directory (os error 21)"
  | .tooManyLinks => "Too many levels of symbolic links (os error 40)"
  | .invalidUtf8 => "stream did not contain valid UTF-8"
  | .shortWrite => "failed to write whole buffer"

namespace FileTree

/-- The entry of a directory with a name. -/
def child? (name : String) : FileTree → Option FileTree
  | .directory entries => (entries.find? (·.1 == name)).map (·.2)
  | _ => none

def isDirectory : FileTree → Bool
  | .directory _ => true
  | _ => false

def isFile : FileTree → Bool
  | .file _ => true
  | _ => false

/-- The node at a list of names. -/
def at? : FileTree → List String → Option FileTree
  | t, [] => some t
  | t, name :: rest => (t.child? name).bind (·.at? rest)

/-- Set an entry: a name that is present keeps its place, a new one goes to the end. -/
def setEntry (name : String) (node : FileTree) :
    List (String × FileTree) → List (String × FileTree)
  | [] => [(name, node)]
  | (n, t) :: rest => if n == name then (n, node) :: rest else (n, t) :: setEntry name node rest

/-- Put a node at a list of names, with directories made on the way. -/
def put : FileTree → List String → FileTree → FileTree
  | _, [], node => node
  | .directory entries, name :: rest, node =>
    let inner := ((entries.find? (·.1 == name)).map (·.2)).getD (.directory [])
    .directory (setEntry name (put inner rest node) entries)
  | _, name :: rest, node => .directory [(name, put (.directory []) rest node)]
termination_by _ names _ => names.length

mutual

/-- The names of the regular files below a node, as lists of names; links are not followed. -/
def files : FileTree → List (List String)
  | .directory entries => filesOf entries
  | _ => []

/-- The regular files among and below the entries of a directory. -/
def filesOf : List (String × FileTree) → List (List String)
  | [] => []
  | (name, .file _) :: rest => [name] :: filesOf rest
  | (name, node) :: rest => (files node).map (name :: ·) ++ filesOf rest

end

end FileTree

/-- A tree and the names that lead from its top to the current directory. -/
structure FileSystem where
  root : FileTree
  current : List String := []

namespace FileSystem

/-- How many links a path may lead through. -/
def linkLimit : Nat := 40

/-- Go from a directory over the pieces of a path to the names of the place they lead to. The
last piece is followed through links too, and a place that does not exist is a fault. -/
def resolveFrom (root : FileTree) (links : Nat) (here : List String) (pieces : List String) :
    Except FileFault (List String × FileTree) :=
  match pieces with
  | [] => match root.at? here with
    | some node => .ok (here, node)
    | none => .error .notFound
  | piece :: rest =>
    match root.at? here with
    | some (.directory entries) =>
      if piece.isEmpty || piece == "." then resolveFrom root links here rest
      else if piece == ".." then resolveFrom root links here.dropLast rest
      else match (FileTree.directory entries).child? piece with
        | none => .error .notFound
        | some (.link target) => match links with
          | 0 => .error .tooManyLinks
          | links + 1 =>
            let start := if Path.isAbsolute target then [] else here
            resolveFrom root links start (Path.pieces target ++ rest)
        | some _ => resolveFrom root links (here ++ [piece]) rest
    | some _ => .error .notDirectory
    | none => .error .notFound
termination_by (links, pieces.length)

/-- The place a path leads to. -/
def resolve (fs : FileSystem) (path : String) : Except FileFault (List String × FileTree) :=
  if path.isEmpty then .error .notFound
  else
    let start := if Path.isAbsolute path then [] else fs.current
    resolveFrom fs.root linkLimit start (Path.pieces path)

/-- Whether there is anything at a path. -/
def contains (fs : FileSystem) (path : String) : Bool := (fs.resolve path).isOk

/-- Whether there is a regular file at a path. -/
def isFile (fs : FileSystem) (path : String) : Bool :=
  match fs.resolve path with
  | .ok (_, node) => node.isFile
  | .error _ => false

/-- The bytes of the file at a path. -/
def read (fs : FileSystem) (path : String) : Except FileFault (List UInt8) :=
  match fs.resolve path with
  | .ok (_, .file bytes) => .ok bytes
  | .ok (_, _) => .error .isDirectory
  | .error fault => .error fault

/-- The text of the file at a path. -/
def readText (fs : FileSystem) (path : String) : Except FileFault String := do
  match Utf8.decode? (← fs.read path) with
  | some text => .ok text
  | none => .error .invalidUtf8

/-- The regular files below the directory at a path, as lists of names. -/
def filesBelow (fs : FileSystem) (path : String) : List (List String) :=
  match fs.resolve path with
  | .ok (_, node) => node.files
  | .error _ => []

/-- The names of the place where a new file at a path goes. A link at the end of the path leads
to its target, which need not exist. A path that ends in a slash can only be a directory. -/
def placeFrom (root : FileTree) (links : Nat) (here : List String) (pieces : List String) :
    Except FileFault (List String) :=
  let named := (pieces.reverse.dropWhile String.isEmpty).reverse
  match named.getLast? with
  | none => .error .isDirectory
  | some last =>
    match resolveFrom root linkLimit here named.dropLast with
    | .error fault => .error fault
    | .ok (directory, node) =>
      if !node.isDirectory then .error .notDirectory
      else if named.length < pieces.length || last == "." || last == ".." then .error .isDirectory
      else match node.child? last with
        | some (.directory _) => .error .isDirectory
        | some (.link target) => match links with
          | 0 => .error .tooManyLinks
          | links + 1 =>
            let start := if Path.isAbsolute target then [] else directory
            placeFrom root links start (Path.pieces target)
        | _ => .ok (directory ++ [last])

/-- Write a file, replacing what it held. -/
def write (fs : FileSystem) (path : String) (bytes : List UInt8) : Except FileFault FileSystem :=
  if path.isEmpty then .error .notFound
  else
    let start := if Path.isAbsolute path then [] else fs.current
    match placeFrom fs.root linkLimit start (Path.pieces path) with
    | .ok names => .ok { fs with root := fs.root.put names (.file bytes) }
    | .error fault => .error fault

end FileSystem

end Layering
