import Layering.Text.Scan
import Layering.FileSystem
import Layering.Glob

/-!
# Path filters

A filter accepts files by extension and leaves out those its patterns exclude. Patterns are
applied in order and the last one that matches decides; a leading `!` makes a pattern include
what it matches.
-/

namespace Layering

open Text

/-- How a pattern of a filter matches paths. -/
inductive PathFilter.Matcher where
  /-- Anywhere in the path. -/
  | within (text : String)
  /-- The whole path. -/
  | path (glob : Glob)
  /-- The file name. -/
  | name (glob : Glob)

/-- A pattern that excludes or includes paths. -/
structure PathFilter.Pattern where
  matcher : PathFilter.Matcher
  includes : Bool

/-- Which files are analysed. -/
structure PathFilter where
  patterns : List PathFilter.Pattern
  /-- Accepted extensions without the dot; none accepts every file. -/
  extensions : List String

namespace PathFilter

/-- A pattern that is no glob. -/
structure Fault where
  pattern : String
  fault : Glob.Fault
deriving DecidableEq, Repr

/-- What is wrong with a root to look for files at. -/
inductive RootFault where
  | missing (path : String)
deriving DecidableEq, Repr

def RootFault.message : RootFault → String
  | .missing path => "Path does not exist: " ++ path

/-- The directories left out by default. -/
def defaultExcludes : List String := ["/vendor/", "/tests/", "/var/", "/cache/"]

/-- The extension accepted by default. -/
def defaultExtension : String := "php"

/-- A pattern without the mark of an include. -/
def bare (raw : String) : String :=
  match raw.toList with
  | '!' :: rest => String.ofList rest
  | _ => raw

/-- Read a pattern. -/
def Pattern.parse (raw : String) : Except Fault Pattern :=
  let includes := raw.startsWith "!"
  let text := bare raw
  if Glob.looksLike text then
    match Glob.parse text with
    | .ok glob => .ok ⟨if text.any (· == '/') then .path glob else .name glob, includes⟩
    | .error fault => .error ⟨text, fault⟩
  else .ok ⟨.within text, includes⟩

/-- A text without leading slashes. -/
def withoutSlashes (path : String) : String :=
  String.ofList (path.toList.dropWhile (· == '/'))

/-- Whether a pattern matches a path, given with slashes only, or its file name. -/
def Pattern.isMatch (p : Pattern) (path fileName : String) : Bool :=
  match p.matcher with
  | .within text => contains path text
  | .path glob => glob.isMatch path || glob.isMatch (withoutSlashes path)
  | .name glob => glob.isMatch fileName

/-- A filter from patterns and extensions, which may be written with dots in front. -/
def ofLists (patterns extensions : List String) : Except Fault PathFilter := do
  let patterns ← patterns.mapM Pattern.parse
  return ⟨patterns, extensions.map fun e => String.ofList (e.toList.dropWhile (· == '.'))⟩

/-- The filter without any configuration. -/
def default : Except Fault PathFilter := ofLists defaultExcludes [defaultExtension]

/-- Whether a path has an accepted extension. -/
def acceptsExtension (f : PathFilter) (path : String) : Bool :=
  f.extensions.isEmpty || (Path.extension path).any f.extensions.contains

/-- Whether the patterns exclude a path: the last one that matches decides. -/
def excludes (f : PathFilter) (path fileName : String) : Bool :=
  f.patterns.foldl
    (fun excluded p => if p.isMatch path fileName then !p.includes else excluded) false

/-- Whether a path is analysed. -/
def accepts (f : PathFilter) (path : String) : Bool :=
  f.acceptsExtension path &&
    !f.excludes (Path.normalize path) ((Path.fileName path).getD "")

/-- The paths that are analysed, in order. -/
def filter (f : PathFilter) (paths : List String) : List String := paths.filter f.accepts

/-- Add a pattern after the others. -/
def add (f : PathFilter) (raw : String) : Except Fault PathFilter := do
  return { f with patterns := f.patterns ++ [← Pattern.parse raw] }

/-- The path of a file below a root. -/
def below (root : String) (names : List String) : String := names.foldl Path.join root

/-- Whether a file below a root is analysed: its extension is that of its path, its patterns are
matched against the path from the root on, with a slash in front. -/
def acceptsBelow (f : PathFilter) (root : String) (names : List String) : Bool :=
  let path := below root names
  f.acceptsExtension path &&
    !f.excludes ("/" ++ Path.normalize ("/".intercalate names)) ((Path.fileName path).getD "")

/-- The files to analyse at a root: the root itself if it is a file with an accepted extension,
else all accepted files below it, in the order of paths. -/
def find (f : PathFilter) (fs : FileSystem) (root : String) : Except RootFault (List String) :=
  if !fs.contains root then .error (.missing root)
  else if fs.isFile root then .ok (if f.acceptsExtension root then [root] else [])
  else
    let accepted := (fs.filesBelow root).filter (f.acceptsBelow root)
    .ok ((accepted.map (below root)).mergeSort Path.le)

/-- Paths without those that are the same as an earlier one, where `seen` came before. -/
def distinctAfter (seen : List (List Path.Component)) : List String → List String
  | [] => []
  | path :: rest =>
    if seen.contains (Path.components path) then distinctAfter seen rest
    else path :: distinctAfter (Path.components path :: seen) rest

/-- Paths without those that are the same as an earlier one. -/
def distinct (paths : List String) : List String := distinctAfter [] paths

/-- The files to analyse at several roots, each once. -/
def discover (f : PathFilter) (fs : FileSystem) (roots : List String) :
    Except RootFault (List String) := do
  return distinct (← roots.mapM (f.find fs)).flatten

end PathFilter

end Layering
