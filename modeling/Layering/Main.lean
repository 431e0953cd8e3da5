import Layering.Cli.Run
import Std.Time.DateTime.Timestamp

/-!
# The program

Reads the files that a command can look at, runs the command, and writes what it leaves behind.
-/

namespace Layering.Main

open Cli

/-- A file, or a directory with everything below it. A link below a directory is left as it is. -/
partial def readTree (path : String) : IO (Option FileTree) := do
  let here := (← IO.currentDir) / path
  if ← here.isDir then
    let entries ← (← here.readDir).toList.filterMapM fun entry => do
      if (← entry.path.symlinkMetadata).type == .symlink then
        return some (entry.fileName, FileTree.link "")
      else return (← readTree entry.path.toString).map fun tree => (entry.fileName, tree)
    return some (.directory entries)
  else if ← here.pathExists then
    try return some (.file (← IO.FS.readBinFile here).toList) catch _ => return none
  else return none

/-- The names that lead from the top to a path, step by step from the current directory. -/
def namesOf (current : List String) (path : String) : List String :=
  (Path.components path).foldl (fun names c => match c with
    | .root => []
    | .current => names
    | .parent => names.dropLast
    | .normal name => names ++ [name]) current

/-- Add the directories above a path that exist. -/
def addParents (tree : FileTree) (names : List String) : IO FileTree :=
  (List.range names.length).foldlM (fun tree n => do
    let above := names.take n
    let place := (← IO.currentDir) / ("/" ++ "/".intercalate above)
    if (tree.at? above).isNone && (← place.isDir) then return tree.put above (.directory [])
    else return tree) tree

/-- Add what is at a path; of a directory only that it is there, unless it is wanted whole. -/
def addPath (whole : Bool) (current : List String) (tree : FileTree) (path : String) :
    IO FileTree := do
  let names := namesOf current path
  let tree ← addParents tree names
  let place := (← IO.currentDir) / path
  if !whole && (← place.isDir) then
    return if (tree.at? names).isSome then tree else tree.put names (.directory [])
  else match ← readTree path with
    | some node => return tree.put names node
    | none => return tree

/-- The files a configuration can come from: the given one, or any in or above the current
directory. -/
def configPaths (current : List String) (given : Option String) : List String :=
  match given with
  | some path => [path]
  | none => (Path.ancestors ("/" ++ "/".intercalate current)).flatMap fun directory =>
      Config.fileNames.map (Path.join directory)

/-- The paths a command reads whole, and those it may write to. -/
def commandPaths (fs : FileSystem) (config : Option String) : Command → List String × List String
  | .check a =>
    let settings := (loadConfig fs config).toOption.bind (·.report.output)
    (if a.paths.isEmpty then ["."] else a.paths, (a.output.or settings).toList)
  | .validateConfig file => (file.toList, [])
  | .init file _ _ => ([], [file])
  | _ => ([], [])

/-- The part of the file system a command looks at. -/
def fileSystemFor (i : Invocation) : IO FileSystem := do
  let current := namesOf [] (← IO.currentDir).toString
  let top ← addParents (.directory []) (current ++ [""])
  let config := i.globals.config
  let tree ← (configPaths current config).foldlM (addPath false current) top
  let (read, write) := commandPaths { root := tree, current } config i.command
  let tree ← read.foldlM (addPath true current) tree
  return { root := ← write.foldlM (addPath false current) tree, current }

/-- The present moment. -/
def now : IO Report.Timestamp := do
  let t ← Std.Time.Timestamp.now
  let nanos := t.toNanosecondsSinceUnixEpoch.val
  return { seconds := nanos / 1000000000, nanos := (nanos % 1000000000).toNat }

/-- Whether the output may have colours: when they are asked for, and never when refused. -/
def wantsColors : IO Bool := do
  let forced ← IO.getEnv "CLICOLOR_FORCE"
  if forced.any (· != "0") then return true
  if (← IO.getEnv "NO_COLOR").isSome then return false
  if (← IO.getEnv "CLICOLOR") == some "0" then return false
  (← IO.getStdout).isTty

/-- Run a command and print what it says. -/
def perform (i : Invocation) : IO UInt32 := do
  let began ← IO.monoMsNow
  let files ← fileSystemFor i
  let elapsed := (← IO.monoMsNow) - began
  let moment ← now
  let o := i.run { files, colors := ← wantsColors, now := moment, elapsed }
  if let some (path, text) := o.written then IO.FS.writeFile path text
  IO.eprint (o.errorText i.globals.log moment.text)
  IO.print o.output
  return o.exit.toUInt32

end Layering.Main

open Layering Layering.Cli in
def main (arguments : List String) : IO UInt32 := do
  match Invocation.read arguments with
  | .ok i => Layering.Main.perform i
  | .error .help => IO.print helpText; return 0
  | .error .version => IO.print versionText; return 0
  | .error (.misuse m) => IO.eprintln ("error: " ++ m.message); return 2
