import Layering.Text.Word
import Layering.Source.Name
import Layering.Source.Statement

/-!
# Imports

An import brings a qualified name into scope under its last segment or under another name.
-/

namespace Layering.Source

open Text

/-- An imported name with the name it gets instead of its last segment, if any. -/
structure Import where
  path : String
  rename : Option String
deriving DecidableEq, Repr

/-- Whether two characters spell `as` in any case. -/
def spellsAs (a s : Char) : Bool :=
  (a == 'a' || a == 'A') && (s == 's' || s == 'S' || s.toNat == 0x17F)

/-- Split `path as name`, read from its end: a word, blanks, `as`, blanks and the path, which
is not empty. -/
def splitAlias? (text : List Char) : Option (List Char × List Char) :=
  (run? isWord text.reverse).bind fun (name, rest) =>
    (blanks? rest).bind fun rest => match rest with
      | s :: a :: rest =>
        if spellsAs a s then
          (blanks? rest).bind fun path =>
            if path.isEmpty then none else some (path.reverse, name.reverse)
        else none
      | _ => none

namespace Import

/-- Read the text of an import statement. -/
def parse (text : List Char) : Import :=
  let text := trim text
  match splitAlias? text with
  | some (path, name) => ⟨String.ofList (trim path), some (String.ofList name)⟩
  | none => ⟨String.ofList text, none⟩

/-- The last segment of the path. -/
def shortName (i : Import) : String := lastSegment i.path

/-- Whether the import brings `name` into scope. -/
def brings (i : Import) (name : String) : Bool :=
  i.rename == some name || i.shortName == name

end Import

/-- All imports in the order of the text. -/
def importsOf (content : List Char) : List Import :=
  (every (statement? "use".toList) content).map Import.parse

end Layering.Source
