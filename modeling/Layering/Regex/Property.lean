import Layering.Text.Blank
import Layering.Text.Script
import Layering.Regex.Basic

/-!
# Named classes of characters

The classes a pattern can name: general categories, scripts, a few properties, and the ASCII
classes between colons. Names of properties are compared without case, blanks, underscores,
dashes and a leading `is`.
-/

namespace Layering.Regex

open Text

/-- The form in which names of properties are compared. -/
def normalName (name : List Char) : List Char :=
  let bare := match name with
    | a :: b :: rest => if a.toLower == 'i' && b.toLower == 's' then rest else name
    | _ => name
  let kept := (bare.filter fun c => c.toNat < 128 && c != ' ' && c != '_' && c != '-').map
    Char.toLower
  if bare.length < name.length && kept == ['c'] then "isc".toList else kept

/-- Whether a name is one of the spellings. -/
def isSpelled (name : List Char) (spellings : List String) : Bool :=
  spellings.any fun s => normalName s.toList == name

/-- The groups of general categories. -/
def categoryGroups : List (List String × List Category) :=
  [(["L", "Letter"], Category.letters),
   (["M", "Mark", "Combining_Mark"], Category.marks),
   (["N", "Number"], Category.numbers),
   (["P", "Punctuation", "punct"], Category.punctuation),
   (["S", "Symbol"], Category.symbols),
   (["Z", "Separator"], Category.separators),
   (["C", "Other"], Category.others),
   (["LC", "Cased_Letter"], [.uppercaseLetter, .lowercaseLetter, .titlecaseLetter])]

/-- Other names of general categories. -/
def categoryAliases : List (Category × String) :=
  [(.decimalNumber, "digit"), (.control, "cntrl")]

/-- The class of a general category, in normal form. -/
def category? (name : List Char) : Option CharSet :=
  if isSpelled name ["Any"] then some .all
  else if isSpelled name ["ASCII"] then some (.range (Char.ofNat 0) (Char.ofNat 127))
  else if isSpelled name ["Assigned"] then some (CharSet.ofCategories [.unassigned]).compl
  else match categoryGroups.find? fun g => isSpelled name g.1 with
    | some (_, gs) => some (.ofCategories gs)
    | none =>
      match Category.names.find? fun (_, short, long) => isSpelled name [short, long] with
      | some (g, _) => some (.ofCategories [g])
      | none => (categoryAliases.find? fun (_, s) => isSpelled name [s]).map fun (g, _) =>
          .ofCategories [g]

/-- The class of a script, in normal form. -/
def script? (name : List Char) : Option CharSet :=
  (Script.all.find? fun (names, _) => isSpelled name names).map fun (_, set) =>
    .ofCodePoints set

/-- The hexadecimal digits of ASCII, or also their full-width forms. -/
def hexDigits (wide : Bool) : CharSet :=
  let ascii := [('0', '9'), ('A', 'F'), ('a', 'f')]
  let full := [(Char.ofNat 0xFF10, Char.ofNat 0xFF19), (Char.ofNat 0xFF21, Char.ofNat 0xFF26),
    (Char.ofNat 0xFF41, Char.ofNat 0xFF46)]
  .ofRanges (if wide then ascii ++ full else ascii)

/-- The class of a property that characters have or not, in normal form. -/
def binary? (name : List Char) : Option CharSet :=
  if isSpelled name ["Alphabetic", "Alpha"] then
    some { contains := isAlphabetic, pieces := 730 }
  else if isSpelled name ["Lowercase", "Lower"] then
    some { contains := isLowercase, pieces := 670 }
  else if isSpelled name ["Uppercase", "Upper"] then
    some { contains := isUppercase, pieces := 650 }
  else if isSpelled name ["White_Space", "space", "WSpace"] then
    some { contains := isBlank, pieces := 10 }
  else if isSpelled name ["ASCII_Hex_Digit", "AHex"] then some (hexDigits false)
  else if isSpelled name ["Hex_Digit", "Hex"] then some (hexDigits true)
  else none

/-- The class a single name stands for. -/
def property? (name : List Char) : Option CharSet :=
  let name := normalName name
  ((binary? name).or (category? name)).or (script? name)

/-- Whether a property has values to choose from. -/
def hasValues (name : List Char) : Bool :=
  isSpelled (normalName name)
    ["General_Category", "gc", "Script", "sc", "Script_Extensions", "scx"]

/-- The class of a property with a value. -/
def valuedProperty? (name value : List Char) : Option CharSet :=
  let name := normalName name
  if isSpelled name ["General_Category", "gc"] then category? (normalName value)
  else if isSpelled name ["Script", "sc", "Script_Extensions", "scx"] then
    script? (normalName value)
  else none

/-- The classes written `[:name:]`. -/
def asciiClass? (name : List Char) : Option CharSet :=
  (match String.ofList name with
    | "alnum" => some [('0', '9'), ('A', 'Z'), ('a', 'z')]
    | "alpha" => some [('A', 'Z'), ('a', 'z')]
    | "ascii" => some [('\x00', '\x7f')]
    | "blank" => some [('\t', '\t'), (' ', ' ')]
    | "cntrl" => some [('\x00', '\x1f'), ('\x7f', '\x7f')]
    | "digit" => some [('0', '9')]
    | "graph" => some [('!', '~')]
    | "lower" => some [('a', 'z')]
    | "print" => some [(' ', '~')]
    | "punct" => some [('!', '/'), (':', '@'), ('[', '\x60'), ('\x7b', '~')]
    | "space" => some [('\t', '\r'), (' ', ' ')]
    | "upper" => some [('A', 'Z')]
    | "word" => some [('0', '9'), ('A', 'Z'), ('_', '_'), ('a', 'z')]
    | "xdigit" => some [('0', '9'), ('A', 'F'), ('a', 'f')]
    | _ => none).map CharSet.ofRanges

end Layering.Regex
