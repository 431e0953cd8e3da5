import Layering.Source.Statement

/-!
# Declarations

The namespace a file declares, the type it declares, and the interfaces that type implements.
Keywords are looked for anywhere in the text, also inside longer words.
-/

namespace Layering.Source

open Text

/-- The first namespace statement, trimmed; empty when there is none. -/
def namespaceOf (content : List Char) : String :=
  match leftmost? (statement? "namespace".toList) content with
  | some (text, _) => String.ofList (trim text)
  | none => ""

/-- The characters of type names. -/
def isTypeChar (c : Char) : Bool :=
  ('a' ≤ c && c ≤ 'z') || ('A' ≤ c && c ≤ 'Z') || ('0' ≤ c && c ≤ '9') || c == '_'

/-- The name after a declaring keyword and blanks. -/
def declared? (keyword : List Char) : Recognizer (List Char) := fun s =>
  (literal? keyword s).bind fun rest => (blanks? rest).bind fun rest => run? isTypeChar rest

/-- The first class, else the first interface, else the first trait; empty when none is
declared. -/
def typeNameOf (content : List Char) : String :=
  match ["class", "interface", "trait"].findSome? fun keyword =>
      leftmost? (declared? keyword.toList) content with
  | some (name, _) => String.ofList name
  | none => ""

/-- An interface declaration with a blank in front of it. -/
def interface? : Recognizer (List Char)
  | [] => none
  | c :: rest => if isBlank c then declared? "interface".toList rest else none

/-- Whether the text declares an interface. -/
def declaresInterface (content : List Char) : Bool :=
  (leftmost? interface? content).isSome

/-! ## The implements clause -/

/-- The list of a clause that starts here: everything up to the next opening brace. The list is
never empty: when the blanks after the keyword run up to the brace, the last of at least two
counts as the list. -/
def clause? (s : List Char) : Option (List Char) :=
  (literal? "implements".toList s).bind fun rest =>
    let blanks := rest.takeWhile isBlank
    let list := (rest.dropWhile isBlank).takeWhile (· != '\x7b')
    if blanks.isEmpty then none
    else if !list.isEmpty then some list
    else if 2 ≤ blanks.length then some (blanks.drop (blanks.length - 1))
    else none

/-- The last clause that starts on this line. -/
def lastClause? : List Char → Option (List Char)
  | [] => none
  | c :: rest =>
    if c == '\n' then none
    else match lastClause? rest with
      | some list => some list
      | none => clause? (c :: rest)

/-- After a class keyword: blanks, the name and a clause later on the line. The name may begin
inside the run of blanks, the latest place first. -/
def classClause? (typeName : List Char) : List Char → Option (List Char)
  | [] => none
  | c :: rest =>
    if !isBlank c then none
    else match classClause? typeName rest with
      | some list => some list
      | none => (literal? typeName rest).bind lastClause?

/-- The clause of a class declaration that starts here. -/
def implements? (typeName : List Char) : Recognizer (List Char) := fun s =>
  (literal? "class".toList s).bind fun rest =>
    (classClause? typeName rest).map (·, [])

/-- The entries of the implements clause that follows the class called `typeName`, trimmed;
nothing when it has none. -/
def interfacesOf (content : List Char) (typeName : String) : Option (List String) :=
  (leftmost? (implements? typeName.toList) content).map fun (list, _) =>
    (list.splitOnP (· == ',')).map fun entry => String.ofList (trim entry)

end Layering.Source
