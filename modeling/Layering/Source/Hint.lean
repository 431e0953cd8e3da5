import Layering.Text.Word
import Layering.Text.Scan

/-!
# Type hints

Fully qualified names with a leading backslash, in four places: before a parameter, after a
parameter list, before a constructor's parameter and before a property. A hint may stand
anywhere after the opening parenthesis of a function, its body and later functions included.
-/

namespace Layering.Source

open Text

/-- A name of one or more segments, each with its backslash in front. -/
def qualified? : Recognizer (List Char)
  | [] => none
  | c :: rest =>
    let word := rest.takeWhile isWord
    let after := rest.dropWhile isWord
    if c != '\\' || word.isEmpty then none
    else match qualified? after with
      | some (more, after) => some (c :: word ++ more, after)
      | none => some (c :: word, after)
termination_by s => s.length
decreasing_by
  have := (List.dropWhile_sublist isWord (l := rest)).length_le
  simp only [List.length_cons]
  omega

/-- The text after a dollar sign and a word. -/
def dollarName? : List Char → Option (List Char)
  | [] => none
  | c :: rest => if c == '$' then (run? isWord rest).map (·.2) else none

/-- A qualified name, blanks and a variable. -/
def typedVariable? : Recognizer (List Char) := fun s =>
  (qualified? s).bind fun (name, rest) =>
    (blanks? rest).bind fun rest => (dollarName? rest).map (name, ·)

/-- A typed variable with a closing parenthesis somewhere after it. -/
def typedParameter? : Recognizer (List Char) := fun s =>
  (typedVariable? s).bind fun (name, rest) => (after? ')' rest).map (name, ·)

/-- A closing parenthesis, a colon and a qualified name. -/
def returnType? : Recognizer (List Char)
  | [] => none
  | c :: rest =>
    if c != ')' then none
    else match trimStart rest with
      | ':' :: rest => qualified? (trimStart rest)
      | _ => none

/-- The text after `function`, a name and an opening parenthesis. -/
def signature? (name : List Char → Option (List Char)) (s : List Char) : Option (List Char) :=
  (literal? "function".toList s).bind fun rest =>
    (blanks? rest).bind fun rest => (name rest).bind fun rest =>
      match trimStart rest with
      | '(' :: rest => some rest
      | _ => none

/-- Any function name. -/
def anyName (s : List Char) : Option (List Char) := (run? isWord s).map (·.2)

/-- A function with a typed parameter after it. -/
def parameterHint? : Recognizer (List Char) := fun s =>
  (signature? anyName s).bind (leftmost? typedParameter?)

/-- A function with a return type after it. -/
def returnHint? : Recognizer (List Char) := fun s =>
  (signature? anyName s).bind (leftmost? returnType?)

/-- A constructor with a typed parameter after it. -/
def constructorHint? : Recognizer (List Char) := fun s =>
  (signature? (literal? "__construct".toList) s).bind (leftmost? typedParameter?)

/-- A visibility keyword, blanks, a qualified name, blanks and a variable. -/
def propertyHint? : Recognizer (List Char) := fun s =>
  (["private", "protected", "public"].findSome? fun word => literal? word.toList s).bind
    fun rest => (blanks? rest).bind typedVariable?

/-- The names of all hints: parameters, return types, constructor parameters, properties. -/
def hintsOf (content : List Char) : List (List Char) :=
  [parameterHint?, returnHint?, constructorHint?, propertyHint?].flatMap (every · content)

end Layering.Source
