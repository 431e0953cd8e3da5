import Layering.Regex.Basic

/-!
# Globs

`?` stands for any character, `*` for any text, brackets for one character of a set. `**` has to
be a whole path component and stands for any number of components. A glob matches a text as a
whole; it is matched as the regular expression it abbreviates.
-/

namespace Layering

open Text

/-- One element of a glob. -/
inductive Glob.Token where
  | char (c : Char)
  | anyChar
  | anyText
  /-- Any number of whole path components. -/
  | anyComponents
  | oneOf (set : CharSet)
  | noneOf (set : CharSet)

/-- A glob as the list of its elements. -/
structure Glob where
  tokens : List Glob.Token

namespace Glob

/-- What is wrong with a glob. -/
inductive Problem where
  | range
  | wildcards
  | components
deriving DecidableEq, Repr

def Problem.message : Problem → String
  | .range => "invalid range pattern"
  | .wildcards => "wildcards are either regular \x60*\x60 or recursive \x60**\x60"
  | .components => "recursive wildcards must form a single path component"

/-- A problem and the place it was found at, counted in characters. -/
structure Fault where
  position : Nat
  problem : Problem
deriving DecidableEq, Repr

def Fault.message (f : Fault) : String :=
  "Pattern syntax error near position " ++ toString f.position ++ ": " ++ f.problem.message

/-- The set between brackets: ranges where a dash stands between two characters. -/
def setOf : List Char → CharSet
  | a :: '-' :: b :: rest => (CharSet.range a b).union (setOf rest)
  | a :: rest => (CharSet.singleton a).union (setOf rest)
  | [] => .empty

/-- A set after its opening bracket. Its first character, after a negation, stands for itself
even when it is a closing bracket. Gives the number of characters read too. -/
def bracket? (s : List Char) : Option (Token × Nat × List Char) :=
  let body := fun (s : List Char) => match s with
    | [] => none
    | first :: rest => match rest.dropWhile (· != ']') with
      | [] => none
      | _ :: after => some (first :: rest.takeWhile (· != ']'), after)
  match s with
  | '!' :: rest => (body rest).map fun (inner, after) => (.noneOf (setOf inner), inner.length + 2, after)
  | s => (body s).map fun (inner, after) => (.oneOf (setOf inner), inner.length + 1, after)

/-- Read a glob from a position on, where `before` is the character in front of it. -/
def readFrom (fuel position : Nat) (before : Option Char) (s : List Char) :
    Except Fault (List Token) :=
  match fuel, s with
  | _, [] => .ok []
  | 0, _ => .ok []
  | fuel + 1, c :: rest =>
    if c == '?' then
      return .anyChar :: (← readFrom fuel (position + 1) (some c) rest)
    else if c == '*' then
      let stars := (c :: rest).takeWhile (· == '*')
      let after := (c :: rest).dropWhile (· == '*')
      if stars.length == 1 then
        return .anyText :: (← readFrom fuel (position + 1) (some c) after)
      else if stars.length > 2 then .error ⟨position + 2, .wildcards⟩
      else if before.any (· != '/') then .error ⟨position - 1, .components⟩
      else match after with
        | [] => return [.anyComponents]
        | '/' :: after => return .anyComponents :: (← readFrom fuel (position + 3) (some '/') after)
        | _ => .error ⟨position + 2, .components⟩
    else if c == '[' then
      match bracket? rest with
      | some (token, size, after) =>
        return token :: (← readFrom fuel (position + 1 + size) (some ']') after)
      | none => .error ⟨position, .range⟩
    else return .char c :: (← readFrom fuel (position + 1) (some c) rest)

/-- Read a glob. -/
def parse (pattern : String) : Except Fault Glob :=
  (readFrom pattern.length 0 none pattern.toList).map Glob.mk

/-- Any text at all. -/
def anything : Regex := .repeated (.one .all) 0 none

/-- The expression an element abbreviates. -/
def Token.toRegex : Token → Regex
  | .char c => .one (.singleton c)
  | .anyChar => .one .all
  | .anyText => anything
  | .anyComponents =>
    .either (.either .empty (.andThen anything (.one (.singleton '/'))))
      (.andThen anything Regex.textEnd)
  | .oneOf set => .one set
  | .noneOf set => .one set.compl

/-- The expression a glob abbreviates. -/
def toRegex (g : Glob) : Regex :=
  .andThen Regex.textStart (.andThen (Regex.sequence (g.tokens.map Token.toRegex)) Regex.textEnd)

/-- Whether the glob matches a whole text. -/
def isMatch (g : Glob) (text : String) : Bool := g.toRegex.isMatch text

/-- The characters that make a pattern a glob. -/
def isMagic (c : Char) : Bool := c == '*' || c == '?' || c == '['

/-- Whether a pattern is a glob rather than a plain text. -/
def looksLike (pattern : String) : Bool := pattern.any isMagic

end Glob

end Layering
