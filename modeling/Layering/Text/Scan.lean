import Layering.Text.Blank

/-!
# Recognisers

A recogniser reads something off the start of a text or refuses. `leftmost?` tries it at every
place in turn, `every` collects what it reads without overlap, each search going on where the
last one ended.
-/

namespace Layering.Text

/-- Reads a value off the start of a text and gives the rest back. -/
abbrev Recognizer (α : Type) := List Char → Option (α × List Char)

/-- The text after `word`. -/
def literal? (word : List Char) (s : List Char) : Option (List Char) :=
  if word.isPrefixOf s then some (s.drop word.length) else none

/-- The text after a run of at least one blank. -/
def blanks? : List Char → Option (List Char)
  | [] => none
  | c :: rest => if isBlank c then some (trimStart rest) else none

/-- A run of at least one character of a kind. -/
def run? (kind : Char → Bool) (s : List Char) : Option (List Char × List Char) :=
  match s.takeWhile kind with
  | [] => none
  | word => some (word, s.dropWhile kind)

/-- The text after the first `c`. -/
def after? (c : Char) (s : List Char) : Option (List Char) :=
  match s.dropWhile (· != c) with
  | [] => none
  | _ :: rest => some rest

variable {α : Type}

/-- What `m` reads at the first place where it reads anything. -/
def leftmost? (m : Recognizer α) : Recognizer α
  | [] => m []
  | c :: rest => match m (c :: rest) with
    | some found => some found
    | none => leftmost? m rest

/-- Everything `m` reads from left to right, without overlap. -/
def every (m : Recognizer α) : List Char → List α
  | [] => []
  | c :: rest => match m (c :: rest) with
    | none => every m rest
    | some (a, after) =>
      if after.length < (c :: rest).length then a :: every m after else a :: every m rest
termination_by s => s.length
decreasing_by
  all_goals simp_wf
  all_goals simp_all only [List.length_cons]
  all_goals omega

/-- Whether `needle` stands somewhere in a text. -/
def occursIn (needle : List Char) : List Char → Bool
  | [] => needle.isEmpty
  | c :: rest => needle.isPrefixOf (c :: rest) || occursIn needle rest

/-- Whether the string `needle` stands somewhere in `s`. -/
def contains (s needle : String) : Bool :=
  occursIn needle.toList s.toList

end Layering.Text
