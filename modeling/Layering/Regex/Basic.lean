import Layering.Text.CharSet
import Layering.Text.Word

/-!
# Regular expressions

A pattern is matched by sets of positions: `ends` takes the positions where a match may start
to the positions where it can end, by recursion on the pattern. Repetition closes a set of
positions under the repeated pattern, which takes no more rounds than the text has positions,
so every pattern is matched in time polynomial in the text.
-/

namespace Layering

open Text

/-- A regular expression. -/
inductive Regex where
  /-- The empty text. -/
  | empty
  /-- One character of a set. -/
  | one (set : CharSet)
  /-- The empty text at a place that the characters before and after it allow. -/
  | look (allows : Option Char → Option Char → Bool)
  /-- One pattern after the other. -/
  | andThen (first second : Regex)
  /-- Either of two patterns. -/
  | either (left right : Regex)
  /-- A pattern at least `min` and, if there is a limit, at most `max` times. -/
  | repeated (body : Regex) (min : Nat) (max : Option Nat)

namespace Regex

/-! ## Matching -/

/-- The members of two increasing lists, in increasing order. -/
def unite : List Nat → List Nat → List Nat
  | [], ys => ys
  | xs, [] => xs
  | x :: xs, y :: ys =>
    if x < y then x :: unite xs (y :: ys)
    else if y < x then y :: unite (x :: xs) ys
    else x :: unite xs ys
termination_by xs ys => xs.length + ys.length

/-- Apply `step` exactly `n` times. -/
def iterate (step : List Nat → List Nat) : Nat → List Nat → List Nat
  | 0, starts => starts
  | n + 1, starts => iterate step n (step starts)

/-- Everything reached from `starts` in at most `n` steps. -/
def closure (step : List Nat → List Nat) : Nat → List Nat → List Nat
  | 0, starts => starts
  | n + 1, starts =>
    let reached := unite starts (step starts)
    if reached.length == starts.length then starts else closure step n reached

/-- The character before a position. -/
def before (text : Array Char) (i : Nat) : Option Char :=
  if i == 0 then none else text[i - 1]?

/-- The positions where a match from one of `starts` can end. -/
def ends (text : Array Char) : Regex → List Nat → List Nat
  | .empty, starts => starts
  | .one set, starts => starts.filterMap fun i =>
    match text[i]? with
    | some c => if set.contains c then some (i + 1) else none
    | none => none
  | .look allows, starts => starts.filter fun i => allows (before text i) text[i]?
  | .andThen first second, starts => second.ends text (first.ends text starts)
  | .either left right, starts => unite (left.ends text starts) (right.ends text starts)
  | .repeated body min max, starts =>
    let rounds := text.size + 1
    let more := match max with
      | some max => Nat.min (max - min) rounds
      | none => rounds
    closure (body.ends text) more (iterate (body.ends text) (Nat.min min rounds) starts)

/-- Whether the pattern matches somewhere in a text. -/
def isMatch (r : Regex) (text : String) : Bool :=
  let chars := text.toList.toArray
  !(r.ends chars (List.range (chars.size + 1))).isEmpty

/-! ## Sequences and alternatives -/

/-- The patterns of a list one after the other. -/
def sequence : List Regex → Regex
  | [] => .empty
  | [r] => r
  | r :: s :: rest => .andThen r (sequence (s :: rest))

/-- Any pattern of a list; the empty text when there is none. -/
def anyOf : List Regex → Regex
  | [] => .empty
  | [r] => r
  | r :: s :: rest => .either r (anyOf (s :: rest))

/-! ## Places -/

/-- The start of the text. -/
def textStart : Regex := .look fun b _ => b.isNone

/-- The end of the text. -/
def textEnd : Regex := .look fun _ a => a.isNone

/-- The start of a line; with `crlf` a carriage return ends lines too. -/
def lineStart (crlf : Bool) : Regex := .look fun b a =>
  match b with
  | none => true
  | some c => c == '\n' || (crlf && c == '\r' && a != some '\n')

/-- The end of a line; with `crlf` a carriage return ends lines too. -/
def lineEnd (crlf : Bool) : Regex := .look fun b a =>
  match a with
  | none => true
  | some c => if crlf then c == '\r' || (c == '\n' && b != some '\r') else c == '\n'

/-- The six kinds of word boundary. -/
inductive Boundary where
  | edge
  | inside
  | start
  | finish
  | startHalf
  | finishHalf
deriving DecidableEq, Repr

/-- A word boundary, where words are made of the characters that `word` accepts. -/
def boundary (word : Char → Bool) (kind : Boundary) : Regex := .look fun b a =>
  let left := b.any word
  let right := a.any word
  match kind with
  | .edge => left != right
  | .inside => left == right
  | .start => !left && right
  | .finish => left && !right
  | .startHalf => !left
  | .finishHalf => !right

/-! ## Size -/

/-- What one character of a set costs: a state, and its ranges when there are several. Sets
beyond ASCII need a little automaton over the bytes of the characters. -/
def setCost (s : CharSet) : Nat :=
  if s.ascii then if s.pieces ≤ 1 then 32 else 32 + 8 * s.pieces
  else 400 + 60 * s.pieces

/-- The memory of a pattern with all its repetitions written out. -/
def cost : Regex → Nat
  | .empty => 0
  | .one set => setCost set
  | .look _ => 32
  | .andThen a b => a.cost + b.cost
  | .either a b => a.cost + b.cost + 8
  | .repeated body min none => (if min == 0 then 1 else min) * body.cost + 40
  | .repeated body min (some max) =>
    if max ≤ min then min * body.cost
    else min * body.cost + 32 + (max - min) * (body.cost + 40)

/-- The most memory a pattern may take. -/
def costLimit : Nat := 10485760

end Regex

end Layering
