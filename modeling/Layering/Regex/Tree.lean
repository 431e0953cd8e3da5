import Layering.Regex.Basic
import Layering.Regex.Diagnosis

/-!
# Patterns as they are written

The tree of a pattern, with the stretch of the pattern each part stands in. What the parts match
is said by `Tree.meaning`.
-/

namespace Layering.Regex

open Text

/-- A character that stands for itself. -/
structure Literal where
  span : Span
  char : Char
  /-- It is written as a byte, with two hexadecimal digits. -/
  byte : Bool := false

/-- A class of characters that has a name. -/
inductive NamedSet where
  /-- Digits, blanks or word characters, by the letter `d`, `s` or `w`. -/
  | shorthand (letter : Char) (negated : Bool)
  | property (name : List Char) (value : Option (List Char)) (negated : Bool)
  | ascii (set : CharSet) (negated : Bool)

/-- The operations between the operands of a class. -/
inductive SetOp where
  | inter
  | diff
  | symmDiff
deriving DecidableEq, Repr

/-- What stands between the brackets of a class. -/
inductive ClassTree where
  | empty (span : Span)
  | literal (l : Literal)
  | range (low high : Literal)
  | named (span : Span) (set : NamedSet)
  | bracketed (span : Span) (negated : Bool) (body : ClassTree)
  | union (span : Span) (items : List ClassTree)
  | operation (span : Span) (op : SetOp) (left right : ClassTree)

def ClassTree.span : ClassTree → Span
  | .empty span => span
  | .literal l => l.span
  | .range low high => ⟨low.span.start, high.span.stop⟩
  | .named span _ => span
  | .bracketed span _ _ => span
  | .union span _ => span
  | .operation span _ _ _ => span

/-- A place between characters. -/
inductive Place where
  | lineStart
  | lineEnd
  | textStart
  | textEnd
  | boundary (kind : Boundary)
deriving DecidableEq, Repr

/-- Flags that are set or cleared, by their letters. -/
abbrev FlagChanges := List (Char × Bool)

/-- A pattern as it is written. -/
inductive Tree where
  | empty (span : Span)
  | flags (span : Span) (changes : FlagChanges)
  | literal (l : Literal)
  | dot (span : Span)
  | place (span : Span) (p : Place)
  | named (span : Span) (set : NamedSet)
  | bracketed (span : Span) (negated : Bool) (body : ClassTree)
  | repetition (span : Span) (body : Tree) (min : Nat) (max : Option Nat)
  | group (span : Span) (changes : FlagChanges) (body : Tree)
  | alternation (span : Span) (branches : List Tree)
  | concat (span : Span) (parts : List Tree)

namespace Tree

def span : Tree → Span
  | .empty span => span
  | .flags span _ => span
  | .literal l => l.span
  | .dot span => span
  | .place span _ => span
  | .named span _ => span
  | .bracketed span _ _ => span
  | .repetition span _ _ _ => span
  | .group span _ _ => span
  | .alternation span _ => span
  | .concat span _ => span

/-- Whether there is something to repeat. -/
def isRepeatable : Tree → Bool
  | .empty _ | .flags _ _ => false
  | _ => true

end Tree

/-! ## Nesting -/

/-- Go one level deeper. -/
def deeper (depth : Nat) (span : Span) : Except Diagnosis Nat :=
  if depth < depthLimit then .ok (depth + 1) else .error { problem := .nesting, span }

mutual

/-- Check how deeply a class nests. -/
def ClassTree.checkDepth (depth : Nat) : ClassTree → Except Diagnosis Unit
  | .bracketed span _ body => do body.checkDepth (← deeper depth span)
  | .union span items => do ClassTree.checkDepths (← deeper depth span) items
  | .operation span _ left right => do
    let depth ← deeper depth span
    left.checkDepth depth
    right.checkDepth depth
  | _ => .ok ()

def ClassTree.checkDepths (depth : Nat) : List ClassTree → Except Diagnosis Unit
  | [] => .ok ()
  | t :: rest => do
    t.checkDepth depth
    ClassTree.checkDepths depth rest

end

mutual

/-- Check how deeply a pattern nests. -/
def Tree.checkDepth (depth : Nat) : Tree → Except Diagnosis Unit
  | .bracketed span _ body => do body.checkDepth (← deeper depth span)
  | .repetition span body _ _ => do body.checkDepth (← deeper depth span)
  | .group span _ body => do body.checkDepth (← deeper depth span)
  | .alternation span branches => do Tree.checkDepths (← deeper depth span) branches
  | .concat span parts => do Tree.checkDepths (← deeper depth span) parts
  | _ => .ok ()

def Tree.checkDepths (depth : Nat) : List Tree → Except Diagnosis Unit
  | [] => .ok ()
  | t :: rest => do
    t.checkDepth depth
    Tree.checkDepths depth rest

end

end Layering.Regex
