import Layering.Regex.Escape

/-!
# Reading patterns

A pattern is read from left to right into a tree, with the groups and classes that are still open
on a stack. Of the flags only one matters for reading: verbose patterns skip blanks and comments,
to the end of the group that says so.
-/

namespace Layering.Regex

open Text

/-! ## Bracketed classes -/

/-- A class being read. -/
structure Bracket where
  /-- How many characters are left at its opening bracket. -/
  start : Nat
  /-- How many characters are left after its opening. -/
  opened : Nat := 0
  negated : Bool
  /-- The left side of the operation whose right side is being read. -/
  left : Option (ClassTree × SetOp) := none
  /-- The items of the operand so far, last first. -/
  items : List ClassTree := []
  /-- How many characters are left where the operand starts. -/
  here : Nat

namespace Bracket

def add (b : Bracket) (t : ClassTree) : Bracket := { b with items := t :: b.items }

/-- The operand that is being read; a list of one item is that item. -/
def operand (b : Bracket) : ClassTree :=
  match b.items with
  | [] => .empty ⟨b.here, b.here⟩
  | [t] => t
  | last :: rest =>
    .union ⟨(rest.getLast?.map (·.span.start)).getD b.here, last.span.stop⟩ (last :: rest).reverse

/-- What stands before the next operator, or before the end. -/
def value (b : Bracket) : ClassTree :=
  match b.left with
  | none => b.operand
  | some (l, op) => .operation ⟨l.span.start, b.operand.span.stop⟩ op l b.operand

/-- Start the right side of an operation. -/
def operator (b : Bracket) (op : SetOp) (rest : List Char) : Bracket :=
  { b with left := some (b.value, op), items := [], here := rest.length }

/-- The diagnosis of a class that is not closed. -/
def unclosed (b : Bracket) : Diagnosis := ⟨.classUnclosed, ⟨b.start, b.opened⟩, none⟩

end Bracket

/-- The character `c` as an item, where `rest` stands after it. -/
def ownItem (c : Char) (rest : List Char) : ClassTree :=
  .literal { span := .between (c :: rest) rest, char := c }

/-- Literal dashes at the start of a class. -/
def openDashes (verbose : Bool) : List Char → Bracket → Bracket × List Char
  | [], b => (b, [])
  | c :: rest, b =>
    if c == '-' then openDashes verbose (skip verbose rest) (b.add (ownItem c rest))
    else (b, c :: rest)
termination_by s => s.length
decreasing_by
  have := length_skip_le verbose rest
  simp only [List.length_cons]
  omega

/-- The start of a class after its bracket: a negation, then dashes or a closing bracket that
stand for themselves. -/
def openBracket (verbose : Bool) (s : List Char) : Except Diagnosis (Bracket × List Char) :=
  let start := s.length + 1
  let unclosed : Diagnosis := ⟨.classUnclosed, ⟨start, 0⟩, none⟩
  let (negated, s) := match skip verbose s with
    | '^' :: rest => (true, skip verbose rest)
    | s => (false, s)
  if s.isEmpty then .error unclosed
  else match openDashes verbose s { start, negated, here := s.length } with
    | (_, []) => .error ⟨.classUnclosed, ⟨start, start⟩, none⟩
    | (b, c :: rest) =>
      if c == ']' && b.items.isEmpty then
        let after := skip verbose rest
        if after.isEmpty then .error unclosed
        else .ok ({ b.add (ownItem c rest) with opened := after.length }, after)
      else .ok ({ b with opened := rest.length + 1 }, c :: rest)

/-- A class between colons, after its opening bracket. -/
def colonClass? (s : List Char) : Option (ClassTree × List Char) :=
  match s with
  | ':' :: rest =>
    let (negated, rest) := match rest with
      | '^' :: rest => (true, rest)
      | _ => (false, rest)
    match rest.dropWhile (· != ':') with
    | ':' :: ']' :: after => (asciiClass? (rest.takeWhile (· != ':'))).map fun set =>
        (.named ⟨s.length + 1, after.length⟩ (.ascii set negated), after)
    | _ => none
  | _ => none

/-- One character or named class inside brackets. -/
def classElement (verbose : Bool) (c : Char) (rest : List Char) : Found :=
  if c == '\\' then escape verbose rest
  else .ok (.literal { span := .between (c :: rest) rest, char := c }, rest)

/-- An element that stands alone in a class. -/
def aloneItem : Element → Except Diagnosis ClassTree
  | .literal l => .ok (.literal l)
  | .named span set => .ok (.named span set)
  | .place span _ => .error ⟨.classEscape, span, none⟩

/-- An element at an end of a range. -/
def rangeEnd : Element → Except Diagnosis Literal
  | .literal l => .ok l
  | e => .error ⟨.classRangeLiteral, e.span, none⟩

/-- The character after a dash, where blanks and the mark of a comment are passed over. -/
def afterDash (verbose : Bool) (s : List Char) : Option Char :=
  if verbose then
    match s.dropWhile isBlank with
    | '#' :: rest => (rest.dropWhile isBlank).head?
    | s => s.head?
  else s.head?

/-- An item or a range of characters, in the class that `b` has read so far. -/
def rangeOrItem (verbose : Bool) (b : Bracket) (c : Char) (rest : List Char) :
    Except Diagnosis (ClassTree × List Char) := do
  let (first, rest) ← classElement verbose c rest
  match skip verbose rest with
  | [] => .error b.unclosed
  | d :: after =>
    let next := afterDash verbose after
    if d != '-' || next == some ']' || next == some '-' then
      return (← aloneItem first, d :: after)
    else match skip verbose after with
      | [] => .error b.unclosed
      | e :: after => do
        let (last, after) ← classElement verbose e after
        let low ← rangeEnd first
        let high ← rangeEnd last
        if low.char ≤ high.char then return (.range low high, after)
        else .error ⟨.classRangeOrder, ⟨low.span.start, high.span.stop⟩, none⟩

/-- Read a class to its end, with the enclosing classes on a stack. Every round takes at least one
character. -/
def classBody (verbose : Bool) (fuel : Nat) (b : Bracket) (outer : List Bracket) (s : List Char) :
    Except Diagnosis (Tree × List Char) :=
  match fuel, skip verbose s with
  | _, [] => .error b.unclosed
  | 0, _ => .error b.unclosed
  | fuel + 1, '[' :: rest => match colonClass? rest with
    | some (t, after) => classBody verbose fuel (b.add t) outer after
    | none => do
      let (inner, after) ← openBracket verbose rest
      classBody verbose fuel inner (b :: outer) after
  | fuel + 1, ']' :: rest =>
    let span : Span := ⟨b.start, rest.length⟩
    match outer with
    | [] => .ok (.bracketed span b.negated b.value, rest)
    | o :: outer => classBody verbose fuel (o.add (.bracketed span b.negated b.value)) outer rest
  | fuel + 1, '&' :: '&' :: rest => classBody verbose fuel (b.operator .inter rest) outer rest
  | fuel + 1, '-' :: '-' :: rest => classBody verbose fuel (b.operator .diff rest) outer rest
  | fuel + 1, '~' :: '~' :: rest => classBody verbose fuel (b.operator .symmDiff rest) outer rest
  | fuel + 1, c :: rest => do
    let (t, after) ← rangeOrItem verbose b c rest
    classBody verbose fuel (b.add t) outer after

/-- A class after its opening bracket. -/
def readClass (verbose : Bool) (s : List Char) : Except Diagnosis (Tree × List Char) := do
  let (b, rest) ← openBracket verbose s
  classBody verbose (s.length + 1) b [] rest

/-! ## Flags -/

/-- The letters of flags. -/
def isFlag (c : Char) : Bool := "imsUuRx".toList.contains c

/-- Flag letters up to a colon or a closing parenthesis, each at most once, with at most one
dash, which is not the last of them. `seen` holds the letters so far, last first. -/
def flagLetters (on : Bool) (seen : List (Char × Span)) :
    List Char → Except Diagnosis (FlagChanges × List Char)
  | [] => .error ⟨.flagMissing, .before [], none⟩
  | c :: rest =>
    let span := Span.between (c :: rest) rest
    let earlier := (seen.find? (·.1 == c)).map (·.2)
    if c == ':' || c == ')' then
      match seen with
      | ('-', last) :: _ => .error ⟨.flagDanglingNegation, last, none⟩
      | _ => .ok ([], c :: rest)
    else if c == '-' then
      if earlier.isSome then .error ⟨.flagRepeatedNegation, span, earlier⟩
      else flagLetters false ((c, span) :: seen) rest
    else if !isFlag c then .error ⟨.flagUnknown, span, none⟩
    else if earlier.isSome then .error ⟨.flagDuplicate, span, earlier⟩
    else do
      let (changes, after) ← flagLetters on ((c, span) :: seen) rest
      return ((c, on) :: changes, after)

/-- Whether a pattern is verbose after some changes of flags. -/
def verboseAfter (changes : FlagChanges) (verbose : Bool) : Bool :=
  ((changes.find? (·.1 == 'x')).map (·.2)).getD verbose

/-! ## Repetition -/

/-- Digits, with what is skipped between and after them. -/
def decimalDigits (verbose : Bool) : List Char → List Char × List Char
  | [] => ([], [])
  | c :: rest =>
    if c.isDigit then
      let (ds, after) := decimalDigits verbose (skip verbose rest)
      (c :: ds, after)
    else ([], c :: rest)
termination_by s => s.length
decreasing_by
  have := length_skip_le verbose rest
  simp only [List.length_cons]
  omega

/-- A decimal number of at most 32 bits with blanks around it, or what is wrong with it; the text
goes on behind it in either case. -/
def count (verbose : Bool) (s : List Char) : Except Diagnosis Nat × List Char :=
  let s := s.dropWhile isBlank
  let (digits, after) := decimalDigits verbose s
  let span := Span.between s after
  let n : Nat := digits.foldl (fun n c => n * 10 + (c.toNat - 48)) 0
  let result : Except Diagnosis Nat :=
    if digits.isEmpty then .error ⟨.countEmpty, span, none⟩
    else if n < Nat.pow 2 32 then .ok n
    else .error ⟨.decimalTooLarge, span, none⟩
  (result, skip verbose (after.dropWhile isBlank))

/-- The bounds of a repetition, where `s` stands after the opening brace, and the text after them. -/
def openBounds (verbose : Bool) (unclosed : Diagnosis) (s : List Char) :
    Except Diagnosis ((Nat × Option Nat) × List Char) :=
  let (low, rest) := count verbose s
  match rest with
  | [] => .error unclosed
  | ',' :: rest => match skip verbose rest with
    | [] => .error unclosed
    | '\x7d' :: rest => do return ((← low, none), '\x7d' :: rest)
    | rest => do
      let low ← low
      let (high, rest) := count verbose rest
      return ((low, some (← high)), rest)
  | rest => do
    let n ← low
    return ((n, some n), rest)

/-- The bounds of a repetition and its closing brace, where `s` stands after the opening one. -/
def bounds (verbose : Bool) (s : List Char) :
    Except Diagnosis ((Nat × Option Nat) × List Char) := do
  let unclosed := fun (rest : List Char) =>
    Diagnosis.mk .countUnclosed ⟨s.length + 1, rest.length⟩ none
  let (range, rest) ← openBounds verbose (unclosed []) (skip verbose s)
  match rest with
  | '\x7d' :: rest => return (range, rest)
  | rest => .error (unclosed rest)

/-- The text after the question mark of a lazy repetition, if there is one. -/
def lazyMark (s : List Char) : List Char :=
  match s with
  | '?' :: rest => rest
  | s => s

/-! ## Patterns -/

/-- The alternatives of a group, or of the pattern as a whole, as far as they are read. -/
structure Level where
  /-- The finished alternatives, last first. -/
  branches : List Tree := []
  /-- The parts of the current alternative, last first. -/
  parts : List Tree := []
  /-- How many characters are left where the first alternative starts. -/
  first : Nat
  /-- How many characters are left where the current alternative starts. -/
  here : Nat

/-- The current alternative, which ends before `rest`; a list of one part is that part. -/
def Level.current (l : Level) (rest : List Char) : Tree :=
  let span : Span := ⟨l.here, rest.length⟩
  match l.parts with
  | [] => .empty span
  | [t] => t
  | parts => .concat span parts.reverse

/-- All alternatives. -/
def Level.finish (l : Level) (rest : List Char) : Tree :=
  match l.branches with
  | [] => l.current rest
  | branches => .alternation ⟨l.first, rest.length⟩ (l.current rest :: branches).reverse

/-- A group whose inside is being read. -/
structure OpenGroup where
  /-- How many characters are left at its opening parenthesis. -/
  start : Nat
  changes : FlagChanges
  /-- Whether the pattern around the group is verbose. -/
  verbose : Bool
  /-- What is read around the group. -/
  around : Level

/-- The state of the reader. -/
structure Reading where
  verbose : Bool
  level : Level
  outer : List OpenGroup := []
  /-- The names of groups so far. -/
  names : List (List Char × Span) := []

namespace Reading

def push (r : Reading) (t : Tree) : Reading :=
  { r with level := { r.level with parts := t :: r.level.parts } }

/-- Start the next alternative, where `rest` stands after the bar. -/
def branch (r : Reading) (rest : List Char) : Reading :=
  { r with level := { r.level with
      branches := r.level.current ('|' :: rest) :: r.level.branches
      parts := []
      here := rest.length } }

/-- Start a group, where `rest` stands after its opening. -/
def enter (r : Reading) (start : Nat) (changes : FlagChanges) (rest : List Char) : Reading :=
  { r with
    verbose := verboseAfter changes r.verbose
    level := { first := rest.length, here := rest.length }
    outer := ⟨start, changes, r.verbose, r.level⟩ :: r.outer }

/-- End a group, where `rest` stands after the closing parenthesis. -/
def leave (r : Reading) (rest : List Char) : Except Diagnosis Reading :=
  match r.outer with
  | [] => .error ⟨.groupUnopened, .between (')' :: rest) rest, none⟩
  | g :: outer =>
    .ok ({ r with verbose := g.verbose, level := g.around, outer }.push
      (.group ⟨g.start, rest.length⟩ g.changes (r.level.finish (')' :: rest))))

/-- The last part, if it can be repeated, and the state without it. -/
def popLast (r : Reading) (span : Span) : Except Diagnosis (Tree × Reading) :=
  match r.level.parts with
  | t :: parts =>
    if t.isRepeatable then .ok (t, { r with level := { r.level with parts } })
    else .error ⟨.nothingToRepeat, span, none⟩
  | [] => .error ⟨.nothingToRepeat, span, none⟩

/-- Repeat the last part, with a sign that stands before `rest`. -/
def repeatLast (r : Reading) (min : Nat) (max : Option Nat) (rest : List Char) :
    Except Diagnosis (Reading × List Char) := do
  let (t, r) ← r.popLast ⟨rest.length + 1, rest.length + 1⟩
  let after := lazyMark rest
  return (r.push (.repetition ⟨t.span.start, after.length⟩ t min max), after)

/-- Repeat the last part, with bounds after an opening brace that stands before `rest`. -/
def repeatBetween (r : Reading) (rest : List Char) : Except Diagnosis (Reading × List Char) := do
  let (t, r) ← r.popLast ⟨rest.length + 1, rest.length + 1⟩
  let ((min, max), after) ← bounds r.verbose rest
  let after := lazyMark (skip r.verbose after)
  if max.any (· < min) then throw ⟨.countOrder, ⟨rest.length + 1, after.length⟩, none⟩
  return (r.push (.repetition ⟨t.span.start, after.length⟩ t min max), after)

/-- Add an element that is no group. -/
def element (r : Reading) : Element → Reading
  | .literal l => r.push (.literal l)
  | .place span p => r.push (.place span p)
  | .named span set => r.push (.named span set)

end Reading

/-- The characters of a group's name. -/
def isNameChar (first : Bool) (c : Char) : Bool :=
  c == '_' || isAlphabetic c ||
    (!first && (c == '.' || c == '[' || c == ']' || Category.numbers.any (·.contains c)))

/-- A group's name up to its closing angle bracket, and the text from there on. -/
def groupName (first : Bool) : List Char → Except Diagnosis (List Char × List Char)
  | [] => .error ⟨.groupNameUnclosed, .before [], none⟩
  | c :: rest =>
    if c == '>' then .ok ([], c :: rest)
    else if !isNameChar first c then
      .error ⟨.groupNameCharacter, .between (c :: rest) rest, none⟩
    else do
      let (name, after) ← groupName false rest
      return (c :: name, after)

/-- Enter a group with a name that is not taken. -/
def namedGroup (r : Reading) (start : Nat) (s : List Char) :
    Except Diagnosis (Reading × List Char) := do
  let (name, closing) ← groupName true s
  let span := Span.between s closing
  let rest := closing.drop 1
  if name.isEmpty then .error ⟨.groupNameEmpty, .before s, none⟩
  else match r.names.find? (·.1 == name) with
    | some (_, earlier) => .error ⟨.groupNameDuplicate, span, some earlier⟩
    | none => return ({ r with names := (name, span) :: r.names }.enter start [] rest, rest)

/-- A group that starts with a question mark, where `s` stands after the mark. -/
def flagGroup (r : Reading) (start : Nat) (s : List Char) :
    Except Diagnosis (Reading × List Char) :=
  if s.isEmpty then .error ⟨.groupUnclosed, ⟨start, start - 1⟩, none⟩
  else do
    let (changes, closing) ← flagLetters true [] s
    let rest := closing.drop 1
    if closing.head? == some ':' then return (r.enter start changes rest, rest)
    else if s.head? == some ')' then .error ⟨.nothingToRepeat, ⟨s.length + 1, s.length + 1⟩, none⟩
    else
      return ({ r with verbose := verboseAfter changes r.verbose }.push
        (.flags ⟨start, rest.length⟩ changes), rest)

/-- A group, or flags for the rest of the current one, after an opening parenthesis. -/
def readGroup (r : Reading) (s : List Char) : Except Diagnosis (Reading × List Char) :=
  let start := s.length + 1
  let lookAround := fun (rest : List Char) =>
    Except.error (Diagnosis.mk .lookAround ⟨start, rest.length⟩ none)
  match skip r.verbose s with
  | '?' :: '=' :: rest => lookAround rest
  | '?' :: '!' :: rest => lookAround rest
  | '?' :: '<' :: '=' :: rest => lookAround rest
  | '?' :: '<' :: '!' :: rest => lookAround rest
  | '?' :: 'P' :: '<' :: rest => namedGroup r start rest
  | '?' :: '<' :: rest => namedGroup r start rest
  | '?' :: rest => flagGroup r start rest
  | rest => .ok (r.enter start [] rest, rest)

/-- Read the next element, where `c` is its first character. -/
def step (r : Reading) (c : Char) (rest : List Char) : Except Diagnosis (Reading × List Char) :=
  let span := Span.between (c :: rest) rest
  match c with
  | '(' => readGroup r rest
  | ')' => do return (← r.leave rest, rest)
  | '|' => .ok (r.branch rest, rest)
  | '[' => do
    let (t, after) ← readClass r.verbose rest
    return (r.push t, after)
  | '?' => r.repeatLast 0 (some 1) rest
  | '*' => r.repeatLast 0 none rest
  | '+' => r.repeatLast 1 none rest
  | '\x7b' => r.repeatBetween rest
  | '\\' => do
    let (e, after) ← escape r.verbose rest
    return (r.element e, after)
  | '.' => .ok (r.push (.dot span), rest)
  | '^' => .ok (r.push (.place span .lineStart), rest)
  | '$' => .ok (r.push (.place span .lineEnd), rest)
  | c => .ok (r.push (.literal { span, char := c }), rest)

/-- Read a pattern to its end. Every element takes at least one character, so as many rounds as
there are characters suffice. -/
def readAll (fuel : Nat) (r : Reading) (s : List Char) : Except Diagnosis Reading :=
  match fuel, skip r.verbose s with
  | _, [] => .ok r
  | 0, _ => .ok r
  | fuel + 1, c :: rest => do
    let (r, after) ← step r c rest
    readAll fuel r after

/-- Read a pattern into a tree. -/
def Tree.read (verbose : Bool) (pattern : List Char) : Except Diagnosis Tree := do
  let n := pattern.length
  let r ← readAll n { verbose, level := { first := n, here := n } } pattern
  match r.outer with
  | g :: _ => .error ⟨.groupUnclosed, ⟨g.start, g.start - 1⟩, none⟩
  | [] =>
    let t := r.level.finish []
    t.checkDepth 0
    return t

end Layering.Regex
