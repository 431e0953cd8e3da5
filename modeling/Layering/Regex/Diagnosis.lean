/-!
# What is wrong with a pattern

A diagnosis names a problem and the stretch of the pattern it is about. Its text shows the pattern
with the stretch marked below it; a pattern of several lines is shown with line numbers.
-/

namespace Layering.Regex

/-- A stretch of a pattern, by how many characters are left where it starts and where it ends. -/
structure Span where
  start : Nat
  stop : Nat
deriving DecidableEq, Repr, Inhabited

/-- The stretch from one rest of a pattern to a later one. -/
def Span.between (s rest : List Char) : Span := ⟨s.length, rest.length⟩

/-- The empty stretch before the rest of a pattern. -/
def Span.before (rest : List Char) : Span := ⟨rest.length, rest.length⟩

/-- The deepest nesting a pattern may have. -/
def depthLimit : Nat := 250

/-- A problem of a pattern. -/
inductive Problem where
  | classEscape
  | classRangeOrder
  | classRangeLiteral
  | classUnclosed
  | decimalTooLarge
  | hexEmpty
  | hexNoScalar
  | hexDigit
  | escapeIncomplete
  | escapeUnknown
  | flagDanglingNegation
  | flagDuplicate
  | flagRepeatedNegation
  | flagMissing
  | flagUnknown
  | groupNameDuplicate
  | groupNameEmpty
  | groupNameCharacter
  | groupNameUnclosed
  | groupUnclosed
  | groupUnopened
  | nesting
  | countOrder
  | countEmpty
  | countUnclosed
  | nothingToRepeat
  | boundaryUnclosed
  | boundaryUnknown
  | boundaryOrCount
  | propertyForm
  | backreference
  | lookAround
  | beyondAscii
  | invalidUtf8
  | propertyUnknown
  | propertyValueUnknown
deriving DecidableEq, Repr

def Problem.message : Problem → String
  | .classEscape => "invalid escape sequence found in character class"
  | .classRangeOrder => "invalid character class range, the start must be <= the end"
  | .classRangeLiteral => "invalid range boundary, must be a literal"
  | .classUnclosed => "unclosed character class"
  | .decimalTooLarge => "decimal literal invalid"
  | .hexEmpty => "hexadecimal literal empty"
  | .hexNoScalar => "hexadecimal literal is not a Unicode scalar value"
  | .hexDigit => "invalid hexadecimal digit"
  | .escapeIncomplete => "incomplete escape sequence, reached end of pattern prematurely"
  | .escapeUnknown => "unrecognized escape sequence"
  | .flagDanglingNegation => "dangling flag negation operator"
  | .flagDuplicate => "duplicate flag"
  | .flagRepeatedNegation => "flag negation operator repeated"
  | .flagMissing => "expected flag but got end of regex"
  | .flagUnknown => "unrecognized flag"
  | .groupNameDuplicate => "duplicate capture group name"
  | .groupNameEmpty => "empty capture group name"
  | .groupNameCharacter => "invalid capture group character"
  | .groupNameUnclosed => "unclosed capture group name"
  | .groupUnclosed => "unclosed group"
  | .groupUnopened => "unopened group"
  | .nesting =>
    "exceed the maximum number of nested parentheses/brackets (" ++ toString depthLimit ++ ")"
  | .countOrder => "invalid repetition count range, the start must be <= the end"
  | .countEmpty => "repetition quantifier expects a valid decimal"
  | .countUnclosed => "unclosed counted repetition"
  | .nothingToRepeat => "repetition operator missing expression"
  | .boundaryUnclosed =>
    "special word boundary assertion is either unclosed or contains an invalid character"
  | .boundaryUnknown =>
    "unrecognized special word boundary assertion, valid choices are: " ++
      "start, end, start-half or end-half"
  | .boundaryOrCount =>
    "found either the beginning of a special word boundary or a bounded repetition on a \\b " ++
      "with an opening brace, but no closing brace"
  | .propertyForm => "invalid Unicode character class"
  | .backreference => "backreferences are not supported"
  | .lookAround => "look-around, including look-ahead and look-behind, is not supported"
  | .beyondAscii => "Unicode not allowed here"
  | .invalidUtf8 => "pattern can match invalid UTF-8"
  | .propertyUnknown => "Unicode property not found"
  | .propertyValueUnknown => "Unicode property value not found"

/-- A problem, where it is, and where that stands in conflict with something earlier. -/
structure Diagnosis where
  problem : Problem
  span : Span
  earlier : Option Span := none
deriving DecidableEq, Repr

/-! ## The text of a diagnosis -/

/-- A line and a column, both counted from one. -/
structure Spot where
  line : Nat
  column : Nat
deriving DecidableEq, Repr

/-- The spot behind some characters. -/
def spotAfter (before : List Char) : Spot :=
  { line := before.count '\n' + 1
    column := (before.reverse.takeWhile (· != '\n')).length + 1 }

/-- A stretch as two spots of a pattern. -/
def spots (pattern : List Char) (s : Span) : Spot × Spot :=
  (spotAfter (pattern.take (pattern.length - s.start)),
   spotAfter (pattern.take (pattern.length - s.stop)))

/-- A line without the carriage return at its end. -/
def withoutReturn (line : List Char) : List Char :=
  if line.getLast? == some '\r' then line.dropLast else line

/-- The lines of a pattern; after a line feed at the end there is none. -/
def linesOf (pattern : List Char) : List (List Char) :=
  let pieces := pattern.splitOnP (· == '\n')
  let last := pieces.getLast?.getD []
  pieces.dropLast.map withoutReturn ++ if last.isEmpty then [] else [last]

/-- How wide line numbers are; a single line has none. -/
def numberWidth (pattern : List Char) : Nat :=
  let count := (linesOf pattern).length + if pattern.getLast? == some '\n' then 1 else 0
  if count ≤ 1 then 0 else (Nat.toDigits 10 count).length

/-- Carets below the columns of some stretches of a line, the first stretch first. -/
def carets : Nat → List (Nat × Nat) → List Char
  | _, [] => []
  | position, (start, stop) :: rest =>
    let blanks := start - 1 - position
    let width := max 1 (stop - start)
    List.replicate blanks ' ' ++ List.replicate width '^' ++
      carets (position + blanks + width) rest

/-- A line with its number, and carets below it if stretches lie on it. -/
def annotatedLine (width number : Nat) (line : List Char) (marks : List (Nat × Nat)) :
    List (List Char) :=
  let digits := Nat.toDigits 10 number
  let head :=
    if width == 0 then List.replicate 4 ' '
    else List.replicate (width - digits.length) ' ' ++ digits ++ [':', ' ']
  (head ++ line) ::
    if marks.isEmpty then [] else [List.replicate head.length ' ' ++ carets 0 marks]

/-- The stretches of a diagnosis in the order they stand in the pattern. -/
def Diagnosis.spans (d : Diagnosis) : List Span :=
  match d.earlier with
  | none => [d.span]
  | some e =>
    if e.start > d.span.start || (e.start == d.span.start && e.stop > d.span.stop) then [e, d.span]
    else [d.span, e]

/-- The lines between which a pattern of several lines is shown. -/
def divider : List Char := List.replicate 79 '~'

/-- The text of a diagnosis of a pattern. -/
def Diagnosis.text (pattern : String) (d : Diagnosis) : String :=
  let chars := pattern.toList
  let places := d.spans.map (spots chars)
  let shown := (linesOf chars).zipIdx.flatMap fun (line, i) =>
    annotatedLine (numberWidth chars) (i + 1) line
      (places.filterMap fun (a, b) =>
        if a.line == b.line && a.line == i + 1 then some (a.column, b.column) else none)
  let across := places.filterMap fun (a, b) =>
    if a.line == b.line then none
    else some ("on line " ++ toString a.line ++ " (column " ++ toString a.column ++
      ") through line " ++ toString b.line ++ " (column " ++ toString (b.column - 1) ++ ")").toList
  let body := if chars.contains '\n' then [divider] ++ shown ++ [divider] ++ across else shown
  "\n".intercalate
    (["regex parse error:"] ++ body.map String.ofList ++ ["error: " ++ d.problem.message])

end Layering.Regex
