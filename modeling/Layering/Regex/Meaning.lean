import Layering.Regex.Reader

/-!
# What patterns mean

A pattern as it is written becomes a regular expression. Flags set in a group hold to its end.
Without the Unicode flag, which only a pattern itself can clear, classes are those of ASCII, and a
class that would leave ASCII is refused. A pattern is also refused when its repetitions, written
out, take too much memory.
-/

namespace Layering.Regex

open Text

/-- How a pattern is taken. -/
structure Flags where
  /-- Letters match in either case. -/
  fold : Bool := false
  /-- `^` and `$` match at lines. -/
  lines : Bool := false
  /-- `.` matches a line feed too. -/
  dotAll : Bool := false
  /-- Blanks and comments are skipped. -/
  verbose : Bool := false
  /-- A carriage return ends lines too. -/
  crlf : Bool := false
  unicode : Bool := true

namespace Flags

/-- Set or clear the flag with a letter. -/
def change (flags : Flags) (letter : Char) (on : Bool) : Flags :=
  match letter with
  | 'i' => { flags with fold := on }
  | 'm' => { flags with lines := on }
  | 's' => { flags with dotAll := on }
  | 'x' => { flags with verbose := on }
  | 'R' => { flags with crlf := on }
  | 'u' => { flags with unicode := on }
  | _ => flags

def changeAll (flags : Flags) (changes : FlagChanges) : Flags :=
  changes.foldl (fun flags (letter, on) => flags.change letter on) flags

/-- A set without its case distinctions, if the flags ask for it. -/
def folded (flags : Flags) (s : CharSet) : CharSet :=
  if !flags.fold then s else if flags.unicode then s.folded else s.foldedAscii

/-- The set or, if `negated`, everything else; only Unicode has everything else. -/
def negated (flags : Flags) (span : Span) (negated : Bool) (s : CharSet) :
    Except Diagnosis CharSet :=
  if !negated then .ok s
  else if flags.unicode then .ok s.compl
  else .error ⟨.invalidUtf8, span, none⟩

/-- The word characters boundaries are made of. -/
def word (flags : Flags) : Char → Bool := if flags.unicode then isWord else isAsciiWord

end Flags

/-! ## Characters and classes -/

/-- The character of a literal. Without Unicode a byte beyond ASCII is no character. -/
def Literal.meaning (flags : Flags) (l : Literal) : Except Diagnosis Char :=
  if flags.unicode || !l.byte || l.char.toNat < 128 then .ok l.char
  else .error ⟨.invalidUtf8, l.span, none⟩

/-- The character of a literal in a class. Without Unicode it is of ASCII. -/
def Literal.inClass (flags : Flags) (l : Literal) : Except Diagnosis Char := do
  let c ← l.meaning flags
  if flags.unicode || c.toNat < 128 then return c
  else .error ⟨.beyondAscii, l.span, none⟩

/-- Digits, blanks or word characters. -/
def shorthandSet (flags : Flags) (letter : Char) : CharSet :=
  if letter == 'd' then
    if flags.unicode then { contains := isDigit, pieces := 71 } else .range '0' '9'
  else if letter == 's' then
    if flags.unicode then { contains := isBlank, pieces := 10 }
    else .ofRanges [('\t', '\r'), (' ', ' ')]
  else
    if flags.unicode then { contains := isWord, pieces := 770 }
    else .ofRanges [('0', '9'), ('A', 'Z'), ('_', '_'), ('a', 'z')]

/-- The class of a property, or what is wrong with its name. -/
def propertySet (name : List Char) : Option (List Char) → Except Problem CharSet
  | none => match property? name with
    | some set => .ok set
    | none => .error .propertyUnknown
  | some value => match valuedProperty? name value with
    | some set => .ok set
    | none => .error (if hasValues name then .propertyValueUnknown else .propertyUnknown)

/-- The set of a named class. -/
def NamedSet.meaning (flags : Flags) (span : Span) : NamedSet → Except Diagnosis CharSet
  | .shorthand letter negated => flags.negated span negated (shorthandSet flags letter)
  | .ascii set negated => flags.negated span negated (flags.folded set)
  | .property name value negated =>
    if !flags.unicode then .error ⟨.beyondAscii, span, none⟩
    else match propertySet name value with
      | .ok set => flags.negated span negated (flags.folded set)
      | .error problem => .error ⟨problem, span, none⟩

def SetOp.apply : SetOp → CharSet → CharSet → CharSet
  | .inter => CharSet.inter
  | .diff => CharSet.diff
  | .symmDiff => CharSet.symmDiff

mutual

/-- The set of what stands between brackets. -/
def ClassTree.meaning (flags : Flags) : ClassTree → Except Diagnosis CharSet
  | .empty _ => .ok .empty
  | .literal l => do return .singleton (← l.inClass flags)
  | .range low high => do
    let low ← low.inClass flags
    return .range low (← high.inClass flags)
  | .named span set => set.meaning flags span
  | .bracketed span negated body => do
    flags.negated span negated (flags.folded (← body.meaning flags))
  | .union _ items => ClassTree.unionMeaning flags items
  | .operation _ op left right => do
    let left ← left.meaning flags
    return op.apply (flags.folded left) (flags.folded (← right.meaning flags))

/-- The union of the sets of some items. -/
def ClassTree.unionMeaning (flags : Flags) : List ClassTree → Except Diagnosis CharSet
  | [] => .ok .empty
  | t :: rest => do
    let set ← t.meaning flags
    return set.union (← ClassTree.unionMeaning flags rest)

end

/-- The set of the dot; without Unicode it would leave ASCII. -/
def dotSet (flags : Flags) (span : Span) : Except Diagnosis CharSet :=
  if !flags.unicode then .error ⟨.invalidUtf8, span, none⟩
  else if flags.dotAll then .ok .all
  else if flags.crlf then .ok (CharSet.ofRanges [('\n', '\n'), ('\r', '\r')]).compl
  else .ok (CharSet.singleton '\n').compl

/-! ## Patterns -/

def Place.meaning (flags : Flags) : Place → Regex
  | .lineStart => if flags.lines then Regex.lineStart flags.crlf else Regex.textStart
  | .lineEnd => if flags.lines then Regex.lineEnd flags.crlf else Regex.textEnd
  | .textStart => Regex.textStart
  | .textEnd => Regex.textEnd
  | .boundary kind => Regex.boundary flags.word kind

mutual

/-- The regular expression of a tree, and the flags after it. -/
def Tree.meaning (flags : Flags) : Tree → Except Diagnosis (Regex × Flags)
  | .empty _ => .ok (.empty, flags)
  | .flags _ changes => .ok (.empty, flags.changeAll changes)
  | .literal l => do return (.one (flags.folded (.singleton (← l.meaning flags))), flags)
  | .dot span => do return (.one (← dotSet flags span), flags)
  | .place _ p => .ok (p.meaning flags, flags)
  | .named span set => do return (.one (← set.meaning flags span), flags)
  | .bracketed span negated body => do
    let set ← body.meaning flags
    return (.one (← flags.negated span negated (flags.folded set)), flags)
  | .repetition _ body min max => do
    let (r, flags) ← body.meaning flags
    return (.repeated r min max, flags)
  | .group _ changes body => do
    let (r, _) ← body.meaning (flags.changeAll changes)
    return (r, flags)
  | .alternation _ branches => do
    let (rs, flags) ← Tree.meanings flags branches
    return (anyOf rs, flags)
  | .concat _ parts => do
    let (rs, flags) ← Tree.meanings flags parts
    return (sequence rs, flags)

/-- The regular expressions of some trees, each with the flags after the one before it. -/
def Tree.meanings (flags : Flags) : List Tree → Except Diagnosis (List Regex × Flags)
  | [] => .ok ([], flags)
  | t :: rest => do
    let (r, flags) ← t.meaning flags
    let (rs, flags) ← Tree.meanings flags rest
    return (r :: rs, flags)

end

/-- Why a pattern is refused. -/
inductive Fault where
  | malformed (pattern : String) (d : Diagnosis)
  | tooLarge
deriving DecidableEq, Repr

def Fault.message : Fault → String
  | .malformed pattern d => d.text pattern
  | .tooLarge => "Compiled regex exceeds size limit of " ++ toString costLimit ++ " bytes."

/-- Read a pattern. -/
def parse (flags : Flags) (pattern : String) : Except Fault Regex :=
  match Tree.read flags.verbose pattern.toList >>= Tree.meaning flags with
  | .error d => .error (.malformed pattern d)
  | .ok (r, _) => if costLimit < r.cost then .error .tooLarge else .ok r

end Layering.Regex
