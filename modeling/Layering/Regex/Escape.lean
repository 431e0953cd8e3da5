import Layering.Regex.Property
import Layering.Regex.Tree

/-!
# Escapes in patterns

What a backslash introduces: a literal character, a place, or a named class of characters. In
verbose patterns blanks and comments are skipped, also inside an escape.
-/

namespace Layering.Regex

open Text

/-! ## Blanks and comments -/

/-- The text after blanks and `#` comments. -/
def skipBlanks : List Char → List Char
  | [] => []
  | c :: rest =>
    if isBlank c then skipBlanks rest
    else if c == '#' then skipBlanks (rest.dropWhile (· != '\n'))
    else c :: rest
termination_by s => s.length
decreasing_by
  all_goals simp only [List.length_cons]
  · omega
  · have := (List.dropWhile_sublist (· != '\n') (l := rest)).length_le
    omega

theorem length_skipBlanks_le (s : List Char) : (skipBlanks s).length ≤ s.length := by
  fun_induction skipBlanks s with
  | case1 => simp
  | case2 c rest _ ih => simp only [List.length_cons]; omega
  | case3 c rest _ _ ih =>
    have := (List.dropWhile_sublist (· != '\n') (l := rest)).length_le
    simp only [List.length_cons]
    omega
  | case4 => simp

/-- The text after what a verbose pattern skips. -/
def skip (verbose : Bool) (s : List Char) : List Char :=
  if verbose then skipBlanks s else s

theorem length_skip_le (verbose : Bool) (s : List Char) : (skip verbose s).length ≤ s.length := by
  unfold skip
  split
  · exact length_skipBlanks_le s
  · exact Nat.le_refl _

/-! ## Elements -/

/-- What one element of a pattern is, before it stands in a sequence or a class. -/
inductive Element where
  | literal (l : Literal)
  | place (span : Span) (p : Place)
  | named (span : Span) (set : NamedSet)

def Element.span : Element → Span
  | .literal l => l.span
  | .place span _ => span
  | .named span _ => span

/-- What an element reader gives: the element and the text after it. -/
abbrev Found := Except Diagnosis (Element × List Char)

/-- The characters with a meaning in patterns. -/
def isMeta (c : Char) : Bool :=
  "\\.+*?()|[]\x7b\x7d^$#&-~".toList.contains c

/-- Whether a backslash before `c` gives `c` itself. -/
def isEscapable (c : Char) : Bool :=
  isMeta c || (c.toNat < 128 && !isAsciiWord c && c != '<' && c != '>') || c == '_'

/-! ## Characters by number -/

/-- The character with a code. -/
def scalar? (n : Nat) : Option Char :=
  if n.isValidChar then some (Char.ofNat n) else none

/-- Exactly `n` hexadecimal digits, with what is skipped between and after them. -/
def fixedHex (verbose : Bool) : Nat → Nat → List Char → Except Diagnosis (Nat × List Char)
  | 0, value, s => .ok (value, s)
  | _ + 1, _, [] => .error ⟨.escapeIncomplete, .before [], none⟩
  | n + 1, value, c :: rest => match CodePoints.hexDigit? c with
    | none => .error ⟨.hexDigit, .between (c :: rest) rest, none⟩
    | some d => fixedHex verbose n (value * 16 + d) (skip verbose rest)

/-- Characters up to a closing brace, without what is skipped, and the text from the brace on;
without a brace there is no text left. -/
def beforeBrace (verbose : Bool) : List Char → List (Char × Span) × List Char
  | [] => ([], [])
  | c :: rest =>
    if c == '\x7d' then ([], c :: rest)
    else
      let (inner, after) := beforeBrace verbose (skip verbose rest)
      ((c, .between (c :: rest) rest) :: inner, after)
termination_by s => s.length
decreasing_by
  have := length_skip_le verbose rest
  simp only [List.length_cons]
  omega

/-- A number in hexadecimal digits; a character that is no digit is a fault. -/
def hexValue : List (Char × Span) → Except Diagnosis Nat
  | digits => digits.foldlM (fun n (c, span) => match CodePoints.hexDigit? c with
      | some d => .ok (n * 16 + d)
      | none => .error ⟨.hexDigit, span, none⟩) 0

/-- A character by its number between braces, where `s` starts with the opening one. -/
def bracedHex (verbose : Bool) (start : Nat) (s : List Char) : Found := do
  let (digits, after) := beforeBrace verbose (skip verbose (s.drop 1))
  let n ← hexValue digits
  match after with
  | [] => .error ⟨.escapeIncomplete, .between s [], none⟩
  | _ :: rest =>
    let rest := skip verbose rest
    if digits.isEmpty then .error ⟨.hexEmpty, .between s rest, none⟩
    else match scalar? n with
      | none => .error ⟨.hexNoScalar, ⟨s.length - 1, after.length⟩, none⟩
      | some c => .ok (.literal { span := ⟨start, rest.length⟩, char := c }, rest)

/-- A character by its number, after `\x`, `\u` or `\U`. -/
def hexEscape (verbose : Bool) (width start : Nat) (s : List Char) : Found :=
  match skip verbose s with
  | [] => .error ⟨.escapeIncomplete, .before [], none⟩
  | '\x7b' :: rest => bracedHex verbose start ('\x7b' :: rest)
  | s => do
    let (n, after) ← fixedHex verbose width 0 s
    match scalar? n with
    | none => .error ⟨.hexNoScalar, .between s after, none⟩
    | some c =>
      .ok (.literal { span := ⟨start, after.length⟩, char := c, byte := width == 2 }, after)

/-! ## Classes -/

/-- Split a name at the first occurrence of `mark`. -/
def splitAt? (mark : List Char) : List Char → Option (List Char × List Char)
  | [] => none
  | c :: rest =>
    if mark.isPrefixOf (c :: rest) then some ([], (c :: rest).drop mark.length)
    else (splitAt? mark rest).map fun (a, b) => (c :: a, b)

/-- The class named between braces. -/
def namedSet (negated : Bool) (name : List Char) : NamedSet :=
  match splitAt? "!=".toList name with
  | some (p, v) => .property p (some v) (!negated)
  | none => match (splitAt? [':'] name).or (splitAt? ['='] name) with
    | some (p, v) => .property p (some v) negated
    | none => .property name none negated

/-- A class of Unicode, after `\p` or `\P`. -/
def propertyEscape (verbose negated : Bool) (start : Nat) (s : List Char) : Found :=
  match skip verbose s with
  | [] => .error ⟨.escapeIncomplete, .before [], none⟩
  | c :: rest =>
    if c == '\x7b' then
      match beforeBrace verbose (skip verbose rest) with
      | (_, []) => .error ⟨.escapeIncomplete, .before [], none⟩
      | (name, _ :: after) =>
        .ok (.named ⟨start, after.length⟩ (namedSet negated (name.map (·.1))), after)
    else if c == '\\' then .error ⟨.propertyForm, .between (c :: rest) rest, none⟩
    else
      let after := skip verbose rest
      .ok (.named ⟨start, after.length⟩ (.property [c] none negated), after)

/-! ## Word boundaries -/

/-- The characters of the names of boundaries. -/
def isBoundaryChar (c : Char) : Bool := c.isAlpha || c == '-'

/-- The boundary with a name. -/
def boundary? (name : List Char) : Option Boundary :=
  match String.ofList name with
  | "start" => some .start
  | "end" => some .finish
  | "start-half" => some .startHalf
  | "end-half" => some .finishHalf
  | _ => none

/-- The characters of a boundary's name, without what is skipped, and the text after them. -/
def boundaryName (verbose : Bool) : List Char → List Char × List Char
  | [] => ([], [])
  | c :: rest =>
    if isBoundaryChar c then
      let (name, after) := boundaryName verbose (skip verbose rest)
      (c :: name, after)
    else ([], c :: rest)
termination_by s => s.length
decreasing_by
  have := length_skip_le verbose rest
  simp only [List.length_cons]
  omega

/-- A boundary after `\b`: plain, or of the kind named between braces. Braces that start with
anything but a letter or a dash are a repetition. -/
def boundaryEscape (verbose : Bool) (start : Nat) (s : List Char) : Found :=
  let plain : Found := .ok (.place ⟨start, s.length⟩ (.boundary .edge), s)
  match s with
  | '\x7b' :: rest => match skip verbose rest with
    | [] => .error ⟨.boundaryOrCount, ⟨start, 0⟩, none⟩
    | c :: inner =>
      if !isBoundaryChar c then plain
      else match boundaryName verbose (c :: inner) with
        | (name, '\x7d' :: after) => match boundary? name with
          | some kind => .ok (.place ⟨start, after.length⟩ (.boundary kind), after)
          | none => .error ⟨.boundaryUnknown, ⟨inner.length + 1, after.length + 1⟩, none⟩
        | (_, after) => .error ⟨.boundaryUnclosed, .between s after, none⟩
  | _ => plain

/-! ## All escapes -/

/-- The character of a one-letter escape. -/
def controlEscape? (c : Char) : Option Char :=
  match c with
  | 'a' => some '\x07'
  | 'f' => some '\x0c'
  | 't' => some '\t'
  | 'n' => some '\n'
  | 'r' => some '\r'
  | 'v' => some '\x0b'
  | _ => none

/-- The place of a one-letter escape. -/
def placeEscape? (c : Char) : Option Place :=
  match c with
  | 'A' => some .textStart
  | 'z' => some .textEnd
  | 'B' => some (.boundary .inside)
  | '<' => some (.boundary .start)
  | '>' => some (.boundary .finish)
  | _ => none

/-- What stands after a backslash. -/
def escape (verbose : Bool) : List Char → Found
  | [] => .error ⟨.escapeIncomplete, ⟨1, 0⟩, none⟩
  | c :: rest =>
    let start := rest.length + 2
    let span : Span := ⟨start, rest.length⟩
    if c.isDigit then .error ⟨.backreference, span, none⟩
    else if isEscapable c then .ok (.literal { span, char := c }, rest)
    else if "dsw".toList.contains c then .ok (.named span (.shorthand c false), rest)
    else if "DSW".toList.contains c then .ok (.named span (.shorthand c.toLower true), rest)
    else match controlEscape? c, placeEscape? c with
      | some d, _ => .ok (.literal { span, char := d }, rest)
      | none, some p => .ok (.place span p, rest)
      | none, none => match c with
        | 'x' => hexEscape verbose 2 start rest
        | 'u' => hexEscape verbose 4 start rest
        | 'U' => hexEscape verbose 8 start rest
        | 'p' => propertyEscape verbose false start rest
        | 'P' => propertyEscape verbose true start rest
        | 'b' => boundaryEscape verbose start rest
        | _ => .error ⟨.escapeUnknown, span, none⟩

end Layering.Regex
