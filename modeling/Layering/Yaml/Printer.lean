import Layering.Yaml.Cursor
import Layering.Yaml.Scalar

/-!
# Writing YAML

Block style with two spaces of indentation; a sequence below a key is not indented, and empty
collections are written `[]` and `{}`. A string is plain when it reads back as itself, literal
when it has several lines, and quoted otherwise. Lines are never folded.
-/

namespace Layering.Yaml

/-! ## Scalar styles -/

/-- How a scalar is written. -/
inductive Style where
  | plain
  | single
  | double
  | literal
deriving DecidableEq

/-- Characters that are written as they are; those above the basic plane are not. -/
def isPlainChar (c : Char) : Bool :=
  let n := c.toNat
  n == 0x0A || (0x20 ≤ n && n ≤ 0x7E) ||
    (0xA0 ≤ n && n ≤ 0xFFFF && n != 0xFEFF && n != 0xFFFE && n != 0xFFFF)

/-- What a text rules out. -/
structure Traits where
  multiline : Bool := false
  plain : Bool := true
  single : Bool := true
  literal : Bool := true

/-- Whether the character at hand keeps a text from being plain: it begins like an indicator,
or it is a colon before a blank or a hash after one. -/
def isIndicator (first precededByBlank followedByBlank : Bool) (c : Char) : Bool :=
  if first then
    ['#', ',', '[', ']', '\x7b', '\x7d', '&', '*', '!', '|', '>', '\x27', '\x22', '%', '@',
      '\x60'].contains c ||
      ((c == '?' || c == ':' || c == '-') && followedByBlank)
  else (c == ':' && followedByBlank) || (c == '#' && precededByBlank)

/-- Whether an indicator stands anywhere; `before` is the character in front of the rest. -/
def hasIndicator (before : Option Char) : List Char → Bool
  | [] => false
  | c :: rest =>
    isIndicator before.isNone (endsWord before) (endsWord rest.head?) c ||
      hasIndicator (some c) rest

/-- Whether a character of one kind stands right before one of another kind. -/
def hasPair (a b : Char → Bool) : List Char → Bool
  | c :: d :: rest => (a c && b d) || hasPair a b (d :: rest)
  | _ => false

/-- What the text rules out. -/
def traits (s : List Char) : Traits :=
  if s.isEmpty then { literal := false }
  else
    let isSpace := fun c => c == ' '
    let breaks := s.any isBreak
    let special := s.any fun c => !isPlainChar c
    let breakSpace := hasPair isBreak isSpace s
    let spaceBreak := hasPair isSpace isBreak s
    let marker := ['-', '-', '-'].isPrefixOf s || ['.', '.', '.'].isPrefixOf s
    let edge := s.head?.any (fun c => isSpace c || isBreak c) ||
      s.getLast?.any (fun c => isSpace c || isBreak c)
    let trailingSpace := s.getLast?.any isSpace
    { multiline := breaks
      plain := !(edge || breakSpace || spaceBreak || special || breaks || marker ||
        hasIndicator none s)
      single := !(breakSpace || spaceBreak || special)
      literal := !(trailingSpace || spaceBreak || special) }

/-- The style of a scalar that would like to be written in style `wish`. -/
def chooseStyle (t : Traits) (empty simpleKey : Bool) (wish : Style) : Style :=
  let style := if simpleKey && t.multiline then .double else wish
  let style := if style == .plain && (!t.plain || (empty && simpleKey)) then .single else style
  let style := if style == .single && !t.single then .double else style
  if style == .literal && (!t.literal || simpleKey) then .double else style

/-- The style a string would like: literal for several lines, quoted when it would read back
as something else. -/
def wishFor (s : String) : Style :=
  if s.toList.contains '\n' then .literal
  else if isAmbiguous s then .single
  else .plain

/-! ## The written text -/

/-- The text written so far and what its end looks like. -/
structure Pen where
  out : String := ""
  column : Nat := 0
  /-- The last thing written was a blank. -/
  blank : Bool := true
  /-- Nothing but indentation stands on the line. -/
  fresh : Bool := true

namespace Pen

def put (p : Pen) (text : String) : Pen :=
  { p with out := p.out ++ text, column := p.column + text.length }

def putBreak (p : Pen) : Pen := { p with out := p.out ++ "\n", column := 0 }

/-- Go to a column on a new line, or on this one if it is still fresh. -/
def toIndent (p : Pen) (indent : Nat) : Pen :=
  let p := if !p.fresh || p.column > indent || (p.column == indent && !p.blank) then p.putBreak
    else p
  { p.put (String.ofList (List.replicate (indent - p.column) ' ')) with blank := true, fresh := true }

/-- Write an indicator. -/
def indicator (p : Pen) (text : String) (spaced isBlank keepsFresh : Bool) : Pen :=
  let p := if spaced && !p.blank then p.put " " else p
  { p.put text with blank := isBlank, fresh := p.fresh && keepsFresh }

/-- Write the characters of a scalar that spans lines, indenting what follows a break. -/
def lines (indent : Nat) (double : Char → List Char) : Bool → List Char → Pen → Pen
  | broken, [], p => if broken then { p with fresh := true } else p
  | broken, c :: rest, p =>
    if isBreak c then
      let p := { p with out := p.out ++ c.toString, column := 0, fresh := true }
      lines indent double true rest p
    else
      let p := if broken then p.toIndent indent else p
      lines indent double false rest { p.put (String.ofList (double c)) with fresh := false }

def plainScalar (p : Pen) (s : List Char) : Pen :=
  let p := if !p.blank && !s.isEmpty then p.put " " else p
  { p.put (String.ofList s) with blank := false, fresh := false }

def singleScalar (p : Pen) (indent : Nat) (s : List Char) : Pen :=
  let p := p.indicator "'" true false false
  let p := lines indent (fun c => if c == '\x27' then [c, c] else [c]) false s p
  let p := if s.getLast?.any isBreak then p.toIndent indent else p
  { p.indicator "'" false false false with blank := false, fresh := false }

/-- Upper-case hexadecimal digits, padded with zeros. -/
def hexPadded (width n : Nat) : String :=
  let digits := (Nat.toDigits 16 n).map Char.toUpper
  String.ofList (List.replicate (width - digits.length) '0' ++ digits)

/-- A character inside double quotes. -/
def doubleChar (c : Char) : String :=
  let n := c.toNat
  if isPlainChar c && !isBreak c && c != '\x22' && c != '\\' then c.toString
  else if n == 0 then "\\0"
  else if n == 7 then "\\a"
  else if n == 8 then "\\b"
  else if n == 9 then "\\t"
  else if n == 10 then "\\n"
  else if n == 11 then "\\v"
  else if n == 12 then "\\f"
  else if n == 13 then "\\r"
  else if n == 0x1B then "\\e"
  else if c == '\x22' then "\\\""
  else if c == '\\' then "\\\\"
  else if n == 0x85 then "\\N"
  else if n == 0xA0 then "\\_"
  else if n == 0x2028 then "\\L"
  else if n == 0x2029 then "\\P"
  else if n ≤ 0xFF then "\\x" ++ hexPadded 2 n
  else if n ≤ 0xFFFF then "\\u" ++ hexPadded 4 n
  else "\\U" ++ hexPadded 8 n

def doubleScalar (p : Pen) (s : List Char) : Pen :=
  let p := p.indicator "\"" true false false
  let p := p.put (String.join (s.map doubleChar))
  { p.indicator "\"" false false false with blank := false, fresh := false }

/-- What a literal's header says about its first and last lines: an indentation if it begins
with a blank, and how to end it. -/
def literalHints (s : List Char) : String :=
  let indent := if s.head?.any (fun c => c == ' ' || isBreak c) then "2" else ""
  let chomp := match s.reverse with
    | [] => "-"
    | [c] => if isBreak c then "+" else "-"
    | c :: d :: _ => if !isBreak c then "-" else if isBreak d then "+" else ""
  indent ++ chomp

def literalScalar (p : Pen) (indent : Nat) (s : List Char) : Pen :=
  let p := p.indicator "|" true false false
  let p := (p.put (literalHints s)).putBreak
  lines indent (fun c => [c]) true s { p with fresh := true, blank := true }

/-- Characters that stand for themselves in a tag. -/
def isTagContent (c : Char) : Bool :=
  isNameChar c ||
    [';', '/', '?', ':', '@', '&', '=', '+', '$', ',', '.', '~', '*', '\x27', '(', ')', '[',
     ']'].contains c

/-- A local tag's name as it is written. -/
def tagText (name : String) : String :=
  let name := if name == "!" then "!!" else "!" ++ name
  "!" ++ String.join ((name.toList.drop 1).map fun c =>
    if isTagContent c then c.toString
    else String.join (c.toString.toUTF8.toList.map fun b => "%" ++ hexPadded 2 b.toNat))

/-- Write the tag of the next value. -/
def tag (p : Pen) : Option String → Pen
  | none => p
  | some name =>
    let p := if !p.blank then p.put " " else p
    { p.put (tagText name) with blank := false, fresh := false }

/-- Write a scalar in a style, in a block at column `indent`. -/
def scalar (p : Pen) (indent : Nat) (style : Style) (s : List Char) : Pen :=
  match style with
  | .plain => p.plainScalar s
  | .single => p.singleScalar indent s
  | .double => p.doubleScalar s
  | .literal => p.literalScalar indent s

end Pen

/-! ## Values -/

/-- The text of a value that is not a collection, and the style it would like. -/
def scalarText? : Value → Option (String × Style)
  | .null => some ("null", .plain)
  | .bool b => some (if b then "true" else "false", .plain)
  | .int n => some (Number.Binary64.integerText n, .plain)
  | .float x => some (floatText x, .plain)
  | .string s => some (s, wishFor s)
  | _ => none

/-- The length of a tag as it is written. -/
def tagLength (tag : Option String) : Nat :=
  match tag with
  | some name => if name == "!" then 2 else name.utf8ByteSize + 1
  | none => 0

/-- Whether a key fits on one line before its colon: at most 128 bytes without a line break, or
an empty collection. -/
def isSimpleKey (tag : Option String) : Value → Bool
  | .sequence items => items.isEmpty && tagLength tag ≤ 128
  | .mapping entries => entries.isEmpty && tagLength tag ≤ 128
  | .tagged name v => isSimpleKey (some name) v
  | v => match scalarText? v with
    | some (text, _) =>
      !text.toList.any isBreak && tagLength tag + text.utf8ByteSize ≤ 128
    | none => false

/-- Where the next value stands. -/
structure Place where
  /-- The column of the innermost block, none around the outermost value. -/
  indent : Option Nat := none
  /-- The value belongs to a mapping. -/
  inMapping : Bool := false
  simpleKey : Bool := false
  tag : Option String := none

/-- The column of a block that opens here. -/
def Place.inner (at' : Place) : Nat :=
  match at'.indent with
  | none => 0
  | some n => n + 2

/-- The column scalars that span lines are indented to. -/
def Place.scalarIndent (at' : Place) : Nat :=
  match at'.indent with
  | none => 2
  | some n => n + 2

mutual

/-- Write a value. -/
def write (at' : Place) (p : Pen) : Value → Pen
  | .sequence [] => ((p.tag at'.tag).indicator "[" true true false).indicator "]" false false false
  | .mapping [] =>
    ((p.tag at'.tag).indicator "\x7b" true true false).indicator "\x7d" false false false
  | .sequence items =>
    let p := p.tag at'.tag
    let column := match at'.indent with
      | some n => if at'.inMapping && !p.fresh then n else n + 2
      | none => 0
    writeItems column p items
  | .mapping entries => writeEntries at'.inner (p.tag at'.tag) entries
  | .tagged name v => write { at' with tag := some name } p v
  | .null => writeScalar at' p "null" .plain
  | .bool b => writeScalar at' p (if b then "true" else "false") .plain
  | .int n => writeScalar at' p (Number.Binary64.integerText n) .plain
  | .float x => writeScalar at' p (floatText x) .plain
  | .string s => writeScalar at' p s (wishFor s)

/-- Write the items of a block sequence. -/
def writeItems (column : Nat) (p : Pen) : List Value → Pen
  | [] => p
  | v :: rest =>
    let p := (p.toIndent column).indicator "-" true false true
    writeItems column (write { indent := some column } p v) rest

/-- Write the entries of a block mapping. -/
def writeEntries (column : Nat) (p : Pen) : List (Value × Value) → Pen
  | [] => p
  | (k, v) :: rest =>
    let p := p.toIndent column
    let place : Place := { indent := some column, inMapping := true }
    let p := if isSimpleKey none k then
        (write { place with simpleKey := true } p k).indicator ":" false false false
      else
        ((write place (p.indicator "?" true false true) k).toIndent column).indicator ":"
          true false true
    writeEntries column (write place p v) rest

/-- Write a scalar with its tag. -/
def writeScalar (at' : Place) (p : Pen) (text : String) (wish : Style) : Pen :=
  let s := text.toList
  let style := chooseStyle (traits s) s.isEmpty at'.simpleKey wish
  (p.tag at'.tag).scalar at'.scalarIndent style s

end

/-- The YAML text of a value. -/
def render (v : Value) : String :=
  ((write {} {} v).toIndent 0).out

end Layering.Yaml
