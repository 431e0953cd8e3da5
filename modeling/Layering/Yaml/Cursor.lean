/-!
# Reading position

The text still to be read, with the line and the column it starts at. A carriage return with a
line feed after it is one line break; line breaks read as a line feed, the two Unicode
separators apart.
-/

namespace Layering.Yaml

/-- Line break characters. -/
def isBreak (c : Char) : Bool :=
  c == '\n' || c == '\r' || c.toNat == 0x85 || c.toNat == 0x2028 || c.toNat == 0x2029

/-- A space or a tab. -/
def isGap (c : Char) : Bool := c == ' ' || c == '\t'

/-- A gap, a line break, or the end of the text. -/
def endsWord : Option Char → Bool
  | none => true
  | some c => isGap c || isBreak c

/-- Letters, digits, the underscore and the dash, as in anchors. -/
def isNameChar (c : Char) : Bool :=
  ('a' ≤ c && c ≤ 'z') || ('A' ≤ c && c ≤ 'Z') || ('0' ≤ c && c ≤ '9') || c == '_' || c == '-'

/-- The rest of a text and where it starts. -/
structure Cursor where
  rest : List Char
  index : Nat := 0
  line : Nat := 0
  column : Nat := 0

namespace Cursor

/-- The character `n` places ahead. -/
def peek (c : Cursor) (n : Nat) : Option Char := c.rest[n]?

def atEnd (c : Cursor) : Bool := c.rest.isEmpty

/-- Whether the next character is `ch`. -/
def sees (c : Cursor) (ch : Char) : Bool := c.rest.head? == some ch

/-- Move over `n` characters of the line. -/
def advance (c : Cursor) (n : Nat) : Cursor :=
  { c with rest := c.rest.drop n, index := c.index + n, column := c.column + n }

/-- Move over a line break and give what it reads as; nothing when none is next. -/
def lineBreak (c : Cursor) : List Char × Cursor :=
  let next := fun n => { rest := c.rest.drop n, index := c.index + n, line := c.line + 1 }
  match c.rest with
  | '\r' :: '\n' :: _ => (['\n'], next 2)
  | ch :: _ =>
    if ch == '\r' || ch == '\n' || ch.toNat == 0x85 then (['\n'], next 1)
    else if isBreak ch then ([ch], next 1)
    else ([], c)
  | [] => ([], c)

/-- Move over characters of a kind. -/
def skipWhile (c : Cursor) (kind : Char → Bool) : Cursor :=
  c.advance (c.rest.takeWhile kind).length

/-- Move to the end of the line. -/
def skipLine (c : Cursor) : Cursor := c.skipWhile fun ch => !isBreak ch

/-- Whether a document marker of three characters stands here. -/
def seesMarker (c : Cursor) (ch : Char) : Bool :=
  c.column == 0 && c.rest.take 3 == [ch, ch, ch] && endsWord (c.peek 3)

/-- Whether a document starts or ends here. -/
def seesDocumentMarker (c : Cursor) : Bool := c.seesMarker '-' || c.seesMarker '.'

end Cursor

end Layering.Yaml
