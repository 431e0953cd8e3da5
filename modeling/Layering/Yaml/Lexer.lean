import Layering.Yaml.Token

/-!
# From text to tokens

Indentation opens and closes blocks. A key is recognised only when its colon is reached, so
every place where one could have started is remembered, and the tokens that open the mapping
are put in front of it afterwards. Such a key stays on one line and within 1024 characters.
-/

namespace Layering.Yaml

/-- A place where a key may have started. -/
structure KeyMark where
  /-- How many tokens stand before it. -/
  position : Nat
  index : Nat
  line : Nat
  column : Nat
  /-- Whether the block ends here if no colon follows. -/
  required : Bool

/-- Tokens read so far and what the next ones depend on. -/
structure Lexer where
  cursor : Cursor
  tokens : Array Token := #[]
  /-- The column of the innermost block, -1 outside all blocks. -/
  indent : Int := -1
  /-- The columns of the blocks around it. -/
  outer : List Int := []
  keyAllowed : Bool := true
  /-- The possible key of every open flow collection, innermost first, then of the blocks. -/
  keys : List (Option KeyMark) := [none]

namespace Lexer

def inFlow (l : Lexer) : Bool := l.keys.length > 1

def push (l : Lexer) (t : Token) : Lexer := { l with tokens := l.tokens.push t }

/-- Put a token in front of the one at `position`. -/
def insertAt (l : Lexer) (position : Nat) (t : Token) : Lexer :=
  { l with tokens := l.tokens.extract 0 position ++ #[t] ++
      l.tokens.extract position l.tokens.size }

/-- Close blocks right of `column`. -/
def closeBlocks (column : Int) : Nat → Lexer → Lexer
  | 0, l => l
  | fuel + 1, l =>
    if !l.inFlow && l.indent > column then
      closeBlocks column fuel
        { (l.push .blockEnd) with indent := l.outer.headD (-1), outer := l.outer.tail }
    else l

/-- Close the blocks right of `column`, however many there are. -/
def unroll (l : Lexer) (column : Int) : Lexer := closeBlocks column (l.outer.length + 1) l

/-- Open a block at `column` unless one is open there. -/
def roll (l : Lexer) (column : Nat) (position : Option Nat) (t : Token) : Lexer :=
  if !l.inFlow && l.indent < column then
    let l := { l with outer := l.indent :: l.outer, indent := column }
    match position with
    | some p => l.insertAt p t
    | none => l.push t
  else l

/-- Give up the possible key of the innermost collection; nothing if it was required. -/
def dropKey (l : Lexer) : Option Lexer :=
  match l.keys with
  | some mark :: rest => if mark.required then none else some { l with keys := none :: rest }
  | _ => some l

/-- Remember that a key may start here. -/
def markKey (l : Lexer) : Option Lexer :=
  if l.keyAllowed then
    l.dropKey.map fun l =>
      let mark : KeyMark :=
        { position := l.tokens.size, index := l.cursor.index, line := l.cursor.line
          column := l.cursor.column
          required := !l.inFlow && l.indent == (l.cursor.column : Int) }
      { l with keys := some mark :: l.keys.tail }
  else some l

/-- Forget possible keys that are too far back. -/
def dropStaleKeys (l : Lexer) : Option Lexer :=
  (l.keys.mapM fun (key : Option KeyMark) => match key with
    | some mark =>
      if mark.line < l.cursor.line || mark.index + 1024 < l.cursor.index then
        if mark.required then none else some none
      else some (some mark)
    | none => some none).map fun keys => { l with keys }

/-- Skip blanks, comments and line breaks in front of the next token. -/
def skipToToken : Nat → Lexer → Lexer
  | 0, l => l
  | fuel + 1, l =>
    let c := l.cursor
    let c := if c.column == 0 && c.sees (Char.ofNat 0xFEFF) then c.advance 1 else c
    let c := c.skipWhile fun ch => ch == ' ' || ((l.inFlow || !l.keyAllowed) && ch == '\t')
    let c := if c.sees '#' then c.skipLine else c
    if (c.peek 0).any isBreak then
      skipToToken fuel
        { l with cursor := c.lineBreak.2, keyAllowed := l.keyAllowed || !l.inFlow }
    else { l with cursor := c }

/-- Move on and add a token. -/
def emit (l : Lexer) (c : Cursor) (t : Token) : Lexer := { l with cursor := c }.push t

/-- A token that ends all blocks. -/
def atMargin (l : Lexer) : Option Lexer :=
  (l.unroll (-1)).dropKey.map ({ · with keyAllowed := false })

/-- The start of a flow collection. -/
def openFlow (l : Lexer) (t : Token) : Option Lexer :=
  l.markKey.map fun l =>
    { l.emit (l.cursor.advance 1) t with keys := none :: l.keys, keyAllowed := true }

/-- The end of a flow collection. -/
def closeFlow (l : Lexer) (t : Token) : Option Lexer :=
  l.dropKey.map fun l =>
    { l.emit (l.cursor.advance 1) t with
      keys := if l.inFlow then l.keys.tail else l.keys, keyAllowed := false }

/-- The comma of a flow collection. -/
def flowComma (l : Lexer) : Option Lexer :=
  l.dropKey.map fun l => { l.emit (l.cursor.advance 1) .flowEntry with keyAllowed := true }

/-- The dash of a block sequence. -/
def dash (l : Lexer) : Option Lexer :=
  if !l.inFlow && !l.keyAllowed then none
  else (l.roll l.cursor.column none .blockSequenceStart).dropKey.map fun l =>
    { l.emit (l.cursor.advance 1) .blockEntry with keyAllowed := true }

/-- The question mark of an explicit key. -/
def question (l : Lexer) : Option Lexer :=
  if !l.inFlow && !l.keyAllowed then none
  else (l.roll l.cursor.column none .blockMappingStart).dropKey.map fun l =>
    { l.emit (l.cursor.advance 1) .key with keyAllowed := !l.inFlow }

/-- The colon of a value: the possible key becomes one, or the key is empty or explicit. -/
def colon (l : Lexer) : Option Lexer :=
  match l.keys with
  | some mark :: rest =>
    let l := { l with keys := none :: rest }.insertAt mark.position .key
    let l := l.roll mark.column (some mark.position) .blockMappingStart
    some { l.emit (l.cursor.advance 1) .value with keyAllowed := false }
  | _ =>
    if !l.inFlow && !l.keyAllowed then none
    else
      let l := l.roll l.cursor.column none .blockMappingStart
      some { l.emit (l.cursor.advance 1) .value with keyAllowed := !l.inFlow }

/-- A token that may start a key and does not allow another one after it. -/
def keyPart (l : Lexer) (read : Cursor → Option (Token × Cursor)) : Option Lexer :=
  l.markKey.bind fun l =>
    (read l.cursor).map fun (t, c) => { l.emit c t with keyAllowed := false }

/-- A literal or folded scalar. -/
def block (l : Lexer) (literal : Bool) : Option Lexer :=
  l.dropKey.bind fun l =>
    (blockScalar literal l.indent (l.cursor.advance 1)).map fun (text, c) =>
      { l.emit c (.scalar (String.ofList text) false) with keyAllowed := true }

/-- A quoted scalar. -/
def quotedScalar (l : Lexer) (single : Bool) : Option Lexer :=
  l.keyPart fun c =>
    (quotedFrom single (c.rest.length + 1) [] (c.advance 1)).map fun (text, c) =>
      (.scalar (String.ofList text) false, c)

/-- A plain scalar; one that ends at a line break allows a key after it. -/
def plain (l : Lexer) : Option Lexer :=
  l.markKey.bind fun l =>
    (plainFrom l.inFlow (l.indent + 1) (l.cursor.rest.length + 2) [] {} l.cursor).map
      fun (text, c, broken) =>
        { l.emit c (.scalar (String.ofList text) true) with keyAllowed := broken }

/-- Whether a plain scalar can start with `ch` before `next`. -/
def startsPlain (l : Lexer) (ch : Char) (next : Option Char) : Bool :=
  !(endsWord (some ch) ||
      ['-', '?', ':', ',', '[', ']', '\x7b', '\x7d', '#', '&', '*', '!', '|', '>', '\x27', '\x22',
       '%', '@', '\x60'].contains ch) ||
    (ch == '-' && !next.any isGap) ||
    (!l.inFlow && (ch == '?' || ch == ':') && !endsWord next)

/-- Read the token that starts with `ch`. -/
def token (l : Lexer) (ch : Char) : Option Lexer :=
  let c := l.cursor
  let next := c.peek 1
  if c.column == 0 && ch == '%' then
    l.atMargin.bind fun l => (directive? (c.advance 1)).map fun (t, c) => l.emit c t
  else if c.seesMarker '-' then l.atMargin.map fun l => l.emit (c.advance 3) .documentStart
  else if c.seesMarker '.' then l.atMargin.map fun l => l.emit (c.advance 3) .documentEnd
  else if ch == '[' then l.openFlow .flowSequenceStart
  else if ch == '\x7b' then l.openFlow .flowMappingStart
  else if ch == ']' then l.closeFlow .flowSequenceEnd
  else if ch == '\x7d' then l.closeFlow .flowMappingEnd
  else if ch == ',' then l.flowComma
  else if ch == '-' && endsWord next then l.dash
  else if ch == '?' && (l.inFlow || endsWord next) then l.question
  else if ch == ':' && (l.inFlow || endsWord next) then l.colon
  else if ch == '*' then l.keyPart fun c => (anchorName (c.advance 1)).map fun (n, c) => (.reference n, c)
  else if ch == '&' then l.keyPart fun c => (anchorName (c.advance 1)).map fun (n, c) => (.anchor n, c)
  else if ch == '!' then l.keyPart fun c => tag? l.inFlow (c.advance 1)
  else if ch == '|' && !l.inFlow then l.block true
  else if ch == '>' && !l.inFlow then l.block false
  else if ch == '\x27' then l.quotedScalar true
  else if ch == '\x22' then l.quotedScalar false
  else if l.startsPlain ch next then l.plain
  else none

/-- Read tokens to the end of the text. -/
def run : Nat → Lexer → Option (List Token)
  | 0, _ => none
  | fuel + 1, l =>
    (skipToToken (l.cursor.rest.length + 1) l).dropStaleKeys.bind fun l =>
      let l := l.unroll l.cursor.column
      match l.cursor.rest with
      | [] => l.atMargin.map (·.tokens.toList)
      | ch :: _ => (l.token ch).bind (run fuel)

end Lexer

/-- Characters a YAML text may hold. -/
def isYamlChar (c : Char) : Bool :=
  let n := c.toNat
  n == 9 || n == 10 || n == 13 || (0x20 ≤ n && n ≤ 0x7E) || n == 0x85 ||
    (0xA0 ≤ n && n ≤ 0xFFFD) || 0x10000 ≤ n

/-- The tokens of a text; nothing if it is malformed. -/
def tokens? (text : String) : Option (List Token) :=
  let chars := match text.toList with
    | c :: rest => if c.toNat == 0xFEFF then rest else c :: rest
    | [] => []
  if chars.all isYamlChar then Lexer.run (chars.length + 2) { cursor := { rest := chars } }
  else none

end Layering.Yaml
