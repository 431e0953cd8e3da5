import Layering.Yaml.Cursor

/-!
# Tokens

The tokens of a YAML text and the readers of those that have content: scalars of five styles,
anchors, tags and directives. A reader gives nothing on malformed input.
-/

namespace Layering.Yaml

/-- A token. -/
inductive Token where
  | version (major minor : Nat)
  | tagDirective (handle start : String)
  | documentStart
  | documentEnd
  | blockSequenceStart
  | blockMappingStart
  | blockEnd
  | flowSequenceStart
  | flowSequenceEnd
  | flowMappingStart
  | flowMappingEnd
  | blockEntry
  | flowEntry
  | key
  | value
  | reference (name : String)
  | anchor (name : String)
  | tag (handle suffix : String)
  | scalar (text : String) (plain : Bool)
deriving DecidableEq, Repr, Inhabited

/-! ## Gaps between words -/

/-- What stands between two words of a scalar: blanks on one line, or a first line break and
further ones. -/
structure Gap where
  blanks : List Char := []
  first : List Char := []
  more : List Char := []
  broken : Bool := false

/-- What a gap contributes to the text: a single line break folds into a space. -/
def Gap.text (g : Gap) : List Char :=
  if !g.broken then g.blanks
  else if g.first == ['\n'] then (if g.more.isEmpty then [' '] else g.more)
  else g.first ++ g.more

/-- Read blanks and line breaks. Left of `indent`, a tab at the start of a line is refused. -/
def Gap.read (indent : Int) : Nat → Gap → Cursor → Option (Gap × Cursor)
  | 0, g, c => some (g, c)
  | fuel + 1, g, c => match c.rest with
    | [] => some (g, c)
    | ch :: _ =>
      if isGap ch then
        if g.broken then
          if ch == '\t' && c.column < indent then none
          else Gap.read indent fuel g (c.advance 1)
        else Gap.read indent fuel { g with blanks := g.blanks ++ [ch] } (c.advance 1)
      else if isBreak ch then
        let (text, next) := c.lineBreak
        if g.broken then Gap.read indent fuel { g with more := g.more ++ text } next
        else Gap.read indent fuel { first := text, broken := true } next
      else some (g, c)

/-! ## Plain scalars -/

/-- Characters that structure flow collections. -/
def isFlowIndicator (c : Char) : Bool :=
  c == ',' || c == '[' || c == ']' || c == '\x7b' || c == '\x7d'

/-- The characters of a plain scalar up to the next blank or indicator; in a flow collection a
colon must not touch an indicator. -/
def plainWord (flow : Bool) : List Char → Option (List Char)
  | [] => some []
  | c :: rest =>
    if endsWord (some c) then some []
    else if flow && c == ':' &&
        rest.head?.any (fun d => isFlowIndicator d || d == '?') then none
    else if (c == ':' && endsWord rest.head?) || (flow && isFlowIndicator c) then some []
    else (plainWord flow rest).map (c :: ·)

/-- A plain scalar from the gap in front of its next word on: its text, the position after it
and whether a line break ends it. -/
def plainFrom (flow : Bool) (indent : Int) :
    Nat → List Char → Gap → Cursor → Option (List Char × Cursor × Bool)
  | 0, _, _, _ => none
  | fuel + 1, text, gap, c =>
    if c.seesDocumentMarker || c.sees '#' then some (text, c, gap.broken)
    else (plainWord flow c.rest).bind fun word =>
      let next := c.advance word.length
      let text := if word.isEmpty then text else text ++ gap.text ++ word
      let open' := if word.isEmpty then gap else {}
      if next.atEnd || !endsWord (next.peek 0) then some (text, next, open'.broken)
      else (Gap.read indent next.rest.length open' next).bind fun (gap, next) =>
        if !flow && next.column < indent then some (text, next, gap.broken)
        else plainFrom flow indent fuel text gap next

/-! ## Quoted scalars -/

/-- How a stretch of a quoted scalar ends. -/
inductive QuotedStop where
  | closed
  | gap
  | escapedBreak
deriving DecidableEq

/-- A character given by hexadecimal digits. -/
def hexEscape? (digits : List Char) : Option Char :=
  let value := digits.foldl (fun n c => n.bind fun n =>
    if '0' ≤ c && c ≤ '9' then some (n * 16 + (c.toNat - 48))
    else if 'a' ≤ c && c ≤ 'f' then some (n * 16 + (c.toNat - 87))
    else if 'A' ≤ c && c ≤ 'F' then some (n * 16 + (c.toNat - 55))
    else none) (some 0)
  value.bind fun n =>
    if (0xD800 ≤ n && n ≤ 0xDFFF) || n > 0x10FFFF then none else some (Char.ofNat n)

/-- The character after a backslash, for escapes of two characters. -/
def simpleEscape? (c : Char) : Option Char :=
  if c == '0' then some (Char.ofNat 0)
  else if c == 'a' then some '\x07'
  else if c == 'b' then some '\x08'
  else if c == 't' || c == '\t' then some '\t'
  else if c == 'n' then some '\n'
  else if c == 'v' then some '\x0b'
  else if c == 'f' then some '\x0c'
  else if c == 'r' then some '\r'
  else if c == 'e' then some '\x1b'
  else if c == ' ' || c == '\x22' || c == '/' || c == '\\' then some c
  else if c == 'N' then some (Char.ofNat 0x85)
  else if c == '_' then some (Char.ofNat 0xA0)
  else if c == 'L' then some (Char.ofNat 0x2028)
  else if c == 'P' then some (Char.ofNat 0x2029)
  else none

/-- How many hexadecimal digits an escape letter takes. -/
def hexWidth? (c : Char) : Option Nat :=
  if c == 'x' then some 2 else if c == 'u' then some 4 else if c == 'U' then some 8 else none

/-- A stretch without blanks of a single-quoted scalar: its text, how many characters it takes,
and how it ends. -/
def singleStretch : List Char → List Char × Nat × QuotedStop
  | [] => ([], 0, .gap)
  | '\x27' :: '\x27' :: rest =>
    let (text, n, stop) := singleStretch rest
    ('\x27' :: text, n + 2, stop)
  | c :: rest =>
    if c == '\x27' then ([], 0, .closed)
    else if endsWord (some c) then ([], 0, .gap)
    else
      let (text, n, stop) := singleStretch rest
      (c :: text, n + 1, stop)

/-- A stretch without blanks of a double-quoted scalar. -/
def doubleStretch : Nat → List Char → Option (List Char × Nat × QuotedStop)
  | 0, _ => none
  | fuel + 1, s => match s with
    | [] => some ([], 0, .gap)
    | c :: rest =>
      if c == '\x22' then some ([], 0, .closed)
      else if endsWord (some c) then some ([], 0, .gap)
      else if c != '\\' then
        (doubleStretch fuel rest).map fun (text, n, stop) => (c :: text, n + 1, stop)
      else match rest with
        | [] => none
        | e :: rest =>
          if isBreak e then some ([], 1, .escapedBreak)
          else match simpleEscape? e with
            | some ch => (doubleStretch fuel rest).map fun (text, n, stop) =>
                (ch :: text, n + 2, stop)
            | none => (hexWidth? e).bind fun width =>
                if rest.length < width then none
                else (hexEscape? (rest.take width)).bind fun ch =>
                  (doubleStretch fuel (rest.drop width)).map fun (text, n, stop) =>
                    (ch :: text, n + 2 + width, stop)

/-- A quoted scalar after its opening quote. -/
def quotedFrom (single : Bool) : Nat → List Char → Cursor → Option (List Char × Cursor)
  | 0, _, _ => none
  | fuel + 1, text, c =>
    if c.seesDocumentMarker || c.atEnd then none
    else
      let stretch := if single then some (singleStretch c.rest)
        else doubleStretch (c.rest.length + 1) c.rest
      stretch.bind fun (word, n, stop) =>
        let text := text ++ word
        let next := c.advance n
        match stop with
        | .closed => some (text, next.advance 1)
        | .gap =>
          (Gap.read 0 next.rest.length {} next).bind fun (gap, next) =>
            quotedFrom single fuel (text ++ gap.text) next
        | .escapedBreak =>
          let next := next.lineBreak.2
          (Gap.read 0 next.rest.length { broken := true } next).bind fun (gap, next) =>
            quotedFrom single fuel (text ++ gap.text) next

/-! ## Block scalars -/

/-- What becomes of the line breaks at the end of a block scalar. -/
inductive Chomping where
  | strip
  | clip
  | keep
deriving DecidableEq

/-- The indentation and empty lines in front of a line of a block scalar. With `indent` zero
the indentation is still to be found; the deepest seen is the third result. -/
def blockBreaks (indent : Nat) : Nat → Nat → List Char → Cursor → Option (List Char × Cursor × Nat)
  | 0, deepest, breaks, c => some (breaks, c, deepest)
  | fuel + 1, deepest, breaks, c =>
    let spaces := (c.rest.takeWhile (· == ' ')).length
    let c := c.advance (if indent == 0 then spaces else min spaces (indent - c.column))
    let deepest := max deepest c.column
    if (indent == 0 || c.column < indent) && c.sees '\t' then none
    else match c.rest with
      | ch :: _ =>
        if isBreak ch then
          let (text, next) := c.lineBreak
          blockBreaks indent fuel deepest (breaks ++ text) next
        else some (breaks, c, deepest)
      | [] => some (breaks, c, deepest)

/-- What has been read of a block scalar: its text, the last line break, the empty lines after
it, and whether the last line began with a blank. -/
structure BlockText where
  text : List Char := []
  last : List Char := []
  breaks : List Char := []
  blankLine : Bool := false

/-- Add a line to a block scalar; in a folded one a single break between two lines that do not
begin with a blank becomes a space. -/
def BlockText.addLine (b : BlockText) (literal : Bool) (line : List Char) : BlockText :=
  let startsBlank := line.head?.any isGap
  let joint :=
    if !literal && b.last == ['\n'] && !b.blankLine && !startsBlank then
      if b.breaks.isEmpty then [' '] else []
    else b.last
  { text := b.text ++ joint ++ b.breaks ++ line, blankLine := startsBlank }

/-- The lines of a block scalar. -/
def blockLines (literal : Bool) (indent : Nat) : Nat → BlockText → Cursor → Option (BlockText × Cursor)
  | 0, b, c => some (b, c)
  | fuel + 1, b, c =>
    if c.column == indent && !c.atEnd then
      let line := c.rest.takeWhile fun ch => !isBreak ch
      let b := b.addLine literal line
      let (last, next) := (c.advance line.length).lineBreak
      (blockBreaks indent (next.rest.length + 1) 0 [] next).bind fun (breaks, next, _) =>
        blockLines literal indent fuel { b with last, breaks } next
    else some (b, c)

/-- The chomping and the indentation a block scalar's header gives, in either order. -/
def blockHeader (c : Cursor) : Option (Chomping × Nat × Cursor) :=
  let chomp := fun (c : Cursor) =>
    if c.sees '+' then (Chomping.keep, c.advance 1)
    else if c.sees '-' then (Chomping.strip, c.advance 1)
    else (Chomping.clip, c)
  let increment := fun (c : Cursor) => match c.rest with
    | d :: _ =>
      if d == '0' then none
      else if '1' ≤ d && d ≤ '9' then some (d.toNat - 48, c.advance 1)
      else some (0, c)
    | [] => some (0, c)
  let (chomping, next) := chomp c
  (increment next).map fun (indent, next) =>
    if chomping == .clip then
      if indent == 0 then (.clip, 0, next)
      else
        let (chomping, next) := chomp next
        (chomping, indent, next)
    else (chomping, indent, next)

/-- A block scalar after its indicator, inside a block at column `parent`. -/
def blockScalar (literal : Bool) (parent : Int) (c : Cursor) : Option (List Char × Cursor) :=
  (blockHeader c).bind fun (chomping, increment, c) =>
    let c := c.skipWhile isGap
    let c := if c.sees '#' then c.skipLine else c
    if !c.atEnd && !(c.peek 0).any isBreak then none
    else
      let c := c.lineBreak.2
      let given : Nat := if increment == 0 then 0
        else if parent ≥ 0 then parent.toNat + increment else increment
      (blockBreaks given (c.rest.length + 1) 0 [] c).bind fun (breaks, c, deepest) =>
        let indent := if given != 0 then given else max (max deepest (parent + 1).toNat) 1
        (blockLines literal indent (c.rest.length + 1) { breaks } c).map fun (b, c) =>
          let tail := match chomping with
            | .strip => []
            | .clip => b.last
            | .keep => b.last ++ b.breaks
          (b.text ++ tail, c)

/-! ## Anchors, tags and directives -/

/-- The name of an anchor or a reference after its indicator. -/
def anchorName (c : Cursor) : Option (String × Cursor) :=
  let name := c.rest.takeWhile isNameChar
  let next := c.advance name.length
  let ends := match next.peek 0 with
    | none => true
    | some ch => endsWord (some ch) || ['?', ':', ',', ']', '\x7d', '%', '@', '\x60'].contains ch
  if name.isEmpty || !ends then none else some (String.ofList name, next)

/-- Characters that tags are made of. -/
def isTagChar (verbatim : Bool) (c : Char) : Bool :=
  isNameChar c ||
    [';', '/', '?', ':', '@', '&', '=', '+', '$', '.', '!', '~', '*', '\x27', '(', ')', '%'].contains c ||
    (verbatim && (c == ',' || c == '[' || c == ']'))

/-- The bytes a text of tag characters stands for, with percent escapes resolved. -/
def tagBytes : Nat → List Char → Option (List UInt8)
  | 0, _ => some []
  | fuel + 1, s => match s with
    | [] => some []
    | '%' :: a :: b :: rest =>
      (hexEscape? [a, b]).bind fun ch =>
        (tagBytes fuel rest).map (ch.toNat.toUInt8 :: ·)
    | c :: rest =>
      if c == '%' then none
      else (tagBytes fuel rest).map ((c.toString.toUTF8.toList) ++ ·)

/-- The part of a tag that its handle does not cover. -/
def tagSuffix (verbatim : Bool) (c : Cursor) : Option (String × Cursor) :=
  let text := c.rest.takeWhile (isTagChar verbatim)
  (tagBytes (text.length + 1) text).bind fun bytes =>
    (String.fromUTF8? ⟨bytes.toArray⟩).map (·, c.advance text.length)

/-- A tag after its first exclamation mark: its handle and its suffix. -/
def tagToken (c : Cursor) : Option (String × String × Cursor) :=
  if c.sees '<' then
    (tagSuffix true (c.advance 1)).bind fun (uri, next) =>
      if uri.isEmpty || !next.sees '>' then none else some ("", uri, next.advance 1)
  else
    let name := c.rest.takeWhile isNameChar
    let named := c.advance name.length
    if named.sees '!' then
      (tagSuffix false (named.advance 1)).bind fun (suffix, next) =>
        if suffix.isEmpty then none
        else some ("!" ++ String.ofList name ++ "!", suffix, next)
    else
      (tagSuffix false c).map fun (suffix, next) =>
        if suffix.isEmpty then ("", "!", next) else ("!", suffix, next)

/-- A tag must be followed by a blank, or by a comma in a flow collection. -/
def tag? (flow : Bool) (c : Cursor) : Option (Token × Cursor) :=
  (tagToken c).bind fun (handle, suffix, next) =>
    if endsWord (next.peek 0) || (flow && next.sees ',') then some (.tag handle suffix, next)
    else none

/-- A number of at most nine digits. -/
def versionNumber (c : Cursor) : Option (Nat × Cursor) :=
  let digits := c.rest.takeWhile fun ch => '0' ≤ ch && ch ≤ '9'
  if digits.isEmpty || digits.length > 9 then none
  else some (digits.foldl (fun n d => n * 10 + (d.toNat - 48)) 0, c.advance digits.length)

/-- A directive after its percent sign, up to the end of its line. -/
def directive? (c : Cursor) : Option (Token × Cursor) :=
  let name := String.ofList (c.rest.takeWhile isNameChar)
  let c := c.advance name.length
  let token : Option (Token × Cursor) :=
    if !endsWord (c.peek 0) then none
    else if name == "YAML" then
      (versionNumber (c.skipWhile isGap)).bind fun (major, c) =>
        if !c.sees '.' then none
        else (versionNumber (c.advance 1)).map fun (minor, c) => (.version major minor, c)
    else if name == "TAG" then
      let c := c.skipWhile isGap
      if !c.sees '!' then none
      else
        let word := (c.advance 1).rest.takeWhile isNameChar
        let c := c.advance (1 + word.length)
        let closed := c.sees '!'
        if !closed && !word.isEmpty then none
        else
          let handle := "!" ++ String.ofList word ++ (if closed then "!" else "")
          let c := if closed then c.advance 1 else c
          if !(c.peek 0).any isGap then none
          else (tagSuffix true (c.skipWhile isGap)).bind fun (start, c) =>
            if start.isEmpty || !endsWord (c.peek 0) then none
            else some (.tagDirective handle start, c)
    else none
  token.bind fun (token, c) =>
    let c := c.skipWhile isGap
    let c := if c.sees '#' then c.skipLine else c
    if !c.atEnd && !(c.peek 0).any isBreak then none else some (token, c.lineBreak.2)

end Layering.Yaml
