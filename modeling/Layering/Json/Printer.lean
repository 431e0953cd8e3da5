import Layering.Json.Basic

/-!
# Writing JSON

The compact form on one line, and the pretty form with two spaces of indentation. Text outside
ASCII stays as it is; only quotes, backslashes and control characters are escaped.
-/

namespace Layering.Json

open Number

/-- A hexadecimal digit in lower case. -/
def hexChar (n : Nat) : Char :=
  if n < 10 then Char.ofNat (48 + n) else Char.ofNat (87 + n)

/-- A character inside a JSON string. -/
def escapeChar (c : Char) : List Char :=
  if c == '\x22' then ['\\', '\x22']
  else if c == '\\' then ['\\', '\\']
  else if c == '\n' then ['\\', 'n']
  else if c == '\r' then ['\\', 'r']
  else if c == '\t' then ['\\', 't']
  else if c == '\x08' then ['\\', 'b']
  else if c == '\x0c' then ['\\', 'f']
  else if c.toNat < 32 then ['\\', 'u', '0', '0', hexChar (c.toNat / 16), hexChar (c.toNat % 16)]
  else [c]

/-- A string between quotes. -/
def quote (s : String) : String :=
  "\"" ++ String.ofList (s.toList.flatMap escapeChar) ++ "\""

/-- A number that is not an integer; JSON has no text for infinities and NaN. -/
def floatText (x : Binary64) : String :=
  if x.isFinite then x.dataText else "null"

mutual

/-- The value on one line, without spaces. -/
def compact : Json → String
  | .null => "null"
  | .bool b => if b then "true" else "false"
  | .int n => Binary64.integerText n
  | .float x => floatText x
  | .string s => quote s
  | .array items => "[" ++ compactItems items ++ "]"
  | .object members => "\x7b" ++ compactMembers members ++ "\x7d"

def compactItems : List Json → String
  | [] => ""
  | [x] => compact x
  | x :: y :: rest => compact x ++ "," ++ compactItems (y :: rest)

def compactMembers : List (String × Json) → String
  | [] => ""
  | [(k, v)] => quote k ++ ":" ++ compact v
  | (k, v) :: m :: rest => quote k ++ ":" ++ compact v ++ "," ++ compactMembers (m :: rest)

end

/-- A new line at a depth of indentation. -/
def lineBreak (depth : Nat) : String :=
  "\n" ++ String.ofList (List.replicate (2 * depth) ' ')

mutual

/-- The value over several lines, from a depth of indentation on. -/
def prettyAt (depth : Nat) : Json → String
  | .null => "null"
  | .bool b => if b then "true" else "false"
  | .int n => Binary64.integerText n
  | .float x => floatText x
  | .string s => quote s
  | .array [] => "[]"
  | .array (x :: rest) =>
    "[" ++ lineBreak (depth + 1) ++ prettyAt (depth + 1) x ++ prettyItems (depth + 1) rest ++
      lineBreak depth ++ "]"
  | .object [] => "\x7b\x7d"
  | .object ((k, v) :: rest) =>
    "\x7b" ++ lineBreak (depth + 1) ++ quote k ++ ": " ++ prettyAt (depth + 1) v ++
      prettyMembers (depth + 1) rest ++ lineBreak depth ++ "\x7d"

/-- The items after the first. -/
def prettyItems (depth : Nat) : List Json → String
  | [] => ""
  | x :: rest => "," ++ lineBreak depth ++ prettyAt depth x ++ prettyItems depth rest

/-- The members after the first. -/
def prettyMembers (depth : Nat) : List (String × Json) → String
  | [] => ""
  | (k, v) :: rest =>
    "," ++ lineBreak depth ++ quote k ++ ": " ++ prettyAt depth v ++ prettyMembers depth rest

end

/-- The value over several lines. -/
def pretty (v : Json) : String := prettyAt 0 v

end Layering.Json
