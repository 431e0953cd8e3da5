import Layering.Json.Basic

/-!
# Reading JSON

Containers may nest at most 127 deep. A key that an object repeats keeps its first place and
takes its last value. An integer beyond 64 bits, and a number with a fraction or an exponent,
becomes a double.
-/

namespace Layering.Json

open Number

/-- The text after blanks. -/
def skipBlanks (s : List Char) : List Char :=
  s.dropWhile fun c => c == ' ' || c == '\n' || c == '\t' || c == '\r'

/-- The value of a hexadecimal digit. -/
def hexValue? (c : Char) : Option Nat :=
  if '0' ≤ c && c ≤ '9' then some (c.toNat - 48)
  else if 'a' ≤ c && c ≤ 'f' then some (c.toNat - 87)
  else if 'A' ≤ c && c ≤ 'F' then some (c.toNat - 55)
  else none

/-- Four hexadecimal digits. -/
def hex4? (a b c d : Char) : Option Nat := do
  return (← hexValue? a) * 4096 + (← hexValue? b) * 256 + (← hexValue? c) * 16 + (← hexValue? d)

/-- The character a two-character escape stands for. -/
def shortEscape? (c : Char) : Option Char :=
  if c == '\x22' || c == '\\' || c == '/' then some c
  else if c == 'b' then some '\x08'
  else if c == 'f' then some '\x0c'
  else if c == 'n' then some '\n'
  else if c == 'r' then some '\r'
  else if c == 't' then some '\t'
  else none

/-- The rest of a string after its opening quote, and the text after the closing one. A code
unit above the basic plane needs its other half. -/
def stringBody : List Char → Option (List Char × List Char)
  | [] => none
  | '\\' :: 'u' :: a :: b :: c :: d :: rest =>
    match hex4? a b c d with
    | none => none
    | some n =>
      if 0xDC00 ≤ n && n ≤ 0xDFFF then none
      else if 0xD800 ≤ n && n ≤ 0xDBFF then
        match rest with
        | '\\' :: 'u' :: a :: b :: c :: d :: rest =>
          match hex4? a b c d with
          | none => none
          | some m =>
            if 0xDC00 ≤ m && m ≤ 0xDFFF then
              (stringBody rest).map fun (text, after) =>
                (Char.ofNat (0x10000 + (n - 0xD800) * 0x400 + (m - 0xDC00)) :: text, after)
            else none
        | _ => none
      else (stringBody rest).map fun (text, after) => (Char.ofNat n :: text, after)
  | '\\' :: c :: rest =>
    match shortEscape? c with
    | none => none
    | some d => (stringBody rest).map fun (text, after) => (d :: text, after)
  | c :: rest =>
    if c == '\x22' then some ([], rest)
    else if c.toNat < 32 || c == '\\' then none
    else (stringBody rest).map fun (text, after) => (c :: text, after)

/-! ## Numbers -/

/-- The value of a decimal digit. -/
def digit? (c : Char) : Option Nat :=
  if '0' ≤ c && c ≤ '9' then some (c.toNat - 48) else none

/-- Significant digits collected into 64 bits: the value, how many powers of ten the digits
left out amount to, and whether any was left out. -/
structure Significand where
  value : Nat := 0
  exponent : Int := 0
  full : Bool := false

/-- Take a digit before the point. -/
def Significand.integral (s : Significand) (d : Nat) : Significand :=
  if s.full || s.value * 10 + d > 0xFFFFFFFFFFFFFFFF then
    { s with exponent := s.exponent + 1, full := true }
  else { s with value := s.value * 10 + d }

/-- Take a digit after the point. -/
def Significand.fractional (s : Significand) (d : Nat) : Significand :=
  if s.full || s.value * 10 + d > 0xFFFFFFFFFFFFFFFF then { s with full := true }
  else { s with value := s.value * 10 + d, exponent := s.exponent - 1 }

/-- `f` scaled by a power of ten, in steps that stay within the range of doubles. -/
def scale (f : Float) (e : Int) : Nat → Option Float
  | 0 => some f
  | fuel + 1 =>
    if e.natAbs ≤ 308 then
      if 0 ≤ e then
        let g := f * Float.ofScientific 1 false e.natAbs
        if g.isInf then none else some g
      else some (f / Float.ofScientific 1 false e.natAbs)
    else if f == 0.0 then some f
    else if 0 ≤ e then none
    else scale (f / 1e308) (e + 308) fuel

/-- The double with this significand, unless it is out of range. -/
def Significand.toFloat? (s : Significand) (negative : Bool) (extra : Int) : Option Json :=
  let e := s.exponent + extra
  let e := if e < -100000 then -100000 else e
  (scale s.value.toUInt64.toFloat e 400).map fun f =>
    .float (Binary64.ofFloat (if negative then -f else f))

/-- The integer with this significand, or a double if it does not fit in 64 bits. -/
def Significand.toInteger? (s : Significand) (negative : Bool) : Option Json :=
  if s.full then s.toFloat? negative 0
  else if !negative then some (.int s.value)
  else if s.value == 0 || s.value > 0x8000000000000000 then s.toFloat? true 0
  else some (.int (-(s.value : Int)))

/-- An exponent after its `e`: the value and the rest of the text. -/
def exponent? (s : List Char) : Option (Int × List Char) :=
  let (negative, s) := match s with
    | '-' :: rest => (true, rest)
    | '+' :: rest => (false, rest)
    | _ => (false, s)
  let digits := s.takeWhile (digit? · |>.isSome)
  if digits.isEmpty then none
  else
    let n : Nat := digits.foldl (fun n c => min (n * 10 + (digit? c).getD 0) 1000000) 0
    some (if negative then -(n : Int) else n, s.drop digits.length)

/-- A number after its sign. -/
def number? (negative : Bool) (s : List Char) : Option (Json × List Char) :=
  let whole := s.takeWhile (digit? · |>.isSome)
  if whole.isEmpty || (whole.length > 1 && whole.head? == some '0') then none
  else
    let rest := s.drop whole.length
    let significand : Significand :=
      whole.foldl (fun n c => n.integral ((digit? c).getD 0)) {}
    let withFraction : Option (Significand × List Char × Bool) := match rest with
      | '.' :: rest =>
        let places := rest.takeWhile (digit? · |>.isSome)
        if places.isEmpty then none
        else some (places.foldl (fun n c => n.fractional ((digit? c).getD 0)) significand,
          rest.drop places.length, true)
      | _ => some (significand, rest, false)
    withFraction.bind fun (significand, rest, fraction) =>
      match rest with
      | 'e' :: rest | 'E' :: rest =>
        (exponent? rest).bind fun (e, rest) =>
          (significand.toFloat? negative e).map (·, rest)
      | _ =>
        if fraction then (significand.toFloat? negative 0).map (·, rest)
        else (significand.toInteger? negative).map (·, rest)

/-! ## Values -/

/-- The text after a keyword. -/
def keyword? (word : List Char) (s : List Char) : Option (List Char) :=
  if word.isPrefixOf s then some (s.drop word.length) else none

/-- The items of an array from the first one on, up to its closing bracket. -/
def items? (item : List Char → Option (Json × List Char)) :
    Nat → List Char → Option (List Json × List Char)
  | 0, _ => none
  | fuel + 1, s =>
    (item s).bind fun (v, rest) => match skipBlanks rest with
      | ',' :: rest => (items? item fuel rest).map fun (vs, after) => (v :: vs, after)
      | ']' :: rest => some ([v], rest)
      | _ => none

/-- The members of an object from the first one on, up to its closing brace. -/
def members? (item : List Char → Option (Json × List Char)) :
    Nat → List Char → Option (List (String × Json) × List Char)
  | 0, _ => none
  | fuel + 1, s => match skipBlanks s with
    | '\x22' :: rest =>
      (stringBody rest).bind fun (key, rest) => match skipBlanks rest with
        | ':' :: rest =>
          (item rest).bind fun (v, rest) =>
            let pair := (String.ofList key, v)
            match skipBlanks rest with
            | ',' :: rest => (members? item fuel rest).map fun (ms, after) => (pair :: ms, after)
            | '\x7d' :: rest => some ([pair], rest)
            | _ => none
        | _ => none
    | _ => none

/-- A value with containers nested at most `depth` deep, and the text after it. -/
def value? : Nat → List Char → Option (Json × List Char)
  | depth, s => match skipBlanks s with
    | 'n' :: rest => (keyword? ['u', 'l', 'l'] rest).map (.null, ·)
    | 't' :: rest => (keyword? ['r', 'u', 'e'] rest).map (.bool true, ·)
    | 'f' :: rest => (keyword? ['a', 'l', 's', 'e'] rest).map (.bool false, ·)
    | '\x22' :: rest => (stringBody rest).map fun (text, after) => (.string (String.ofList text), after)
    | '-' :: rest => number? true rest
    | '[' :: rest => match depth with
      | 0 => none
      | depth + 1 => match skipBlanks rest with
        | ']' :: after => some (.array [], after)
        | _ => (items? (value? depth) rest.length rest).map fun (vs, after) => (.array vs, after)
    | '\x7b' :: rest => match depth with
      | 0 => none
      | depth + 1 => match skipBlanks rest with
        | '\x7d' :: after => some (.object [], after)
        | _ => (members? (value? depth) rest.length rest).map fun (ms, after) =>
            (.object (ofPairs ms), after)
    | s => number? false s

/-- How deep containers may nest. -/
def maxDepth : Nat := 127

/-- The members of the outermost object as written, repeated keys included. -/
def parseMembers? (text : String) : Option (List (String × Json)) :=
  match skipBlanks text.toList with
  | '\x7b' :: rest => match skipBlanks rest with
    | '\x7d' :: after => if (skipBlanks after).isEmpty then some [] else none
    | _ => (members? (value? (maxDepth - 1)) rest.length rest).bind fun (ms, after) =>
        if (skipBlanks after).isEmpty then some ms else none
  | _ => none

/-- The value a text spells, with nothing but blanks around it. -/
def parse? (text : String) : Option Json :=
  (value? maxDepth text.toList).bind fun (v, after) =>
    if (skipBlanks after).isEmpty then some v else none

end Layering.Json
