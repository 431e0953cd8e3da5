import Layering.Yaml.Basic

/-!
# Plain scalars

What a plain scalar means: null, a boolean, an integer, a double, or the text itself. Digits
after a leading zero are text, and an integer that fits in 128 but not in 64 bits is refused.
-/

namespace Layering.Yaml

open Number

/-- The value of a digit in a radix. -/
def digit? (radix : Nat) (c : Char) : Option Nat :=
  let value :=
    if '0' ≤ c && c ≤ '9' then some (c.toNat - 48)
    else if 'a' ≤ c && c ≤ 'z' then some (c.toNat - 87)
    else if 'A' ≤ c && c ≤ 'Z' then some (c.toNat - 55)
    else none
  value.filter (· < radix)

/-- A number without sign in a radix. -/
def digits? (radix : Nat) (s : List Char) : Option Nat :=
  if s.isEmpty then none
  else s.foldl (fun n c => n.bind fun n => (digit? radix c).map (n * radix + ·)) (some 0)

/-- Digits, perhaps after a plus sign. -/
def positive? (radix : Nat) (s : List Char) : Option Nat :=
  match s with
  | '+' :: rest => digits? radix rest
  | _ => digits? radix s

def isSign (c : Char) : Bool := c == '+' || c == '-'

def startsWithSign : List Char → Bool
  | c :: _ => isSign c
  | [] => false

/-- Digits only, with a zero in front of more digits. -/
def isZeroPadded (s : List Char) : Bool :=
  let s := match s with
    | c :: rest => if isSign c then rest else s
    | [] => s
  match s with
  | '0' :: d :: rest => (d :: rest).all fun c => '0' ≤ c && c ≤ '9'
  | _ => false

/-- The radix a scalar announces and the digits after the announcement. -/
def radix? : List Char → Option (Nat × List Char)
  | '0' :: 'x' :: rest => some (16, rest)
  | '0' :: 'o' :: rest => some (8, rest)
  | '0' :: 'b' :: rest => some (2, rest)
  | _ => none

/-- A scalar that spells a number from zero on. -/
def naturalOf (s : List Char) : Option Nat :=
  let body := match s with
    | '+' :: rest => rest
    | _ => s
  let announced := (radix? body).bind fun (radix, rest) =>
    if startsWithSign rest then none else digits? radix rest
  match announced with
  | some n => some n
  | none => if startsWithSign body || isZeroPadded s then none else positive? 10 body

/-- A scalar that spells minus a number. -/
def negativeOf (s : List Char) : Option Nat :=
  match s with
  | '-' :: rest =>
    match (radix? rest).bind fun (radix, rest) => digits? radix rest with
    | some n => some n
    | none => if isZeroPadded s then none else digits? 10 rest
  | _ => none

/-- The integer a scalar spells: refused (`some none`) when it needs 128 bits, no integer at all
(`none`) when it needs more. -/
def integerOf (s : List Char) : Option (Option Int) :=
  match naturalOf s with
  | some n =>
    if n ≤ 0xFFFFFFFFFFFFFFFF then some (some n)
    else if n < Nat.pow 2 128 then some none
    else none
  | none => match negativeOf s with
    | some n =>
      if n ≤ 0x8000000000000000 then some (some (-(n : Int)))
      else if n ≤ Nat.pow 2 127 then some none
      else none
    | none => none

/-- The finite double a decimal text spells. -/
def decimalOf (s : List Char) : Option Binary64 :=
  let isDigit := fun c => '0' ≤ c && c ≤ '9'
  let (negative, s) := match s with
    | '-' :: rest => (true, rest)
    | '+' :: rest => (false, rest)
    | _ => (false, s)
  let whole := s.takeWhile isDigit
  let rest := s.dropWhile isDigit
  let (places, rest) := match rest with
    | '.' :: rest => (rest.takeWhile isDigit, rest.dropWhile isDigit)
    | _ => ([], rest)
  let exponent : Option Int := match rest with
    | [] => some 0
    | c :: rest =>
      if c == 'e' || c == 'E' then
        match rest with
        | '-' :: rest => (digits? 10 rest).map fun n => -(n : Int)
        | _ => (positive? 10 rest).map fun n => (n : Int)
      else none
  if whole.isEmpty && places.isEmpty then none
  else
    (exponent.bind fun e => (digits? 10 (whole ++ places)).map fun m =>
      Binary64.ofDecimal negative m (e - places.length)).filter (·.isFinite)

/-- The double a scalar spells. -/
def doubleOf (s : List Char) : Option Binary64 :=
  let text := String.ofList s
  let body := match s with
    | '+' :: rest => rest
    | _ => s
  if s.head? == some '+' && startsWithSign body then none
  else if [".inf", ".Inf", ".INF"].contains (String.ofList body) then some .infinity
  else if ["-.inf", "-.Inf", "-.INF"].contains text then some .negativeInfinity
  else if [".nan", ".NaN", ".NAN"].contains text then some .nan
  else decimalOf body

def isNullText (text : String) : Bool := ["null", "Null", "NULL", "~"].contains text

def boolOf (text : String) : Option Bool :=
  if ["true", "True", "TRUE"].contains text then some true
  else if ["false", "False", "FALSE"].contains text then some false
  else none

/-- The value of a plain scalar. -/
def resolvePlain (text : String) : Option Value :=
  if text.isEmpty || isNullText text then some .null
  else match boolOf text with
    | some b => some (.bool b)
    | none => match integerOf text.toList with
      | some n => n.map .int
      | none =>
        if isZeroPadded text.toList then some (.string text)
        else match doubleOf text.toList with
          | some x => some (.float x)
          | none => some (.string text)

/-- Whether the text would not read back as itself when written plain. -/
def isAmbiguous (text : String) : Bool :=
  isZeroPadded text.toList ||
    match resolvePlain text with
    | some (.string _) => false
    | none => false
    | some _ => true

/-- The text of a number. -/
def floatText (x : Binary64) : String :=
  if x.isNaN then ".nan"
  else if !x.isFinite then if x.isNegative then "-.inf" else ".inf"
  else x.dataText

end Layering.Yaml
