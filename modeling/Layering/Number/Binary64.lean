/-!
# Double-precision numbers

A double as its bit pattern, so that two of them can be told apart, and its shortest decimal:
the fewest digits that read back as the same double, and among those the nearest.
-/

namespace Layering.Number

/-- A double-precision number, given by its bits. -/
structure Binary64 where
  bits : UInt64
deriving DecidableEq, Inhabited, Repr

namespace Binary64

/-- The double a machine float holds. -/
def ofFloat (x : Float) : Binary64 := ⟨x.toBits⟩

/-- The machine float with these bits. -/
def toFloat (x : Binary64) : Float := Float.ofBits x.bits

def isNegative (x : Binary64) : Bool := x.bits >>> 63 == 1

/-- The biased exponent. -/
def exponentField (x : Binary64) : Nat := ((x.bits >>> 52) &&& 0x7FF).toNat

/-- The bits after the leading one. -/
def fractionField (x : Binary64) : Nat := (x.bits &&& 0xFFFFFFFFFFFFF).toNat

def isFinite (x : Binary64) : Bool := x.exponentField != 0x7FF

def isNaN (x : Binary64) : Bool := !x.isFinite && x.fractionField != 0

def isZero (x : Binary64) : Bool := x.exponentField == 0 && x.fractionField == 0

def infinity : Binary64 := ⟨0x7FF0000000000000⟩

def negativeInfinity : Binary64 := ⟨0xFFF0000000000000⟩

def nan : Binary64 := ⟨0x7FF8000000000000⟩

/-- Numeric equality, under which the two zeros are one number and so are all NaNs. -/
def same (x y : Binary64) : Bool :=
  x == y || (x.isZero && y.isZero) || (x.isNaN && y.isNaN)

/-- The double nearest to `m · 10 ^ e`, infinite when it is out of range. -/
def ofDecimal (negative : Bool) (m : Nat) (e : Int) : Binary64 :=
  let digits := (Nat.toDigits 10 m).length
  let magnitude : Float :=
    if m == 0 || digits + e < -400 then 0.0
    else if digits + e > 400 then 1.0 / 0.0
    else if e < 0 then Float.ofScientific m true e.natAbs
    else Float.ofScientific m false e.natAbs
  ofFloat (if negative then -magnitude else magnitude)

/-! ## Shortest decimals -/

/-- A finite magnitude `m · 2 ^ q`, from the two fields. -/
def magnitude (x : Binary64) : Nat × Int :=
  if x.exponentField == 0 then (x.fractionField, -1074)
  else (x.fractionField + Nat.pow 2 52, (x.exponentField : Int) - 1075)

/-- The reals that round to a double, as fractions over one denominator. -/
structure Interval where
  low : Nat
  value : Nat
  high : Nat
  denominator : Nat
  closed : Bool

/-- The interval around `m · 2 ^ q`; below a power of two its lower half is half as wide. -/
def interval (x : Binary64) : Interval :=
  let (m, q) := x.magnitude
  let below := if x.fractionField == 0 && x.exponentField > 1 then 1 else 2
  let scale := Nat.pow 2 (q - 2).toNat
  ⟨(4 * m - below) * scale, 4 * m * scale, (4 * m + 2) * scale, Nat.pow 2 (2 - q).toNat, m % 2 == 0⟩

/-- Whether `c · 10 ^ e` lies in the interval. -/
def Interval.holds (i : Interval) (c : Nat) (e : Int) : Bool :=
  let point := c * Nat.pow 10 e.toNat * i.denominator
  let scale := Nat.pow 10 (-e).toNat
  if i.closed then i.low * scale ≤ point && point ≤ i.high * scale
  else i.low * scale < point && point < i.high * scale

/-- The number `k` with `10 ^ (k - 1) ≤ value < 10 ^ k`. -/
def Interval.magnitude10 (i : Interval) : Int :=
  let guess : Int := (Nat.toDigits 10 i.value).length - (Nat.toDigits 10 i.denominator).length
  if i.value * Nat.pow 10 (-guess).toNat < i.denominator * Nat.pow 10 guess.toNat then guess else guess + 1

/-- The nearer of the two grid points `c` and `c + 1` that lie in the interval. -/
def Interval.pick (i : Interval) (c : Nat) (e : Int) : Option Nat :=
  match i.holds c e, i.holds (c + 1) e with
  | false, false => none
  | true, false => some c
  | false, true => some (c + 1)
  | true, true =>
    let twice := 2 * i.value * Nat.pow 10 (-e).toNat
    let middle := (2 * c + 1) * Nat.pow 10 e.toNat * i.denominator
    some (if twice < middle || (twice == middle && c % 2 == 0) then c else c + 1)

/-- Look for a point with at most `digits` digits, then one more, for `tries` rounds. -/
def Interval.search (i : Interval) (k : Int) (digits : Nat) : Nat → Nat × Int
  | 0 => (i.value / i.denominator, 0)
  | tries + 1 =>
    let e := k - digits
    let c := i.value * Nat.pow 10 (-e).toNat / (i.denominator * Nat.pow 10 e.toNat)
    match i.pick c e with
    | some d => (d, e)
    | none => i.search k (digits + 1) tries

/-- Drop the zeros at the end of the digits, for at most `fuel` of them. -/
def dropZeros : Nat → Nat × Int → Nat × Int
  | 0, d => d
  | fuel + 1, (c, e) => if c != 0 && c % 10 == 0 then dropZeros fuel (c / 10, e + 1) else (c, e)

/-- The shortest decimal `c · 10 ^ e` that reads back as the magnitude of `x`. -/
def shortest (x : Binary64) : Nat × Int :=
  if x.isZero then (0, 0)
  else
    let i := x.interval
    dropZeros 20 (i.search i.magnitude10 1 17)

/-! ## Texts -/

/-- The digits of a number. -/
def digitsText (n : Nat) : String := String.ofList (Nat.toDigits 10 n)

def zeros (n : Nat) : String := String.ofList (List.replicate n '0')

/-- An integer in decimal. -/
def integerText (n : Int) : String :=
  if n < 0 then "-" ++ digitsText n.natAbs else digitsText n.natAbs

/-- `c · 10 ^ e` without an exponent and without a point when there is no fraction. -/
def positional (c : Nat) (e : Int) : String :=
  let digits := digitsText c
  let point := (digits.length : Int) + e
  if 0 ≤ e then digits ++ zeros e.toNat
  else if 0 < point then
    String.ofList (digits.toList.take point.toNat) ++ "." ++
      String.ofList (digits.toList.drop point.toNat)
  else "0." ++ zeros (-point).toNat ++ digits

/-- `c · 10 ^ e` with one digit before the point and an exponent. -/
def scientific (c : Nat) (e : Int) : String :=
  let digits := digitsText c
  let exponent := "e" ++ integerText ((digits.length : Int) + e - 1)
  match digits.toList with
  | [] => exponent
  | [d] => d.toString ++ exponent
  | d :: rest => d.toString ++ "." ++ String.ofList rest ++ exponent

/-- A finite number as data formats write it: with a fraction when its exponent lies between
-5 and 15, with an exponent otherwise. -/
def dataText (x : Binary64) : String :=
  let (c, e) := x.shortest
  let point := ((digitsText c).length : Int) + e
  let text :=
    if x.isZero then "0.0"
    else if 0 ≤ e && point ≤ 16 then positional c e ++ ".0"
    else if -5 < point && point ≤ 16 then positional c e
    else scientific c e
  if x.isNegative then "-" ++ text else text

/-- A number as messages show it: never with an exponent, always with a fraction. -/
def messageText (x : Binary64) : String :=
  if x.isNaN then "NaN"
  else if !x.isFinite then if x.isNegative then "-inf" else "inf"
  else
    let (c, e) := x.shortest
    let text := if 0 ≤ e then positional c e ++ ".0" else positional c e
    if x.isNegative then "-" ++ text else text

end Binary64

end Layering.Number
