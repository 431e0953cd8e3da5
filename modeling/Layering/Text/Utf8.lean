/-!
# Reading UTF-8

Bytes as text, in two ways: `decode?` refuses malformed input, `decodeLossy` puts one
replacement character in the place of each malformed stretch. A malformed stretch is the
longest beginning of a well-formed character, or a single byte.
-/

namespace Layering.Text.Utf8

/-- The character that stands for a malformed stretch. -/
def replacement : Char := Char.ofNat 0xFFFD

/-- Whether `b` continues a character. -/
def isTail (b : UInt8) : Bool := 0x80 ≤ b && b ≤ 0xBF

/-- What a leading byte promises: how many bytes follow, the bounds of the first of them, and
the bits the leading byte itself contributes. -/
def lead? (b : UInt8) : Option (Nat × UInt8 × UInt8 × Nat) :=
  if 0xC2 ≤ b && b ≤ 0xDF then some (1, 0x80, 0xBF, b.toNat - 0xC0)
  else if b == 0xE0 then some (2, 0xA0, 0xBF, 0)
  else if b == 0xED then some (2, 0x80, 0x9F, 0xD)
  else if 0xE1 ≤ b && b ≤ 0xEF then some (2, 0x80, 0xBF, b.toNat - 0xE0)
  else if b == 0xF0 then some (3, 0x90, 0xBF, 0)
  else if 0xF1 ≤ b && b ≤ 0xF3 then some (3, 0x80, 0xBF, b.toNat - 0xF0)
  else if b == 0xF4 then some (3, 0x80, 0x8F, 4)
  else none

/-- Where reading stands inside a character: bytes still owed, bounds of the next one, and the
bits read so far. -/
structure Pending where
  owed : Nat
  low : UInt8
  high : UInt8
  bits : Nat

/-- Read bytes into characters; a malformed stretch becomes `none`. -/
def decodeFrom : Option Pending → List UInt8 → List (Option Char)
  | none, [] => []
  | some _, [] => [none]
  | none, b :: rest =>
    if b < 0x80 then some (Char.ofNat b.toNat) :: decodeFrom none rest
    else match lead? b with
      | some (owed, low, high, bits) => decodeFrom (some ⟨owed, low, high, bits⟩) rest
      | none => none :: decodeFrom none rest
  | some p, b :: rest =>
    if p.low ≤ b && b ≤ p.high then
      let bits := p.bits * 64 + (b.toNat - 0x80)
      if p.owed ≤ 1 then some (Char.ofNat bits) :: decodeFrom none rest
      else decodeFrom (some ⟨p.owed - 1, 0x80, 0xBF, bits⟩) rest
    else
      none ::
        if b < 0x80 then some (Char.ofNat b.toNat) :: decodeFrom none rest
        else match lead? b with
          | some (owed, low, high, bits) => decodeFrom (some ⟨owed, low, high, bits⟩) rest
          | none => none :: decodeFrom none rest

/-- The text the bytes spell, if they are well-formed. -/
def decode? (bytes : List UInt8) : Option String :=
  (decodeFrom none bytes).mapM id |>.map String.ofList

/-- The text the bytes spell, with a replacement character for each malformed stretch. -/
def decodeLossy (bytes : List UInt8) : String :=
  String.ofList ((decodeFrom none bytes).map (·.getD replacement))

end Layering.Text.Utf8
