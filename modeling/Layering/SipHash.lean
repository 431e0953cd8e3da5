/-!
# SipHash

A hash of 64 bits over bytes, with one round for each word of eight bytes, three at the end, and
a key of zeros.
-/

namespace Layering.SipHash

/-- The four words of the state. -/
structure State where
  v0 : UInt64 := 0x736f6d6570736575
  v1 : UInt64 := 0x646f72616e646f6d
  v2 : UInt64 := 0x6c7967656e657261
  v3 : UInt64 := 0x7465646279746573

def rotate (x : UInt64) (n : UInt64) : UInt64 := (x <<< n) ||| (x >>> (64 - n))

/-- One round. -/
def State.round (s : State) : State :=
  let v0 := s.v0 + s.v1
  let v1 := rotate s.v1 13 ^^^ v0
  let v0 := rotate v0 32
  let v2 := s.v2 + s.v3
  let v3 := rotate s.v3 16 ^^^ v2
  let v0 := v0 + v3
  let v3 := rotate v3 21 ^^^ v0
  let v2 := v2 + v1
  let v1 := rotate v1 17 ^^^ v2
  let v2 := rotate v2 32
  { v0, v1, v2, v3 }

/-- Take in one word. -/
def State.absorb (s : State) (word : UInt64) : State :=
  let s := State.round { s with v3 := s.v3 ^^^ word }
  { s with v0 := s.v0 ^^^ word }

/-- The word of at most eight bytes, lowest first. -/
def word : List UInt8 → UInt64
  | [] => 0
  | b :: rest => b.toUInt64 ||| (word rest <<< 8)

/-- Take in all whole words, then the rest with the number of bytes in its highest byte. -/
def absorbAll (size : Nat) (s : State) (bytes : List UInt8) : State :=
  if 8 ≤ bytes.length then absorbAll size (s.absorb (word (bytes.take 8))) (bytes.drop 8)
  else s.absorb (word bytes ||| (size.toUInt64 <<< 56))
termination_by bytes.length
decreasing_by simp only [List.length_drop]; omega

/-- The hash of some bytes. -/
def hash (bytes : List UInt8) : UInt64 :=
  let s := absorbAll bytes.length {} bytes
  let s := ({ s with v2 := s.v2 ^^^ 0xff } : State).round.round.round
  s.v0 ^^^ s.v1 ^^^ s.v2 ^^^ s.v3

end Layering.SipHash
