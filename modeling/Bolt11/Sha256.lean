/-
This file computes the 256-bit secure hash of a byte string.

The message is closed with a one bit, zeros, and its length in bits, so that it fills whole
blocks of sixty-four octets. Each block is spread to sixty-four words of thirty-two bits, and
each word stirs eight running words once; what the running words end with is added to what they
began the block with.
-/

import Bolt11.Bytes

namespace Bolt11.Sha256

/-- The eight running words. -/
structure State where
  a : UInt32
  b : UInt32
  c : UInt32
  d : UInt32
  e : UInt32
  f : UInt32
  g : UInt32
  h : UInt32
  deriving DecidableEq, Repr

/-- The words before the first block. -/
def initial : State :=
  ⟨0x6a09e667, 0xbb67ae85, 0x3c6ef372, 0xa54ff53a, 0x510e527f, 0x9b05688c, 0x1f83d9ab, 0x5be0cd19⟩

/-- One constant for each of the sixty-four rounds. -/
def roundConstants : List UInt32 := [
  0x428a2f98, 0x71374491, 0xb5c0fbcf, 0xe9b5dba5, 0x3956c25b, 0x59f111f1, 0x923f82a4, 0xab1c5ed5,
  0xd807aa98, 0x12835b01, 0x243185be, 0x550c7dc3, 0x72be5d74, 0x80deb1fe, 0x9bdc06a7, 0xc19bf174,
  0xe49b69c1, 0xefbe4786, 0x0fc19dc6, 0x240ca1cc, 0x2de92c6f, 0x4a7484aa, 0x5cb0a9dc, 0x76f988da,
  0x983e5152, 0xa831c66d, 0xb00327c8, 0xbf597fc7, 0xc6e00bf3, 0xd5a79147, 0x06ca6351, 0x14292967,
  0x27b70a85, 0x2e1b2138, 0x4d2c6dfc, 0x53380d13, 0x650a7354, 0x766a0abb, 0x81c2c92e, 0x92722c85,
  0xa2bfe8a1, 0xa81a664b, 0xc24b8b70, 0xc76c51a3, 0xd192e819, 0xd6990624, 0xf40e3585, 0x106aa070,
  0x19a4c116, 0x1e376c08, 0x2748774c, 0x34b0bcb5, 0x391c0cb3, 0x4ed8aa4a, 0x5b9cca4f, 0x682e6ff3,
  0x748f82ee, 0x78a5636f, 0x84c87814, 0x8cc70208, 0x90befffa, 0xa4506ceb, 0xbef9a3f7, 0xc67178f2]

/-- A word turned to the right. -/
def rotate (word : UInt32) (places : UInt32) : UInt32 :=
  (word >>> places) ||| (word <<< (32 - places))

/-- The message closed to whole blocks. -/
def close (message : Bytes) : Bytes :=
  message ++ 0x80 :: List.replicate ((119 - message.length % 64) % 64) 0 ++
    Bytes.ofNat 8 (8 * message.length)

/-- The words of a block. -/
def words : Bytes → List UInt32
  | a :: b :: c :: d :: rest =>
    ((a.toUInt32 <<< 24) ||| (b.toUInt32 <<< 16) ||| (c.toUInt32 <<< 8) ||| d.toUInt32) :: words rest
  | _ => []

/-- Adds `count` words to the front of a list that holds the latest word first. -/
def spread : Nat → List UInt32 → List UInt32
  | 0, latest => latest
  | count + 1, latest =>
    let two := latest.getD 1 0
    let seven := latest.getD 6 0
    let fifteen := latest.getD 14 0
    let sixteen := latest.getD 15 0
    let low := rotate fifteen 7 ^^^ rotate fifteen 18 ^^^ (fifteen >>> 3)
    let high := rotate two 17 ^^^ rotate two 19 ^^^ (two >>> 10)
    spread count ((sixteen + low + seven + high) :: latest)

/-- One round. -/
def stir (state : State) (input : UInt32 × UInt32) : State :=
  let ⟨a, b, c, d, e, f, g, h⟩ := state
  let choice := (e &&& f) ^^^ ((~~~e) &&& g)
  let majority := (a &&& b) ^^^ (a &&& c) ^^^ (b &&& c)
  let lower := rotate e 6 ^^^ rotate e 11 ^^^ rotate e 25
  let upper := rotate a 2 ^^^ rotate a 13 ^^^ rotate a 22
  let first := h + lower + choice + input.1 + input.2
  let second := upper + majority
  ⟨first + second, a, b, c, d + first, e, f, g⟩

/-- The running words after one more block. -/
def absorb (state : State) (block : Bytes) : State :=
  let schedule := (spread 48 (words block).reverse).reverse
  let stirred := (schedule.zip roundConstants).foldl stir state
  ⟨state.a + stirred.a, state.b + stirred.b, state.c + stirred.c, state.d + stirred.d,
    state.e + stirred.e, state.f + stirred.f, state.g + stirred.g, state.h + stirred.h⟩

/-- The running words after `count` blocks. -/
def absorbAll : Nat → State → Bytes → State
  | 0, state, _ => state
  | count + 1, state, octets => absorbAll count (absorb state (octets.take 64)) (octets.drop 64)

/-- The hash of a byte string, thirty-two octets. -/
def hash (message : Bytes) : Bytes :=
  let closed := close message
  let state := absorbAll (closed.length / 64) initial closed
  [state.a, state.b, state.c, state.d, state.e, state.f, state.g, state.h].flatMap fun word =>
    Bytes.ofNat 4 word.toNat

end Bolt11.Sha256
