/-
This file holds the checksummed text form of a payment request.

A text is a human readable part, the separator 1, and a data part in an alphabet of thirty-two
characters, each of which stands for five bits. The human readable part may hold the separator
too, so the last one counts. The last six symbols of the data part are a checksum over both
parts. Two variants differ in one constant of the checksum; payment requests use the older one.

A text is in upper case or in lower case throughout. Both mean the same, and what is read is the
lower case.
-/

import Bolt11.Fault
import Bolt11.Text.LetterCase
import Bolt11.Text.Split

namespace Bolt11.Bech32

/-! ### Alphabet -/

/-- The characters of the data part in the order of their values. -/
def alphabet : List Char := "qpzry9x8gf2tvdw0s3jn54khce6mua7l".toList

/-- The character of a symbol. -/
def letter (symbol : Nat) : Char := alphabet.getD symbol 'q'

/-- The symbol of a character, if it is in the alphabet. -/
def symbol? (c : Char) : Option Nat := alphabet.findIdx? (· == c)

/-! ### Checksum -/

/-- The two variants of the checksum. -/
inductive Variant where
  | bech32
  | bech32m
  deriving DecidableEq, Repr

namespace Variant

/-- What the register holds after a text with a good checksum. -/
def residue : Variant → Nat
  | bech32 => 1
  | bech32m => 0x2bc830a3

/-- The variant with the given residue. -/
def ofResidue? (register : Nat) : Option Variant :=
  if register = residue bech32 then some bech32
  else if register = residue bech32m then some bech32m
  else none

end Variant

/-- What each of the five bits that leave the register on a step puts back into it. -/
def generators : List Nat := [0x3b6a57b2, 0x26508e6d, 0x1ea119fa, 0x3d4233dd, 0x2a1462b3]

/-- The generators selected by the bits of `top`, the lowest bit first, added to a register. -/
def feedback (top : Nat) : List Nat → Nat → Nat
  | [], register => register
  | generator :: rest, register =>
    feedback (top / 2) rest (if top % 2 = 1 then register ^^^ generator else register)

/-- One step of the register: five bits leave at the top, a value enters at the bottom. -/
def step (register value : Nat) : Nat :=
  feedback (register / 0x2000000) generators (((register % 0x2000000) * 32) ^^^ value)

/-- The register after a list of values. -/
def polymod (values : List Nat) : Nat := values.foldl step 1

/-- The human readable part as values: the high bits of each character, a zero, the low bits of
each character. -/
def expand (humanPart : List Char) : List Nat :=
  humanPart.map (fun c => c.toNat / 32) ++ 0 :: humanPart.map (fun c => c.toNat % 32)

/-- The variant whose checksum the symbols end with, if any. -/
def verify (humanPart : List Char) (symbols : List Nat) : Option Variant :=
  Variant.ofResidue? (polymod (expand humanPart ++ symbols))

/-- The six symbols of the checksum. -/
def checksum (variant : Variant) (humanPart : List Char) (symbols : List Nat) : List Nat :=
  let register := polymod (expand humanPart ++ symbols ++ [0, 0, 0, 0, 0, 0]) ^^^ variant.residue
  [5, 4, 3, 2, 1, 0].map fun place => register / Nat.pow 32 place % 32

/-! ### Text -/

/-- The text of a human readable part and its symbols, the checksum included. -/
def write (variant : Variant) (humanPart : List Char) (symbols : List Nat) : List Char :=
  humanPart ++ '1' :: (symbols ++ checksum variant humanPart symbols).map letter

/-- Whether a character may stand in the human readable part. -/
def isPlain (c : Char) : Bool := 33 ≤ c.toNat && c.toNat ≤ 126

/-- Whether a text mixes letters of both cases. -/
def isMixed (text : List Char) : Bool := Text.lower text != text && Text.upper text != text

/-- The symbols of a text in the alphabet. -/
def symbols? (text : List Char) : Option (List Nat) := text.mapM symbol?

/-- Reads a text that has a good checksum of either variant. A text may have ninety characters,
unless the length is said not to matter. -/
def read (anyLength : Bool) (text : List Char) : Option (Variant × List Char × List Nat) :=
  if isMixed text then none
  else match Text.splitLast '1' text with
    | none => none
    | some (before, after) =>
      if before.isEmpty || after.length < 6 || (!anyLength && 90 < text.length) then none
      else if !before.all isPlain then none
      else match symbols? (Text.lower after) with
        | none => none
        | some symbols =>
          let humanPart := Text.lower before
          match verify humanPart symbols with
          | none => none
          | some variant => some (variant, humanPart, symbols.take (symbols.length - 6))

/-- The human readable part and the symbols of a payment request. -/
def decode (text : String) : Except Malformed (String × List Nat) :=
  match read true text.toList with
  | none => .error .checksum
  | some (.bech32, humanPart, symbols) => .ok (String.ofList humanPart, symbols)
  | some (.bech32m, _, _) => .error .variant

/-- The text of a payment request. -/
def encode (humanPart : String) (values : List Int) : Except BadValue String :=
  if values.all fun value => decide (0 ≤ value ∧ value < 32) then
    .ok (String.ofList (write .bech32 humanPart.toList (values.map Int.toNat)))
  else .error .notSymbols

end Bolt11.Bech32
