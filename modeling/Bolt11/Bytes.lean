/-
This file holds byte strings and the numbers they stand for.

A byte string is a list of octets. Numbers of a fixed width are written with the most
significant octet first; a number that does not fit its width is refused and never cut.
-/

namespace Bolt11

/-- A byte string. -/
abbrev Bytes := List UInt8

/-- Why a number has no form of the given width, or no form at all. -/
inductive Overflow where
  | negative
  | tooLarge
  | tooManyDigits
  | infinite
  deriving DecidableEq, Repr

/-- The wording of an overflow. -/
def Overflow.message : Overflow → String
  | negative => "can't convert negative int to unsigned"
  | tooLarge => "int too big to convert"
  | tooManyDigits => "too many digits in integer"
  | infinite => "cannot convert float infinity to integer"

namespace Bytes

/-- The number that a byte string stands for. -/
def toNat (octets : Bytes) : Nat :=
  octets.foldl (fun total octet => 256 * total + octet.toNat) 0

/-- The lowest `width` octets of a number. -/
def ofNat : Nat → Nat → Bytes
  | 0, _ => []
  | width + 1, value => ofNat width (value / 256) ++ [UInt8.ofNat value]

/-- An integer in exactly `width` octets. -/
def ofInt (width : Nat) (value : Int) : Except Overflow Bytes :=
  if value < 0 then .error .negative
  else if value < Nat.pow 256 width then .ok (ofNat width value.toNat)
  else .error .tooLarge

end Bytes

end Bolt11
