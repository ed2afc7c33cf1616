/-
This file turns numbers and byte strings into five-bit symbols and back.

Numbers are written in base thirty-two with the most significant symbol first. A number of free
length has no leading zero, so that zero is the empty list; a number of fixed length is filled up
with zeros in front. Byte strings are regrouped bit by bit.
-/

import Bolt11.Fault
import Bolt11.Regroup

namespace Bolt11.Symbols

/-! ### Numbers -/

/-- A natural number in base thirty-two without leading zeros. -/
def ofNat (value : Nat) : List Nat :=
  if value = 0 then [] else ofNat (value / 32) ++ [value % 32]
  termination_by value
  decreasing_by omega

/-- The number that a list of symbols stands for. -/
def toNat (symbols : List Nat) : Nat := symbols.foldl (fun total symbol => 32 * total + symbol) 0

/-- The number of bits of a natural number without leading zeros. -/
def bitLength (value : Nat) : Nat := if value = 0 then 0 else value.log2 + 1

/-- An integer as symbols, of free length. -/
def ofInt [Runtime] (value : Int) : Except Fault (List Nat) :=
  if value < 0 then .error (Fault.unencodable (.negative value)).worded
  else .ok (ofNat value.toNat)

/-- An integer as symbols that fill exactly the given number of bits. The bits have to be a
multiple of five; callers see to that. -/
def ofIntFixed [Runtime] (bits value : Int) : Except Fault (List Nat) :=
  if value < 0 then .error (Fault.unencodable (.negative value)).worded
  else if bits % 5 ≠ 0 then .error .unmetCondition
  else if bits < bitLength value.toNat then .error (Fault.unencodable (.tooWide value bits)).worded
  else
    let symbols := ofNat value.toNat
    .ok (List.replicate ((bits / 5).toNat - symbols.length) 0 ++ symbols)

/-! ### Byte strings -/

/-- A byte string as symbols; leftover bits are filled up with zeros. -/
def ofBytes (octets : Bytes) : List Nat :=
  (Regroup.run 8 5 true (octets.map UInt8.toNat)).getD []

/-- The octets of a regrouping that has succeeded. -/
def regrouped : Option (List Nat) → Except Malformed Bytes
  | none => .error .padding
  | some octets => .ok (octets.map UInt8.ofNat)

/-- The byte string that a list of symbols stands for. Leftover bits have to be fewer than one
symbol and zero. -/
def toBytes (symbols : List Nat) : Except Malformed Bytes :=
  regrouped (Regroup.run 5 8 false symbols)

end Bolt11.Symbols
