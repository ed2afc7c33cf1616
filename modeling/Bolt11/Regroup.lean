/-
This file regroups a string of bits from values of one width into values of another.

The input values are read as one long bit string, the most significant bit of each value first,
and the string is cut again into values of the target width. Bits that are left over at the end
are completed with zeros to one more value when padding is asked for. Otherwise they must be
fewer than one input value and all zero, and they are dropped.

The bits in transit are kept in an accumulator of bounded width: what it forgets has been given
out already.
-/

namespace Bolt11.Regroup

/-- Takes values of the target width off the accumulator, of which `bits` bits are still to be
given out. Gives the values and the number of bits left. -/
def drain (target acc bits : Nat) : List Nat × Nat :=
  if 0 < target ∧ target ≤ bits then
    let (values, left) := drain target acc (bits - target)
    (acc / Nat.pow 2 (bits - target) % Nat.pow 2 target :: values, left)
  else ([], bits)
  termination_by bits
  decreasing_by omega

/-- Feeds the values into an accumulator that holds `bits` bits. Gives the values taken off it
and the accumulator at the end with its number of bits; a value that is too wide gives nothing. -/
def feed (source target acc bits : Nat) : List Nat → Option (List Nat × Nat × Nat)
  | [] => some ([], acc, bits)
  | value :: rest =>
    if value < Nat.pow 2 source then
      let acc := (acc * Nat.pow 2 source + value) % Nat.pow 2 (source + target - 1)
      let (values, left) := drain target acc (bits + source)
      match feed source target acc left rest with
      | some (more, final) => some (values ++ more, final)
      | none => none
    else none

/-- The bits left in the accumulator, completed with zeros to one value of the target width. -/
def completed (target acc bits : Nat) : Nat :=
  acc * Nat.pow 2 (target - bits) % Nat.pow 2 target

/-- The values regrouped from `source` bits each to `target` bits each. -/
def run (source target : Nat) (pad : Bool) (values : List Nat) : Option (List Nat) :=
  match feed source target 0 0 values with
  | none => none
  | some (regrouped, acc, bits) =>
    if pad then
      some (if bits = 0 then regrouped else regrouped ++ [completed target acc bits])
    else if source ≤ bits ∨ completed target acc bits ≠ 0 then none
    else some regrouped

/-- Regrouping of integers: a negative value has no bits. -/
def runInts (source target : Nat) (pad : Bool) (values : List Int) : Option (List Nat) :=
  if values.all fun value => decide (0 ≤ value) then run source target pad (values.map Int.toNat)
  else none

end Bolt11.Regroup
