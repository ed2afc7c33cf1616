/-
This file extends the operations on symbols to integers of any size and sign.

A number that is read from integers in base thirty-two is their weighted sum, whatever they are.
An integer below zero has no bits to regroup. A width below zero has no power of two, and is
noticed when that power is first needed.
-/

import Bolt11.Field
import Bolt11.Symbols

namespace Bolt11

/-- Regrouping with widths that may be below zero. The powers of two of the target width and of
the accumulator are needed at once, the one of the source width for the first value that is not
below zero. -/
def Regroup.runWidths (source target : Int) (pad : Bool) (values : List Int) :
    Except BadValue (Option (List Nat)) :=
  if target < 0 ∨ source + target < 1 then .error .negativeShift
  else if 0 ≤ source then .ok (runInts source.toNat target.toNat pad values)
  else match values with
    | [] => .ok (if pad then some [] else none)
    | value :: _ => if value < 0 then .ok none else .error .negativeShift

namespace Symbols

/-- The number that a list of integers stands for. -/
def toInt (values : List Int) : Int := values.foldl (fun total value => 32 * total + value) 0

/-- The byte string that a list of integers stands for, if they are symbols. -/
def bytesOfInts (values : List Int) : Except Malformed Bytes :=
  regrouped (Regroup.runInts 5 8 false values)

/-- On natural numbers the sum is the number that the symbols stand for. -/
theorem toInt_natCast (symbols : List Nat) :
    toInt (symbols.map Int.ofNat) = (toNat symbols : Nat) := by
  have general : ∀ (total : Nat),
      (symbols.map Int.ofNat).foldl (fun total value => 32 * total + value) (total : Int) =
        ((symbols.foldl (fun total symbol => 32 * total + symbol) total : Nat) : Int) := by
    induction symbols with
    | nil => intro total; rfl
    | cons symbol rest inductionHypothesis =>
      intro total
      exact inductionHypothesis (32 * total + symbol)
  exact general 0

theorem bytesOfInts_natCast (symbols : List Nat) :
    bytesOfInts (symbols.map Int.ofNat) = toBytes symbols := by
  have natural : ((symbols.map Int.ofNat).all fun value => decide (0 ≤ value)) = true := by
    simp only [List.all_map, List.all_eq_true, Function.comp_apply, decide_eq_true_eq]
    exact fun symbol _ => Int.natCast_nonneg symbol
  have back : (symbols.map Int.ofNat).map Int.toNat = symbols := by
    rw [List.map_map]
    exact List.map_id'' (fun _ => rfl) symbols
  simp only [bytesOfInts, toBytes, Regroup.runInts, natural, back, if_true]

end Symbols

/-- A field with any list of integers for payload. -/
def Field.frame (tag : String) (payload : List Int) : Except Fault (List Int) :=
  match header tag payload.length with
  | .error fault => .error fault
  | .ok symbols => .ok (symbols.map Int.ofNat ++ payload)

end Bolt11
