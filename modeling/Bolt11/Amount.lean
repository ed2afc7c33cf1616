/-
This file writes amounts in the short form of a payment request and reads them back.

An amount is counted in thousandths of a satoshi. In a request it is a decimal number of
bitcoin, followed by at most one letter that divides it by a power of a thousand: m, u, n or p
for one to four of them. The writer takes the letter that leaves the fewest digits.
-/

import Bolt11.Decimal
import Bolt11.Fault

namespace Bolt11.Amount

/-- The letters, from the smallest unit to the largest, with the power of ten each divides by. -/
def units : List (Char × Nat) := [('p', 12), ('n', 9), ('u', 6), ('m', 3)]

/-- The number of satoshi in a bitcoin. -/
def satoshiPerBitcoin : Nat := 100000000

/-- No amount is larger than all bitcoin there can be. -/
def supplyInBitcoin : Nat := 21000000

/-! ### Writing -/

/-- Moves an amount to the largest unit in which it is a whole number, and tells the letter of that
unit. The first letter of `letters` is the unit it is in; after the last letter come whole bitcoin,
which have none. -/
def inLargestUnit (amount : Int) : List Char → Int × List Char
  | [] => (amount, [])
  | unit :: larger =>
    if amount % 1000 = 0 then inLargestUnit (amount / 1000) larger else (amount, [unit])

/-- The number and the letter of the short form of an amount of thousandths of a satoshi. -/
def shortParts (msat : Int) : Int × List Char := inLargestUnit (msat * 10) (units.map Prod.fst)

/-- The short form of an amount of thousandths of a satoshi. -/
def shorten [Runtime] (msat : Int) : Except BadValue String :=
  match written (shortParts msat).1 with
  | .ok number => .ok (number ++ String.ofList (shortParts msat).2)
  | .error cause => .error cause

/-! ### Reading -/

/-- Whether a character is an ASCII digit. -/
def isDigit (c : Char) : Bool := 48 ≤ c.toNat && c.toNat ≤ 57

/-- The number that a list of ASCII digits stands for. -/
def digitsValue (digits : List Char) : Nat :=
  digits.foldl (fun total c => 10 * total + (c.toNat - 48)) 0

/-- The digits of a short form and the power of ten they are divided by. -/
def split? (text : List Char) : Option (List Char × Nat) :=
  let digits := text.takeWhile isDigit
  if digits.isEmpty then none
  else match text.dropWhile isDigit with
    | [] => some (digits, 0)
    | [unit] => (units.lookup unit).map fun places => (digits, places)
    | _ => none

/-- The amount of a short form, in thousandths of a satoshi. -/
def unshorten (text : String) : Except Invalid Nat :=
  match split? text.toList with
  | none => .error (.amountText text)
  | some (digits, places) =>
    let written := Decimal.ofNat (digitsValue digits)
    let bitcoin := if places = 0 then written else written.overPowerOfTen places
    if !bitcoin.atMost supplyInBitcoin then .error (.amountRange text)
    else
      let msat := (bitcoin.times satoshiPerBitcoin).times 1000
      if msat.isWhole then .ok msat.floor else .error (.amountFraction text)

end Bolt11.Amount
