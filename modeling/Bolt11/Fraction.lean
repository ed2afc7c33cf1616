/-
This file holds numbers that are written with a fraction or with an exponent.

Such a number stands for the nearest number of fifty-three binary digits, a tie going to the even
neighbour; what is too large for all of them is infinite. It is kept as that number and compared and
cut off as such. A number is printed with the fewest decimal digits from which it is read back, and
if several do, with those that are nearest to it.

There is a point among the digits if the first one stands between the fourth place behind the point
and the sixteenth before it. Otherwise an exponent of ten follows.
-/

import Bolt11.Decimal

namespace Bolt11

/-- A number of fifty-three binary digits. -/
inductive Fraction where
  /-- The number `mantissa * 2 ^ exponent`, or its opposite. -/
  | finite (negative : Bool) (mantissa : Nat) (exponent : Int)
  | infinite (negative : Bool)
  deriving DecidableEq, Repr

namespace Fraction

/-! ### Rounding -/

/-- The number of binary digits of a mantissa. -/
def precision : Nat := 53

/-- The least exponent, that of the numbers next to zero. -/
def leastExponent : Int := -1074

/-- The largest exponent. -/
def largestExponent : Int := 971

/-- The quotient of two natural numbers in units of two to the exponent, rounded to an integer. -/
def inUnits (dividend divisor : Nat) (exponent : Int) : Nat :=
  Decimal.roundedQuotient (dividend * Nat.pow 2 (-exponent).toNat)
    (divisor * Nat.pow 2 exponent.toNat)

/-- The exponent with which the quotient of two natural numbers has a mantissa of full length, or
the least one. -/
def exponentOf (dividend divisor : Nat) : Int :=
  let digits : Int := (dividend.log2 : Int) - divisor.log2
  let short := dividend * Nat.pow 2 (-digits).toNat < divisor * Nat.pow 2 digits.toNat
  max leastExponent (if short then digits - precision else digits + 1 - precision)

/-- The number nearest to the quotient of two natural numbers, or to its opposite. -/
def nearest (negative : Bool) (dividend divisor : Nat) : Fraction :=
  if dividend = 0 then finite negative 0 0
  else
    let exponent := exponentOf dividend divisor
    let mantissa := inUnits dividend divisor exponent
    -- Rounding up can give the mantissa one digit more, and then it is a power of two.
    let full := mantissa = Nat.pow 2 precision
    let (mantissa, exponent) := if full then (mantissa / 2, exponent + 1) else (mantissa, exponent)
    if largestExponent < exponent then infinite negative else finite negative mantissa exponent

/-- The number nearest to `digits * 10 ^ exponent`, or to its opposite. What is far too large or far
too small is seen from the place of its first digit. -/
def ofScientific (negative : Bool) (digits : Nat) (exponent : Int) : Fraction :=
  let lead := (Decimal.digitCount digits : Int) + exponent
  if digits = 0 ∨ lead < -400 then finite negative 0 0
  else if 400 < lead then infinite negative
  else nearest negative (digits * Nat.pow 10 exponent.toNat) (Nat.pow 10 (-exponent).toNat)

/-! ### Value -/

/-- An integer with a sign. -/
def signed (negative : Bool) (magnitude : Nat) : Int :=
  if negative then -(magnitude : Int) else magnitude

/-- A finite number as an integer and a count of decimal places. -/
def value? : Fraction → Option (Int × Nat)
  | finite negative mantissa exponent =>
    let places := (-exponent).toNat
    some (signed negative (mantissa * Nat.pow 2 exponent.toNat * Nat.pow 5 places), places)
  | infinite _ => none

/-- A finite number without its fraction. -/
def truncated? (number : Fraction) : Option Int :=
  number.value?.map fun (digits, places) => digits.tdiv (Nat.pow 10 places)

/-- Whether the number is zero, of either sign. -/
def isZero : Fraction → Bool
  | finite _ mantissa _ => mantissa == 0
  | infinite _ => false

/-! ### Printing -/

/-- The digits with a point after the one of the given exponent. -/
def positional (figures : List Char) (lead : Int) : List Char :=
  if lead < 0 then '0' :: '.' :: (List.replicate (-lead - 1).toNat '0' ++ figures)
  else
    let count := lead.toNat + 1
    let tail := figures.drop count
    figures.take count ++ List.replicate (count - figures.length) '0' ++
      '.' :: (if tail.isEmpty then ['0'] else tail)

/-- The digits with a point after the first one, and the exponent of that one. -/
def scientific (figures : List Char) (lead : Int) : List Char :=
  let exponent := (toString lead.natAbs).toList
  let tail := figures.drop 1
  figures.take 1 ++ (if tail.isEmpty then [] else '.' :: tail) ++
    'e' :: (if lead < 0 then '-' else '+') ::
      (List.replicate (2 - exponent.length) '0' ++ exponent)

/-- The two integers around a quotient of natural numbers, the nearer one first. -/
def neighbours (dividend divisor : Nat) : List Nat :=
  let below := dividend / divisor
  if Decimal.roundedQuotient dividend divisor = below then [below, below + 1]
  else [below + 1, below]

/-- The digits from which a positive number is read back, and the power of ten that they count. The
first of them stands for ten to the `lead`; numbers of digits are tried from `count` on, as often as
there is `fuel`. -/
def shortestFrom (number : Fraction) (dividend divisor : Nat) (lead : Int) :
    (count fuel : Nat) → Nat × Int
  | _, 0 => (0, 0)
  | count, fuel + 1 =>
    let unit := lead + 1 - count
    let around := neighbours (dividend * Nat.pow 10 (-unit).toNat) (divisor * Nat.pow 10 unit.toNat)
    match around.find? fun digits => ofScientific false digits unit == number with
    | some digits => (digits, unit)
    | none => shortestFrom number dividend divisor lead (count + 1) fuel

/-- The fewest digits from which a positive number is read back, and the power of ten that they
count. Seventeen are always enough. -/
def shortest (mantissa : Nat) (exponent : Int) : Nat × Int :=
  let dividend := mantissa * Nat.pow 2 exponent.toNat
  let divisor := Nat.pow 2 (-exponent).toNat
  let guess : Int := (Decimal.digitCount dividend : Int) - Decimal.digitCount divisor
  let lead :=
    if dividend * Nat.pow 10 (-guess).toNat < divisor * Nat.pow 10 guess.toNat then guess - 1
    else guess
  shortestFrom (nearest false dividend divisor) dividend divisor lead 1 17

/-- The number as messages show it. -/
def print : Fraction → String
  | infinite negative => if negative then "-inf" else "inf"
  | finite negative mantissa exponent =>
    let sign := if negative then "-" else ""
    if mantissa = 0 then sign ++ "0.0"
    else
      let (digits, unit) := shortest mantissa exponent
      let written := (toString digits).toList
      let figures := (written.reverse.dropWhile fun c => c == '0').reverse
      let lead := (written.length : Int) - 1 + unit
      sign ++ String.ofList
        (if -4 ≤ lead ∧ lead < 16 then positional figures lead else scientific figures lead)

end Fraction

end Bolt11
