/-
This file holds decimal numbers with a bounded number of significant digits.

A number is a coefficient times a power of ten. Every arithmetic result is rounded to
twenty-eight significant digits, a tie going to the even neighbour; numbers read from text keep
all their digits until the first operation.
-/

namespace Bolt11

/-- The number `coefficient * 10 ^ exponent`. -/
structure Decimal where
  coefficient : Nat
  exponent : Int
  deriving Repr

namespace Decimal

/-- The number of significant digits that an operation keeps. -/
def precision : Nat := 28

/-- The number of decimal digits of a natural number; zero has one. -/
def digitCount (value : Nat) : Nat :=
  if value < 10 then 1 else digitCount (value / 10) + 1
  termination_by value
  decreasing_by omega

/-- The quotient of two natural numbers, rounded to the nearest integer and a tie to the even
one. -/
def roundedQuotient (dividend divisor : Nat) : Nat :=
  let quotient := dividend / divisor
  let rest := dividend % divisor
  if 2 * rest < divisor then quotient
  else if divisor < 2 * rest then quotient + 1
  else if quotient % 2 = 0 then quotient else quotient + 1

/-- A number rounded to the significant digits that an operation keeps. -/
def rounded (number : Decimal) : Decimal :=
  let excess := digitCount number.coefficient - precision
  if excess = 0 then number
  else ⟨roundedQuotient number.coefficient (Nat.pow 10 excess), number.exponent + excess⟩

/-- A natural number, exactly. -/
def ofNat (value : Nat) : Decimal := ⟨value, 0⟩

/-- A number divided by a power of ten. -/
def overPowerOfTen (number : Decimal) (places : Nat) : Decimal :=
  rounded ⟨number.coefficient, number.exponent - places⟩

/-- A number multiplied by a natural number. -/
def times (number : Decimal) (factor : Nat) : Decimal :=
  rounded ⟨number.coefficient * factor, number.exponent⟩

/-! ### As a fraction

A number is the quotient of its numerator and its denominator. The exponent stands in only one
of the two, and the denominator is a power of ten and never zero.
-/

/-- What stands above the line: the coefficient with the zeros of a positive exponent. -/
def numerator (number : Decimal) : Nat :=
  number.coefficient * Nat.pow 10 number.exponent.toNat

/-- What stands below the line: the power of ten of a negative exponent. -/
def denominator (number : Decimal) : Nat := Nat.pow 10 (-number.exponent).toNat

/-- Whether a number is at most a natural number. -/
def atMost (number : Decimal) (bound : Nat) : Bool :=
  number.numerator ≤ bound * number.denominator

/-- Whether a number has no fraction. -/
def isWhole (number : Decimal) : Bool := number.numerator % number.denominator == 0

/-- A number without its fraction. -/
def floor (number : Decimal) : Nat := number.numerator / number.denominator

end Decimal

end Bolt11
