/-
This file reads integer literals.

A literal is an optional sign and one or more decimal digits of any script, as many as the runtime
reads; a single underscore may stand between two digits. White space around the literal is dropped,
where the information separators, blank elsewhere, do not count as white space.
-/

import Bolt11.Runtime
import Bolt11.Text.Blank
import Bolt11.Text.DecimalDigit

namespace Bolt11.Text

/-- Whether a character may surround an integer literal. -/
def isNumeralMargin (c : Char) : Bool :=
  isBlank c && !(0x1C ≤ c.toNat && c.toNat ≤ 0x1F)

/-- Why a text is not read as an integer. -/
inductive NumeralFault where
  | notLiteral
  /-- There are more digits than the runtime reads, leading zeros included. That is seen before what
  follows the digits. -/
  | tooLong (limit digits : Nat)
  deriving DecidableEq, Repr

/-- The digits after the first one, read into a number whose leading digits are `total`. -/
def readMoreDigits (total : Nat) : List Char → Option Nat
  | [] => some total
  | '_' :: c :: rest => (digitValue? c).bind fun digit => readMoreDigits (10 * total + digit) rest
  | c :: rest => (digitValue? c).bind fun digit => readMoreDigits (10 * total + digit) rest

/-- The number of a run of digits and underscores, if the underscores stand between digits. -/
def readRun : List Char → Option Nat
  | [] => none
  | c :: rest => (digitValue? c).bind fun digit => readMoreDigits digit rest

/-- Whether a character may stand in a run of digits and underscores. -/
def isRunPart (c : Char) : Bool := c == '_' || (digitValue? c).isSome

/-- A natural number from a literal without a sign. -/
def readDigits [Runtime] (text : List Char) : Except NumeralFault Nat :=
  let run := text.takeWhile isRunPart
  let count := (run.filter fun c => c != '_').length
  match readRun run with
  | none => .error .notLiteral
  | some value =>
    match Runtime.exceeded? count with
    | some limit => .error (.tooLong limit count)
    | none => if run.length < text.length then .error .notLiteral else .ok value

/-- An integer from a literal. -/
def readInt [Runtime] (text : String) : Except NumeralFault Int :=
  match trimBy isNumeralMargin text.toList with
  | '-' :: rest => (readDigits rest).map fun magnitude => -(magnitude : Int)
  | '+' :: rest => (readDigits rest).map fun magnitude => (magnitude : Int)
  | digits => (readDigits digits).map fun magnitude => (magnitude : Int)

end Bolt11.Text
