/-
This file extends the checksum from symbols to integers of any size and sign.

The register is then an integer whose bits go on without end, all zero or all one from some place
on; exclusive or and the shifts are taken of those bits. A value has a character if it is a
symbol, or if it is below zero by at most the size of the alphabet, in which case it counts from
the alphabet's end. On symbols nothing changes.
-/

import Bolt11.Bech32

namespace Bolt11.Bech32

/-! ### Register -/

/-- The exclusive or of the bits of two integers. -/
def exclusiveOr : Int → Int → Int
  | .ofNat left, .ofNat right => .ofNat (left ^^^ right)
  | .ofNat left, .negSucc right => .negSucc (left ^^^ right)
  | .negSucc left, .ofNat right => .negSucc (left ^^^ right)
  | .negSucc left, .negSucc right => .ofNat (left ^^^ right)

/-- The generators selected by the five lowest bits above the register's width, added up. -/
def selected (register : Int) : Nat := feedback (register / 0x2000000 % 32).toNat generators 0

/-- One step of the register with an integer that enters. -/
def stepInt (register value : Int) : Int :=
  exclusiveOr (exclusiveOr (register % 0x2000000 * 32) value) (selected register)

/-- The register after a list of integers. -/
def polymodInts (values : List Int) : Int := values.foldl stepInt 1

/-- The human readable part and a list of integers as one list. -/
def expandInts (humanPart : List Char) (values : List Int) : List Int :=
  (expand humanPart).map Int.ofNat ++ values

/-- The variant whose checksum the integers end with, if any. -/
def verifyInts (humanPart : List Char) (values : List Int) : Option Variant :=
  match polymodInts (expandInts humanPart values) with
  | .ofNat register => Variant.ofResidue? register
  | .negSucc _ => none

/-- The six symbols of the checksum of a list of integers. -/
def checksumInts (variant : Variant) (humanPart : List Char) (values : List Int) : List Nat :=
  let register := exclusiveOr
    (polymodInts (expandInts humanPart (values ++ [0, 0, 0, 0, 0, 0]))) variant.residue
  [5, 4, 3, 2, 1, 0].map fun place => (register / Nat.pow 32 place % 32).toNat

/-! ### Text -/

/-- The character of an integer. -/
def letterOf? (value : Int) : Option Char :=
  if 0 ≤ value then alphabet[value.toNat]?
  else if -32 ≤ value then alphabet[(32 + value).toNat]?
  else none

/-- The text of a human readable part and a list of integers, the checksum included. Each of
them has to have a character. -/
def writeInts (variant : Variant) (humanPart : List Char) (values : List Int) :
    Except Fault (List Char) :=
  match values.mapM letterOf? with
  | none => .error .noSuchPlace
  | some letters =>
    .ok (humanPart ++ '1' :: (letters ++ (checksumInts variant humanPart values).map letter))

/-! ### Agreement on symbols -/

theorem feedback_eq_xor (top : Nat) (rows : List Nat) (register : Nat) :
    feedback top rows register = register ^^^ feedback top rows 0 := by
  induction rows generalizing top register with
  | nil => simp only [feedback, Nat.xor_zero]
  | cons row rest inductionHypothesis =>
    simp only [feedback]
    by_cases bit : top % 2 = 1
    · rw [if_pos bit, if_pos bit, inductionHypothesis (top / 2) (register ^^^ row),
        inductionHypothesis (top / 2) (0 ^^^ row), Nat.zero_xor, Nat.xor_assoc]
    · rw [if_neg bit, if_neg bit, inductionHypothesis (top / 2) register]

/-- Only as many bits of `top` count as there are rows. -/
theorem feedback_mod (top : Nat) (rows : List Nat) (register : Nat) :
    feedback (top % Nat.pow 2 rows.length) rows register = feedback top rows register := by
  induction rows generalizing top register with
  | nil => rfl
  | cons row rest inductionHypothesis =>
    have half : top % Nat.pow 2 (rest.length + 1) / 2 = top / 2 % Nat.pow 2 rest.length := by
      simp only [Nat.pow_eq, Nat.pow_succ', Nat.mod_mul_right_div_self]
    have parity : top % Nat.pow 2 (rest.length + 1) % 2 = top % 2 := by
      simp only [Nat.pow_eq, Nat.pow_succ', Nat.mod_mul_right_mod]
    simp only [feedback, List.length_cons, half, parity, inductionHypothesis]

theorem stepInt_natCast (register value : Nat) :
    stepInt register value = (step register value : Nat) := by
  have low : (register : Int) % 0x2000000 * 32 = ((register % 0x2000000 * 32 : Nat) : Int) := rfl
  have high : ((register : Int) / 0x2000000 % 32).toNat = register / 0x2000000 % 32 := rfl
  have masked := feedback_mod (register / 0x2000000) generators 0
  have width : Nat.pow 2 generators.length = 32 := rfl
  rw [width] at masked
  simp only [stepInt, selected, low, high, masked, step]
  rw [feedback_eq_xor _ generators (_ ^^^ _)]
  rfl

/-- On natural numbers the register is the one of the checksum. -/
theorem polymodInts_natCast (values : List Nat) :
    polymodInts (values.map Int.ofNat) = (polymod values : Nat) := by
  have general : ∀ (start : Nat), (values.map Int.ofNat).foldl stepInt (start : Int) =
      ((values.foldl step start : Nat) : Int) := by
    induction values with
    | nil => intro start; rfl
    | cons value rest inductionHypothesis =>
      intro start
      simp only [List.map_cons, List.foldl_cons]
      rw [show stepInt (start : Int) (Int.ofNat value) = ((step start value : Nat) : Int) from
        stepInt_natCast start value]
      exact inductionHypothesis (step start value)
  exact general 1

theorem expandInts_natCast (humanPart : List Char) (symbols : List Nat) :
    expandInts humanPart (symbols.map Int.ofNat) = (expand humanPart ++ symbols).map Int.ofNat :=
  List.map_append.symm

/-- On symbols the check is the one of the text form. -/
theorem verifyInts_natCast (humanPart : List Char) (symbols : List Nat) :
    verifyInts humanPart (symbols.map Int.ofNat) = verify humanPart symbols := by
  rw [verifyInts, expandInts_natCast, polymodInts_natCast]
  rfl

/-- On symbols the checksum is the one of the text form. -/
theorem checksumInts_natCast (variant : Variant) (humanPart : List Char) (symbols : List Nat) :
    checksumInts variant humanPart (symbols.map Int.ofNat) = checksum variant humanPart symbols := by
  have values : expandInts humanPart (symbols.map Int.ofNat ++ [0, 0, 0, 0, 0, 0]) =
      (expand humanPart ++ symbols ++ [0, 0, 0, 0, 0, 0]).map Int.ofNat := by
    rw [List.append_assoc, List.map_append, List.map_append]
    rfl
  rw [checksumInts, values, polymodInts_natCast]
  rfl

theorem letterOf_natCast {symbol : Nat} (small : symbol < 32) :
    letterOf? symbol = some (letter symbol) := by
  have inside : symbol < alphabet.length := small
  have natural : (0 : Int) ≤ symbol := Int.natCast_nonneg symbol
  rw [letterOf?, if_pos natural, Int.toNat_natCast, letter, List.getElem?_eq_getElem inside,
    List.getD_eq_getElem?_getD, List.getElem?_eq_getElem inside]
  rfl

/-- Symbols have a text, the one of the text form. -/
theorem writeInts_natCast (variant : Variant) (humanPart : List Char) {symbols : List Nat}
    (small : ∀ symbol ∈ symbols, symbol < 32) :
    writeInts variant humanPart (symbols.map Int.ofNat) =
      .ok (write variant humanPart symbols) := by
  have letters : (symbols.map Int.ofNat).mapM letterOf? = some (symbols.map letter) := by
    induction symbols with
    | nil => rfl
    | cons symbol rest inductionHypothesis =>
      have head : letterOf? (Int.ofNat symbol) = some (letter symbol) :=
        letterOf_natCast (small symbol List.mem_cons_self)
      have tail := inductionHypothesis fun other member =>
        small other (List.mem_cons_of_mem symbol member)
      rw [List.map_cons, List.mapM_cons, head, tail]
      rfl
  rw [writeInts, letters, checksumInts_natCast, write, List.map_append]

end Bolt11.Bech32
