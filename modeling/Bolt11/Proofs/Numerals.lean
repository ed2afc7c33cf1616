/-
This file proves that a natural number is read back from its decimal digits.

A literal may have a sign, blanks around it and underscores inside it, and its digits may be of any
script. The digits that are written for a number use none of this: each has its value, and none of
them is a sign, a blank or an underscore. So the whole text is one run, and the accumulator of the
reader holds the value of the digits behind it. Only a limit of the runtime on the number of digits
can still get in the way.
-/

import Bolt11.Proofs.LetterCase
import Bolt11.Text.Numeral
import Mathlib.Data.List.TakeWhile

namespace Bolt11.Text

/-- What a digit of ASCII is to the reader of literals. -/
theorem digit_facts {c : Char} (digit : c.isDigit = true) :
    digitValue? c = some (c.toNat - '0'.toNat) ∧ isNumeralMargin c = false ∧
      c ≠ '_' ∧ c ≠ '-' ∧ c ≠ '+' := by
  have ascii : c.toNat < 0x80 := by
    simp only [Char.isDigit, Bool.and_eq_true, decide_eq_true_eq] at digit
    exact Nat.lt_of_le_of_lt (UInt32.le_iff_toNat_le.mp digit.2) (by decide)
  have own : ∀ c : Char, c.toNat < 0x80 → c.isDigit = true →
      digitValue? c = some (c.toNat - '0'.toNat) ∧ isNumeralMargin c = false ∧
        c ≠ '_' ∧ c ≠ '-' ∧ c ≠ '+' := forall_ascii (by decide)
  exact own c ascii digit

section

variable {digits : List Char} (numeric : ∀ c ∈ digits, c.isDigit = true)

include numeric

theorem readMoreDigits_of_digits (total : Nat) :
    readMoreDigits total digits = some (Nat.ofDigitChars 10 digits total) := by
  induction digits generalizing total with
  | nil => rfl
  | cons c rest inductionHypothesis =>
    obtain ⟨digit, restNumeric⟩ := List.forall_mem_cons.mp numeric
    obtain ⟨value, -, plain, -⟩ := digit_facts digit
    have first : readMoreDigits total (c :: rest) =
        (digitValue? c).bind fun digit => readMoreDigits (10 * total + digit) rest := by
      -- The row for an underscore comes first, and a digit does not take it.
      rw [readMoreDigits]
      rintro d others rfl
      exact absurd rfl plain
    rw [first, value, Option.bind_some, inductionHypothesis restNumeric, Nat.ofDigitChars_cons]

variable (present : digits ≠ [])

include present

/-- A run of digits is read as the number that they stand for. -/
theorem readRun_of_digits : readRun digits = some (Nat.ofDigitChars 10 digits 0) := by
  obtain ⟨c, rest, rfl⟩ := List.exists_cons_of_ne_nil present
  obtain ⟨digit, restNumeric⟩ := List.forall_mem_cons.mp numeric
  obtain ⟨value, -⟩ := digit_facts digit
  rw [readRun, value, Option.bind_some, readMoreDigits_of_digits restNumeric,
    Nat.ofDigitChars_cons, Nat.mul_zero, Nat.zero_add]

variable [Runtime] (short : Runtime.exceeded? digits.length = none)

include short

theorem readDigits_of_digits : readDigits digits = .ok (Nat.ofDigitChars 10 digits 0) := by
  have run : digits.takeWhile isRunPart = digits := by
    refine List.takeWhile_eq_self_iff.mpr fun c member => ?_
    obtain ⟨value, -⟩ := digit_facts (numeric c member)
    rw [isRunPart, value, Option.isSome_some, Bool.or_true]
  have all : (digits.filter fun c => c != '_') = digits := by
    refine List.filter_eq_self.mpr fun c member => ?_
    obtain ⟨-, -, plain, -⟩ := digit_facts (numeric c member)
    exact bne_iff_ne.mpr plain
  simp only [readDigits, run, all, readRun_of_digits numeric present, short, Nat.lt_irrefl,
    if_false]

/-- A text of digits is the literal of the number that they stand for. -/
theorem readInt_of_digits :
    readInt (String.ofList digits) = .ok ((Nat.ofDigitChars 10 digits 0 : Nat) : Int) := by
  have solid : trimBy isNumeralMargin digits = digits :=
    trimBy_of_solid fun c member => (digit_facts (numeric c member)).2.1
  have read := readDigits_of_digits numeric present short
  obtain ⟨c, rest, rfl⟩ := List.exists_cons_of_ne_nil present
  obtain ⟨-, -, -, positive, negative⟩ := digit_facts (numeric c List.mem_cons_self)
  unfold readInt
  rw [String.toList_ofList, solid]
  split
  · rename_i others signed
    cases signed
    exact absurd rfl positive
  · rename_i others signed
    cases signed
    exact absurd rfl negative
  · rw [read]
    rfl

end

/-! ### What is written for a number -/

theorem isDigit_of_mem_toString {number : Nat} :
    ∀ c ∈ (toString number).toList, c.isDigit = true := by
  intro c member
  rw [Nat.toString_eq_ofList_toDigits, String.toList_ofList] at member
  exact Nat.isDigit_of_mem_toDigits (by decide) (by decide) member

/-- A number is read back from what is written for it, unless that has too many digits. -/
theorem readInt_toString [Runtime] {number : Nat}
    (short : Runtime.exceeded? (toString number).length = none) :
    readInt (toString number) = .ok (number : Int) := by
  have numeric : ∀ c ∈ Nat.toDigits 10 number, c.isDigit = true := fun c member =>
    Nat.isDigit_of_mem_toDigits (by decide) (by decide) member
  rw [Nat.toString_eq_ofList_toDigits] at short ⊢
  rw [String.length_ofList] at short
  rw [readInt_of_digits numeric Nat.toDigits_ne_nil short, Nat.ofDigitChars_ten_toDigits]

end Bolt11.Text
