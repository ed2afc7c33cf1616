/-
This file proves that amounts are read exactly, although the arithmetic on the way keeps no more
than twenty-eight digits.

A number of a unit that stands for no more than all bitcoin has twenty digits at most, so the number
of bitcoin and that of satoshi are exact. The number of thousandths can have more digits than are
kept, but what is rounded away are zeros that the last multiplication has just appended. A number of
a unit that stands for more than all bitcoin may well be rounded, but never to a number below them.
So the reader decides as it would over the fractions themselves, and every amount within the limit
comes back from its short form. Such an amount is short enough to be written on every runtime.
-/

import Bolt11.Amount
import Bolt11.Proofs.Decimal
import Mathlib.Data.List.Induction
import Mathlib.Data.List.TakeWhile
import Mathlib.Data.Nat.Digits.Defs

namespace Bolt11.Amount

/-- The largest amount of a request, all bitcoin there can be. -/
def supplyInMsat : Nat := 2100000000000000000

/-! ### How a text is cut -/

theorem lookup_units_iff {unit : Char} {places : Nat} :
    units.lookup unit = some places ↔ (unit, places) ∈ units := by
  constructor
  · intro found
    obtain ⟨before, after, whole, -⟩ := List.lookup_eq_some_iff.mp found
    rw [whole]
    exact List.mem_append_right _ List.mem_cons_self
  · intro listed
    have own : ∀ entry ∈ units, units.lookup entry.1 = some entry.2 := by decide
    exact own _ listed

theorem isDigit_iff_bounds {c : Char} : isDigit c = true ↔ 48 ≤ c.toNat ∧ c.toNat ≤ 57 := by
  rw [isDigit, Bool.and_eq_true, decide_eq_true_eq, decide_eq_true_eq]

theorem not_isDigit_of_mem_units {unit : Char} {places : Nat} (listed : (unit, places) ∈ units) :
    isDigit unit = false := by
  have letters : ∀ entry ∈ units, isDigit entry.1 = false := by decide
  exact letters _ listed

theorem places_ne_zero_of_mem_units {unit : Char} {places : Nat} (listed : (unit, places) ∈ units) :
    places ≠ 0 := by
  have some_below : ∀ entry ∈ units, entry.2 ≠ 0 := by decide
  exact some_below _ listed

theorem places_le_of_mem_units {unit : Char} {places : Nat} (listed : (unit, places) ∈ units) :
    places ≤ 12 := by
  have few : ∀ entry ∈ units, entry.2 ≤ 12 := by decide
  exact few _ listed

/-- A text is cut into digits and the letter behind them, if there is one. -/
theorem split?_eq_some_iff {text digits : List Char} {places : Nat} :
    split? text = some (digits, places) ↔
      digits ≠ [] ∧ (∀ c ∈ digits, isDigit c = true) ∧
        ((text = digits ∧ places = 0) ∨
          ∃ unit, (unit, places) ∈ units ∧ text = digits ++ [unit]) := by
  constructor
  · intro cut
    have whole := List.takeWhile_append_dropWhile (p := isDigit) (l := text)
    have numeric : ∀ c ∈ text.takeWhile isDigit, isDigit c = true :=
      fun c member => List.mem_takeWhile_imp member
    have present : text.takeWhile isDigit ≠ [] := by
      intro missing
      simp [split?, missing] at cut
    rw [split?, List.isEmpty_eq_false_iff.mpr present] at cut
    cases rest : text.dropWhile isDigit with
    | nil =>
      rw [rest] at cut whole
      obtain ⟨rfl, rfl⟩ := Prod.mk.inj (Option.some.inj cut)
      exact ⟨present, numeric, .inl ⟨whole.symm.trans (List.append_nil _), rfl⟩⟩
    | cons unit more =>
      rw [rest] at cut whole
      cases more with
      | nil =>
        obtain ⟨found, listed, same⟩ := Option.map_eq_some_iff.mp cut
        obtain ⟨rfl, rfl⟩ := Prod.mk.inj same
        exact ⟨present, numeric, .inr ⟨unit, lookup_units_iff.mp listed, whole.symm⟩⟩
      | cons _ _ => cases cut
  · rintro ⟨present, numeric, ⟨rfl, rfl⟩ | ⟨unit, listed, rfl⟩⟩
    · rw [split?, List.takeWhile_eq_self_iff.mpr numeric, List.dropWhile_eq_nil_iff.mpr numeric,
        List.isEmpty_eq_false_iff.mpr present]
      rfl
    · have stops : ¬ isDigit unit = true := by simp [not_isDigit_of_mem_units listed]
      rw [split?, List.takeWhile_append_of_pos numeric, List.dropWhile_append_of_pos numeric,
        List.takeWhile_cons_of_neg stops, List.dropWhile_cons_of_neg stops, List.append_nil,
        List.isEmpty_eq_false_iff.mpr present]
      simp only [Bool.false_eq_true, if_false, lookup_units_iff.mpr listed, Option.map_some]

theorem places_le {text digits : List Char} {places : Nat}
    (cut : split? text = some (digits, places)) : places ≤ 12 := by
  obtain ⟨-, -, ⟨-, rfl⟩ | ⟨unit, listed, -⟩⟩ := split?_eq_some_iff.mp cut
  · exact Nat.zero_le 12
  · exact places_le_of_mem_units listed

theorem exists_digit {text digits : List Char} {places : Nat}
    (cut : split? text = some (digits, places)) :
    ∃ c rest, text = c :: rest ∧ isDigit c = true := by
  obtain ⟨present, numeric, shape⟩ := split?_eq_some_iff.mp cut
  obtain ⟨c, more, rfl⟩ := List.exists_cons_of_ne_nil present
  have digit : isDigit c = true := numeric c List.mem_cons_self
  rcases shape with ⟨rfl, -⟩ | ⟨unit, -, rfl⟩
  · exact ⟨c, more, rfl, digit⟩
  · exact ⟨c, more ++ [unit], rfl, digit⟩

/-! ### The short form -/

/-- The short form is a number and the unit it counts, and the number in that unit is the
amount. The units that are left stand for the power of a thousand that still divides, and if there
are any, it divides no more. -/
theorem inLargestUnit_eq (amount : Nat) (letters : List Char) :
    ∃ (number : Nat) (left : List Char), left <:+ letters ∧
      inLargestUnit amount letters = ((number : Int), left.take 1) ∧
      amount = number * 1000 ^ (letters.length - left.length) ∧
      (left = [] ∨ ¬ 1000 ∣ number) := by
  induction letters generalizing amount with
  | nil => exact ⟨amount, [], List.suffix_refl [], rfl, (Nat.mul_one amount).symm, .inl rfl⟩
  | cons unit larger inductionHypothesis =>
    by_cases divides : amount % 1000 = 0
    · obtain ⟨number, left, suffix, parts, same, largest⟩ := inductionHypothesis (amount / 1000)
      refine ⟨number, left, suffix.trans (List.suffix_cons unit larger), ?_, ?_, largest⟩
      · rw [inLargestUnit, if_pos (by omega)]
        exact parts
      · have shorter := suffix.length_le
        rw [List.length_cons, Nat.succ_sub shorter, pow_succ, ← Nat.mul_assoc, ← same]
        omega
    · refine ⟨amount, unit :: larger, List.suffix_refl _, ?_, ?_, .inr (by omega)⟩
      · rw [inLargestUnit, if_neg (by omega)]
        rfl
      · rw [Nat.sub_self, pow_zero, Nat.mul_one]

/-- The short form of an amount, whether or not the runtime writes its number. -/
def shortForm (msat : Int) : String :=
  toString (shortParts msat).1 ++ String.ofList (shortParts msat).2

theorem isDigit_iff {c : Char} : isDigit c = true ↔ c.isDigit = true := by
  simp [isDigit, Char.isDigit, UInt32.le_iff_toNat_le]

theorem isDigit_toDigits (number : Nat) : ∀ c ∈ Nat.toDigits 10 number, isDigit c = true :=
  fun _ member => isDigit_iff.mpr (Nat.isDigit_of_mem_toDigits (by decide) (by decide) member)

/-- A short form is cut again into its digits and the power of ten of its unit. -/
theorem split?_short (number : Nat) {left : List Char} (suffix : left <:+ units.map Prod.fst) :
    split? (Nat.toDigits 10 number ++ left.take 1) =
      some (Nat.toDigits 10 number, 3 * left.length) := by
  refine split?_eq_some_iff.mpr ⟨Nat.toDigits_ne_nil, isDigit_toDigits number, ?_⟩
  simp only [units, List.map_cons, List.map_nil, List.suffix_cons_iff, List.suffix_nil] at suffix
  rcases suffix with rfl | rfl | rfl | rfl | rfl
  · exact .inr ⟨'p', by decide, rfl⟩
  · exact .inr ⟨'n', by decide, rfl⟩
  · exact .inr ⟨'u', by decide, rfl⟩
  · exact .inr ⟨'m', by decide, rfl⟩
  · exact .inl ⟨List.append_nil _, rfl⟩

/-- The short form of an amount is cut into the digits of a number and the power of ten of a unit,
and the number of that unit is the amount. No larger unit would do. -/
theorem split?_shortForm (msat : Nat) :
    ∃ number places,
      split? (shortForm msat).toList = some (Nat.toDigits 10 number, places) ∧
      number * 10 ^ 11 = msat * 10 ^ places ∧ (places = 0 ∨ ¬ 1000 ∣ number) := by
  obtain ⟨number, left, suffix, parts, same, largest⟩ :=
    inLargestUnit_eq (msat * 10) (units.map Prod.fst)
  have short : left.length ≤ 4 := suffix.length_le
  have inUnit : msat * 10 = number * 1000 ^ (4 - left.length) := same
  have text : shortForm msat = String.ofList (Nat.toDigits 10 number ++ left.take 1) := by
    rw [shortForm, show shortParts msat = ((number : Int), left.take 1) from parts,
      String.ofList_append]
    exact congrArg (· ++ _) Nat.repr_eq_ofList_toDigits
  have powers : 1000 ^ (4 - left.length) * 10 ^ (3 * left.length) = 10 ^ 12 := by
    rw [pow_mul, show (10 : Nat) ^ 3 = 1000 from rfl, ← pow_add, Nat.sub_add_cancel short]
    rfl
  have scaled : number * 10 ^ 11 * 10 = msat * 10 ^ (3 * left.length) * 10 := by
    calc number * 10 ^ 11 * 10 = number * (1000 ^ (4 - left.length) * 10 ^ (3 * left.length)) := by
          rw [powers]
          ring
      _ = number * 1000 ^ (4 - left.length) * 10 ^ (3 * left.length) := by ring
      _ = msat * 10 * 10 ^ (3 * left.length) := by rw [inUnit]
      _ = msat * 10 ^ (3 * left.length) * 10 := by ring
  refine ⟨number, 3 * left.length, ?_, Nat.eq_of_mul_eq_mul_right (by decide) scaled, ?_⟩
  · rw [text, String.toList_ofList]
    exact split?_short number suffix
  · exact largest.imp_left fun none_left => by rw [none_left]; rfl

/-- The number of a short form is at most that of the smallest unit. -/
theorem natAbs_shortParts_le (msat : Nat) : (shortParts msat).1.natAbs ≤ msat * 10 := by
  obtain ⟨number, left, -, parts, same, -⟩ := inLargestUnit_eq (msat * 10) (units.map Prod.fst)
  rw [show shortParts msat = ((number : Int), left.take 1) from parts, Int.natAbs_natCast, same]
  exact Nat.le_mul_of_pos_right number (Nat.pow_pos (by decide))

/-! ### Writing -/

section

variable [Runtime]

theorem shorten_eq_ok {msat : Int} (writable : Runtime.writes (shortParts msat).1 = true) :
    shorten msat = .ok (shortForm msat) := by
  rw [shorten, written_of_writes writable]
  rfl

/-- An amount has no short form if the runtime does not write its number. -/
theorem shorten_eq_error {msat : Int} (unwritable : Runtime.writes (shortParts msat).1 = false) :
    ∃ limit ∈ Runtime.digitLimit, shorten msat = .error (.writtenLength limit) := by
  obtain ⟨limit, known, refused⟩ := written_of_not_writes unwritable
  exact ⟨limit, known, by rw [shorten, refused]⟩

/-- An amount has its short form, or the runtime does not write the number of it. -/
theorem shorten_cases (msat : Int) :
    shorten msat = .ok (shortForm msat) ∨
      ∃ limit ∈ Runtime.digitLimit, shorten msat = .error (.writtenLength limit) := by
  cases writable : Runtime.writes (shortParts msat).1 with
  | true => exact .inl (shorten_eq_ok writable)
  | false => exact .inr (shorten_eq_error writable)

/-- An amount that is not above the limit of a request is written on every runtime. -/
theorem shorten_of_le {msat : Nat} (bounded : msat ≤ supplyInMsat) :
    shorten msat = .ok (shortForm msat) := by
  refine shorten_eq_ok (Runtime.writes_of_few (by decide : 20 ≤ 640) ?_)
  calc (shortParts msat).1.natAbs ≤ msat * 10 := natAbs_shortParts_le msat
    _ ≤ supplyInMsat * 10 := Nat.mul_le_mul_right 10 bounded
    _ < Nat.pow 10 20 := by decide

end

/-! ### Reading -/

section

variable {number places : Nat} (few : places ≤ 12)

include few

/-- A number of a unit that stands for more than all bitcoin does not pass the check, rounded or
not. -/
theorem atMost_of_lt_supply (above : supplyInBitcoin * 10 ^ places < number) :
    (if places = 0 then Decimal.ofNat number
      else (Decimal.ofNat number).overPowerOfTen places).atMost supplyInBitcoin = false := by
  have fits : supplyInBitcoin * 10 ^ places + 1 ≤ 10 ^ Decimal.precision := by
    calc supplyInBitcoin * 10 ^ places + 1 ≤ supplyInBitcoin * 10 ^ 12 + 1 :=
          Nat.succ_le_succ (Nat.mul_le_mul_left _ (Nat.pow_le_pow_right (by decide) few))
      _ ≤ 10 ^ Decimal.precision := by decide
  have least : Decimal.value ⟨supplyInBitcoin * 10 ^ places + 1, -(places : Int)⟩ ≤
      Decimal.value (if places = 0 then Decimal.ofNat number
        else (Decimal.ofNat number).overPowerOfTen places) := by
    split
    · rename_i none_below
      subst none_below
      exact Decimal.value_le_value above 0
    · rw [Decimal.overPowerOfTen, Decimal.ofNat, Int.zero_sub]
      exact Decimal.value_le_rounded above fits _
  have beyond : (supplyInBitcoin : ℚ) <
      Decimal.value ⟨supplyInBitcoin * 10 ^ places + 1, -(places : Int)⟩ := by
    rw [Decimal.value_of_places, lt_div_iff₀ (pow_pos (by norm_num) places)]
    exact_mod_cast Nat.lt_succ_self _
  rw [Bool.eq_false_iff, Ne, Decimal.atMost_iff]
  exact not_le.mpr (beyond.trans_le least)

variable (within : number ≤ supplyInBitcoin * 10 ^ places)

include within

/-- Even in satoshi the digits of a number of a unit fit the precision. -/
theorem satoshi_small : number * satoshiPerBitcoin < 10 ^ Decimal.precision := by
  calc number * satoshiPerBitcoin ≤ supplyInBitcoin * 10 ^ 12 * satoshiPerBitcoin :=
        Nat.mul_le_mul_right _
          (within.trans (Nat.mul_le_mul_left _ (Nat.pow_le_pow_right (by decide) few)))
    _ < 10 ^ Decimal.precision := by decide

/-- A number of a unit that stands for no more than all bitcoin is exact in bitcoin, and passes the
check. -/
theorem bitcoin_exact :
    (if places = 0 then Decimal.ofNat number
        else (Decimal.ofNat number).overPowerOfTen places) = ⟨number, -(places : Int)⟩ ∧
      Decimal.atMost ⟨number, -(places : Int)⟩ supplyInBitcoin = true := by
  have small : number < 10 ^ Decimal.precision :=
    Nat.lt_of_le_of_lt (Nat.le_mul_of_pos_right number (by decide)) (satoshi_small few within)
  constructor
  · split
    · rename_i none_below
      rw [none_below]
      rfl
    · rw [Decimal.overPowerOfTen, Decimal.ofNat, Int.zero_sub]
      exact Decimal.rounded_of_small small _
  · rw [Decimal.atMost_iff, Decimal.value_of_places, div_le_iff₀ (pow_pos (by norm_num) places)]
    exact_mod_cast within

/-- The last step, from satoshi to thousandths, loses nothing: what it rounds away are zeros. -/
theorem value_thousandths :
    (Decimal.times ⟨number * satoshiPerBitcoin, -(places : Int)⟩ 1000).value =
      (number * 10 ^ 11 : Nat) / (10 : ℚ) ^ places := by
  have exact : (Decimal.times ⟨number * satoshiPerBitcoin, -(places : Int)⟩ 1000).value =
      Decimal.value ⟨number * satoshiPerBitcoin * 10 ^ 3, -(places : Int)⟩ :=
    Decimal.value_rounded 3 (by
      rw [pow_add]
      exact Nat.mul_lt_mul_of_pos_right (satoshi_small few within) (by decide))
  have factor : satoshiPerBitcoin * 10 ^ 3 = 10 ^ 11 := rfl
  rw [exact, Decimal.value_of_places, Nat.mul_assoc, factor]

end

section

variable {text : String} {digits : List Char} {number places : Nat}
  (cut : split? text.toList = some (digits, places)) (written : digitsValue digits = number)

include cut written

theorem unshorten_of_above (above : supplyInBitcoin * 10 ^ places < number) :
    unshorten text = .error (.amountRange text) := by
  have refused := atMost_of_lt_supply (places_le cut) above
  simp only [unshorten, cut, written, refused]
  rfl

/-- A number of a unit within the limit is read as the amount it stands for, if it is whole. All
numbers on the way are exact. -/
theorem unshorten_of_within (within : number ≤ supplyInBitcoin * 10 ^ places) :
    (∀ msat, unshorten text = .ok msat ↔ number * 10 ^ 11 = msat * 10 ^ places) ∧
      (unshorten text = .error (.amountFraction text) ↔
        ∀ msat, number * 10 ^ 11 ≠ msat * 10 ^ places) := by
  have few := places_le cut
  obtain ⟨bitcoin, passes⟩ := bitcoin_exact few within
  have satoshi : Decimal.times ⟨number, -(places : Int)⟩ satoshiPerBitcoin =
      ⟨number * satoshiPerBitcoin, -(places : Int)⟩ :=
    Decimal.rounded_of_small (satoshi_small few within) _
  have exact := value_thousandths few within
  have opened : unshorten text =
      let msat := Decimal.times ⟨number * satoshiPerBitcoin, -(places : Int)⟩ 1000
      if msat.isWhole then .ok msat.floor else .error (.amountFraction text) := by
    simp only [unshorten, cut, written, bitcoin, passes, satoshi, Bool.not_true, Bool.false_eq_true,
      if_false]
  generalize Decimal.times ⟨number * satoshiPerBitcoin, -(places : Int)⟩ 1000 = thousandths
    at exact opened
  have stands : ∀ msat : Nat, number * 10 ^ 11 = msat * 10 ^ places ↔
      thousandths.value = msat := by
    intro msat
    rw [exact, div_eq_iff (pow_ne_zero places (by norm_num))]
    exact_mod_cast Iff.rfl
  simp only [opened, ne_eq, stands, ← Decimal.whole_iff]
  split
  · rename_i whole
    simp [whole]
  · rename_i fraction
    simp [fraction]

end

/-- The limit in a unit and the limit in thousandths are the same. -/
theorem le_supply_iff {number places msat : Nat} (same : number * 10 ^ 11 = msat * 10 ^ places) :
    number ≤ supplyInBitcoin * 10 ^ places ↔ msat ≤ supplyInMsat := by
  have limit : supplyInBitcoin * 10 ^ places * 10 ^ 11 = supplyInMsat * 10 ^ places := by
    rw [supplyInMsat, supplyInBitcoin]
    ring
  rw [← Nat.mul_le_mul_right_iff (by decide : 0 < 10 ^ 11), limit, same,
    Nat.mul_le_mul_right_iff (Nat.pow_pos (by decide))]

/-- What is read: the amount that the digits stand for in the unit, if it is within the limit. -/
theorem unshorten_eq_ok_iff {text : String} {msat : Nat} :
    unshorten text = .ok msat ↔
      ∃ digits places, split? text.toList = some (digits, places) ∧
        digitsValue digits * 10 ^ 11 = msat * 10 ^ places ∧ msat ≤ supplyInMsat := by
  constructor
  · intro read
    cases cut : split? text.toList with
    | none => simp [unshorten, cut] at read
    | some parts =>
      obtain ⟨digits, places⟩ := parts
      rcases Nat.lt_or_ge (supplyInBitcoin * 10 ^ places) (digitsValue digits) with above | within
      · rw [unshorten_of_above cut rfl above] at read
        cases read
      · have same := ((unshorten_of_within cut rfl within).1 msat).mp read
        exact ⟨digits, places, rfl, same, (le_supply_iff same).mp within⟩
  · rintro ⟨digits, places, cut, same, bounded⟩
    exact ((unshorten_of_within cut rfl ((le_supply_iff same).mpr bounded)).1 msat).mpr same

/-- No amount that is read is above the limit. -/
theorem unshorten_le {text : String} {msat : Nat} (read : unshorten text = .ok msat) :
    msat ≤ supplyInMsat := by
  obtain ⟨digits, places, -, -, bounded⟩ := unshorten_eq_ok_iff.mp read
  exact bounded

/-- An amount comes back from its short form. -/
theorem unshorten_shortForm {msat : Nat} (bounded : msat ≤ supplyInMsat) :
    unshorten (shortForm msat) = .ok msat := by
  obtain ⟨number, places, cut, same, -⟩ := split?_shortForm msat
  have written : digitsValue (Nat.toDigits 10 number) = number := Nat.ofDigitChars_ten_toDigits
  exact unshorten_eq_ok_iff.mpr ⟨_, places, cut, by rwa [written], bounded⟩

/-- An amount above the limit has a short form that is not read. -/
theorem unshorten_shortForm_of_lt {msat : Nat} (above : supplyInMsat < msat) :
    unshorten (shortForm msat) = .error (.amountRange (shortForm msat)) := by
  obtain ⟨number, places, cut, same, -⟩ := split?_shortForm msat
  refine unshorten_of_above cut Nat.ofDigitChars_ten_toDigits (Nat.not_le.mp fun within => ?_)
  exact absurd ((le_supply_iff same).mp within) (Nat.not_le.mpr above)

/-! ### The fraction of a text -/

/-- The number that is written with decimal digits. -/
def decimalNumber (digits : List Char) : Nat :=
  Nat.ofDigits 10 (digits.reverse.map fun c => c.toNat - '0'.toNat)

/-- The letters of the multipliers and what each multiplies by. -/
def multipliers : List (Char × ℚ) :=
  [('m', 1 / 10 ^ 3), ('u', 1 / 10 ^ 6), ('n', 1 / 10 ^ 9), ('p', 1 / 10 ^ 12)]

/-- A text stands for a number of bitcoin, exactly: it is made of ASCII digits, one at least, and at
most one letter behind them. -/
inductive StandsFor : List Char → ℚ → Prop where
  | whole {digits : List Char} (present : digits ≠ []) (numeric : ∀ c ∈ digits, c.isDigit = true) :
    StandsFor digits (decimalNumber digits)
  | multiplied {digits : List Char} {letter : Char} {share : ℚ} (present : digits ≠ [])
    (numeric : ∀ c ∈ digits, c.isDigit = true) (listed : (letter, share) ∈ multipliers) :
    StandsFor (digits ++ [letter]) (decimalNumber digits * share)

theorem decimalNumber_eq (digits : List Char) : decimalNumber digits = digitsValue digits := by
  induction digits using List.reverseRecOn with
  | nil => rfl
  | append_singleton digits c inductionHypothesis =>
    rw [decimalNumber] at inductionHypothesis ⊢
    rw [List.reverse_append, List.reverse_singleton, List.singleton_append, List.map_cons,
      Nat.ofDigits_cons, inductionHypothesis, digitsValue, digitsValue, List.foldl_append]
    exact Nat.add_comm _ _

/-- The letters of the units and those of the multipliers are the same. -/
theorem mem_multipliers_iff {letter : Char} {share : ℚ} :
    (letter, share) ∈ multipliers ↔
      ∃ places, (letter, places) ∈ units ∧ share = 1 / (10 : ℚ) ^ places := by
  simp only [multipliers, units, List.mem_cons, List.not_mem_nil, or_false, Prod.mk.injEq]
  constructor
  · rintro (⟨rfl, rfl⟩ | ⟨rfl, rfl⟩ | ⟨rfl, rfl⟩ | ⟨rfl, rfl⟩)
    · exact ⟨3, by simp, rfl⟩
    · exact ⟨6, by simp, rfl⟩
    · exact ⟨9, by simp, rfl⟩
    · exact ⟨12, by simp, rfl⟩
  · rintro ⟨places, ⟨rfl, rfl⟩ | ⟨rfl, rfl⟩ | ⟨rfl, rfl⟩ | ⟨rfl, rfl⟩, rfl⟩ <;> simp

/-- The fraction of a text is that of the number of the unit it is cut into. -/
theorem standsFor_iff {text : List Char} {bitcoin : ℚ} :
    StandsFor text bitcoin ↔
      ∃ digits places, split? text = some (digits, places) ∧
        bitcoin = digitsValue digits / (10 : ℚ) ^ places := by
  constructor
  · rintro (⟨present, numeric⟩ | ⟨present, numeric, listed⟩)
    · refine ⟨text, 0, split?_eq_some_iff.mpr ⟨present, ?_, .inl ⟨rfl, rfl⟩⟩, ?_⟩
      · exact fun c member => isDigit_iff.mpr (numeric c member)
      · rw [decimalNumber_eq, pow_zero, div_one]
    · rename_i digits letter share
      obtain ⟨places, unit, rfl⟩ := mem_multipliers_iff.mp listed
      refine ⟨digits, places, split?_eq_some_iff.mpr ⟨present, ?_, .inr ⟨letter, unit, rfl⟩⟩, ?_⟩
      · exact fun c member => isDigit_iff.mpr (numeric c member)
      · rw [decimalNumber_eq, mul_one_div]
  · rintro ⟨digits, places, cut, rfl⟩
    obtain ⟨present, numeric, shape⟩ := split?_eq_some_iff.mp cut
    have ascii : ∀ c ∈ digits, c.isDigit = true :=
      fun c member => isDigit_iff.mp (numeric c member)
    rw [← decimalNumber_eq]
    rcases shape with ⟨rfl, rfl⟩ | ⟨unit, listed, rfl⟩
    · rw [pow_zero, div_one]
      exact .whole present ascii
    · rw [← mul_one_div]
      exact .multiplied present ascii (mem_multipliers_iff.mpr ⟨places, listed, rfl⟩)

/-- The number of bitcoin of a text decides how it is read, as if nothing were ever rounded. A text
that stands for none is refused as no amount, one for more than all bitcoin as out of range, and one
that leaves a fraction of a thousandth of a satoshi for that; every other text is read, as the amount
it stands for. -/
theorem unshorten_exact (text : String) :
    (∀ msat, unshorten text = .ok msat ↔
        ∃ bitcoin, StandsFor text.toList bitcoin ∧ bitcoin ≤ 21000000 ∧
          (msat : ℚ) = bitcoin * 10 ^ 11) ∧
      (unshorten text = .error (.amountText text) ↔
        ∀ bitcoin, ¬ StandsFor text.toList bitcoin) ∧
      (unshorten text = .error (.amountRange text) ↔
        ∃ bitcoin, StandsFor text.toList bitcoin ∧ 21000000 < bitcoin) ∧
      (unshorten text = .error (.amountFraction text) ↔
        ∃ bitcoin, StandsFor text.toList bitcoin ∧ bitcoin ≤ 21000000 ∧
          ∀ msat : Nat, (msat : ℚ) ≠ bitcoin * 10 ^ 11) := by
  cases cut : split? text.toList with
  | none =>
    have nothing : ∀ bitcoin, ¬ StandsFor text.toList bitcoin := by simp [standsFor_iff, cut]
    simp [unshorten, cut, nothing]
  | some parts =>
    obtain ⟨digits, places⟩ := parts
    generalize written : digitsValue digits = number
    have power : (0 : ℚ) < 10 ^ places := pow_pos (by norm_num) places
    have stands : ∀ bitcoin : ℚ,
        StandsFor text.toList bitcoin ↔ bitcoin = (number : ℚ) / 10 ^ places := by
      simp [standsFor_iff, cut, written]
    have limit : (number : ℚ) / 10 ^ places ≤ 21000000 ↔
        number ≤ supplyInBitcoin * 10 ^ places := by
      rw [div_le_iff₀ power, supplyInBitcoin]
      exact_mod_cast Iff.rfl
    have amount : ∀ msat : Nat, (msat : ℚ) = (number : ℚ) / 10 ^ places * 10 ^ 11 ↔
        number * 10 ^ 11 = msat * 10 ^ places := by
      intro msat
      rw [div_mul_eq_mul_div, eq_div_iff power.ne', eq_comm]
      exact_mod_cast Iff.rfl
    simp only [stands, exists_eq_left, limit, amount, ne_eq, ← not_le]
    rcases Nat.lt_or_ge (supplyInBitcoin * 10 ^ places) number with above | within
    · simp [unshorten_of_above cut written above, Nat.not_le.mpr above]
    · obtain ⟨read, fraction⟩ := unshorten_of_within cut written within
      have others : unshorten text ≠ .error (.amountText text) ∧
          unshorten text ≠ .error (.amountRange text) := by
        by_cases whole : ∃ msat, number * 10 ^ 11 = msat * 10 ^ places
        · obtain ⟨msat, same⟩ := whole
          simp [(read msat).mpr same]
        · simp [fraction.mpr (not_exists.mp whole)]
      simp only [read, fraction, others, within, true_and, not_true, forall_eq, iff_self, ne_eq,
        implies_true, and_self]

end Bolt11.Amount
