/-
This file proves that the short form of an amount is the one shortest text that is read as it.

Two texts for one amount count it in the same unit or in units a thousand times apart. In the same
unit they write the same number, and a number has no shorter form than its digits without leading
zeros. A larger unit than that of the short form would leave a fraction. A smaller one takes three
digits more at least, and the letter that may be saved is only one.
-/

import Bolt11.Proofs.HumanPart

namespace Bolt11.Amount

/-! ### Digits -/

theorem digit_value_lt {digits : List Char} (numeric : ∀ c ∈ digits, isDigit c = true) :
    ∀ digit ∈ digits.reverse.map (fun c => c.toNat - '0'.toNat), digit < 10 := by
  intro digit member
  obtain ⟨c, among, rfl⟩ := List.mem_map.mp member
  have bounds := isDigit_iff_bounds.mp (numeric c (List.mem_reverse.mp among))
  have zero : '0'.toNat = 48 := rfl
  omega

theorem digitsValue_lt {digits : List Char} (numeric : ∀ c ∈ digits, isDigit c = true) :
    digitsValue digits < 10 ^ digits.length := by
  have bound := Nat.ofDigits_lt_base_pow_length (by decide) (digit_value_lt numeric)
  rwa [List.length_map, List.length_reverse, ← decimalNumber, decimalNumber_eq] at bound

/-- The digits come back from their values. -/
theorem map_digit_values {digits : List Char} (numeric : ∀ c ∈ digits, isDigit c = true) :
    (digits.map fun c => c.toNat - '0'.toNat).map (fun digit => Char.ofNat (digit + '0'.toNat)) =
      digits := by
  rw [List.map_map]
  refine Text.map_eq_self_iff.mpr fun c member => ?_
  have atLeastZero : '0'.toNat ≤ c.toNat := (isDigit_iff_bounds.mp (numeric c member)).1
  rw [Function.comp_apply, Nat.sub_add_cancel atLeastZero, Char.ofNat_toNat]

/-- A number has one form with a given number of digits. -/
theorem digitsValue_injective {left right : List Char} (lengths : left.length = right.length)
    (leftNumeric : ∀ c ∈ left, isDigit c = true) (rightNumeric : ∀ c ∈ right, isDigit c = true)
    (same : digitsValue left = digitsValue right) : left = right := by
  rw [← decimalNumber_eq, ← decimalNumber_eq] at same
  have values := Nat.ofDigits_inj_of_len_eq (by decide : 1 < 10) (by simpa using lengths)
    (digit_value_lt leftNumeric) (digit_value_lt rightNumeric) same
  refine List.reverse_inj.mp ?_
  rw [← map_digit_values fun c member => leftNumeric c (List.mem_reverse.mp member), values,
    map_digit_values fun c member => rightNumeric c (List.mem_reverse.mp member)]

/-- Digits are those of their number, or there are more of them. -/
theorem eq_toDigits_or_longer {digits : List Char} (present : digits ≠ [])
    (numeric : ∀ c ∈ digits, isDigit c = true) :
    digits = Nat.toDigits 10 (digitsValue digits) ∨
      (Nat.toDigits 10 (digitsValue digits)).length < digits.length := by
  have fits : (Nat.toDigits 10 (digitsValue digits)).length ≤ digits.length :=
    (Nat.length_toDigits_le_iff (by decide) (List.length_pos_of_ne_nil present)).mpr
      (digitsValue_lt numeric)
  rcases Nat.lt_or_eq_of_le fits with shorter | same
  · exact .inr shorter
  · exact .inl (digitsValue_injective same.symm numeric (isDigit_toDigits _)
      Nat.ofDigitChars_ten_toDigits.symm)

/-- Digits of a number with zeros behind it are more than its own by at least these zeros. -/
theorem length_toDigits_add_le {digits : List Char} {number zeros : Nat} (positive : 0 < number)
    (numeric : ∀ c ∈ digits, isDigit c = true) (scaled : digitsValue digits = number * 10 ^ zeros) :
    (Nat.toDigits 10 number).length + zeros ≤ digits.length := by
  have small : number * 10 ^ zeros < 10 ^ digits.length := scaled ▸ digitsValue_lt numeric
  have room : zeros < digits.length := by
    refine (Nat.pow_lt_pow_iff_right (by decide : 1 < 10)).mp ?_
    exact Nat.lt_of_le_of_lt (Nat.le_mul_of_pos_left _ positive) small
  obtain ⟨own, count⟩ := Nat.exists_eq_add_of_lt room
  rw [count, Nat.add_assoc, pow_add, Nat.mul_comm,
    Nat.mul_lt_mul_left (Nat.pow_pos (by decide))] at small
  have short := (Nat.length_toDigits_le_iff (by decide : 1 < 10) (Nat.succ_pos own)).mpr small
  omega

/-- The digits of a positive number begin with no zero. -/
theorem head_toDigits {number : Nat} (positive : 0 < number) :
    (Nat.toDigits 10 number).head? ≠ some '0' := by
  intro zero
  obtain ⟨more, digits⟩ := List.head?_eq_some_iff.mp zero
  have numeric : ∀ c ∈ more, isDigit c = true := fun c member =>
    isDigit_toDigits number c (by rw [digits]; exact List.mem_cons_of_mem _ member)
  have written : digitsValue more = number := by
    have whole : digitsValue (Nat.toDigits 10 number) = number := Nat.ofDigitChars_ten_toDigits
    rwa [digits] at whole
  have small : number < 10 ^ more.length := written ▸ digitsValue_lt numeric
  have present : 0 < more.length := by
    rw [List.length_pos_iff]
    rintro rfl
    exact absurd written (Nat.ne_of_lt positive)
  have short := (Nat.length_toDigits_le_iff (by decide) present).mpr small
  rw [digits, List.length_cons] at short
  exact Nat.not_succ_le_self _ short

/-! ### Cuts -/

section

variable {text digits : List Char} {places : Nat} (cut : split? text = some (digits, places))

include cut

theorem three_dvd_places : 3 ∣ places := by
  obtain ⟨-, -, ⟨-, rfl⟩ | ⟨unit, listed, -⟩⟩ := split?_eq_some_iff.mp cut
  · exact Nat.dvd_zero 3
  · have thousands : ∀ entry ∈ units, 3 ∣ entry.2 := by decide
    exact thousands _ listed

theorem length_of_split? : text.length = digits.length + if places = 0 then 0 else 1 := by
  obtain ⟨-, -, ⟨rfl, rfl⟩ | ⟨unit, listed, rfl⟩⟩ := split?_eq_some_iff.mp cut
  · rfl
  · rw [if_neg (places_ne_zero_of_mem_units listed), List.length_append, List.length_singleton]

/-- A text is determined by what it is cut into. -/
theorem eq_of_split? {other : List Char} (otherCut : split? other = some (digits, places)) :
    text = other := by
  obtain ⟨-, -, shape⟩ := split?_eq_some_iff.mp cut
  obtain ⟨-, -, otherShape⟩ := split?_eq_some_iff.mp otherCut
  have one : ∀ entry ∈ units, ∀ other ∈ units, entry.2 = other.2 → entry = other := by decide
  rcases shape with ⟨rfl, rfl⟩ | ⟨unit, listed, rfl⟩
  · rcases otherShape with ⟨rfl, -⟩ | ⟨unit, listed, -⟩
    · rfl
    · exact absurd rfl (places_ne_zero_of_mem_units listed)
  · rcases otherShape with ⟨-, rfl⟩ | ⟨otherUnit, otherListed, rfl⟩
    · exact absurd rfl (places_ne_zero_of_mem_units listed)
    · rw [(Prod.mk.inj (one _ listed _ otherListed rfl)).1]

end

/-! ### Units -/

/-- In a smaller unit the number of an amount has the zeros of the difference. -/
theorem number_in_smaller_unit {msat number places other otherPlaces : Nat}
    (same : number * 10 ^ 11 = msat * 10 ^ places)
    (otherSame : other * 10 ^ 11 = msat * 10 ^ otherPlaces) (smaller : places ≤ otherPlaces) :
    other = number * 10 ^ (otherPlaces - places) := by
  refine Nat.eq_of_mul_eq_mul_right (by decide : 0 < 10 ^ 11) ?_
  calc other * 10 ^ 11 = msat * 10 ^ otherPlaces := otherSame
    _ = msat * 10 ^ places * 10 ^ (otherPlaces - places) := by
      rw [Nat.mul_assoc, ← pow_add, Nat.add_sub_cancel' smaller]
    _ = number * 10 ^ 11 * 10 ^ (otherPlaces - places) := by rw [same]
    _ = number * 10 ^ (otherPlaces - places) * 10 ^ 11 := by ring

/-- A text that is read as an amount is its short form or longer. -/
theorem eq_shortForm_or_longer {msat : Nat} {text : String} (read : unshorten text = .ok msat) :
    text = shortForm msat ∨ (shortForm msat).length < text.length := by
  obtain ⟨digits, otherPlaces, otherCut, otherSame, -⟩ := unshorten_eq_ok_iff.mp read
  obtain ⟨number, places, cut, same, largest⟩ := split?_shortForm msat
  obtain ⟨present, numeric, -⟩ := split?_eq_some_iff.mp otherCut
  have length := length_of_split? cut
  have otherLength := length_of_split? otherCut
  rw [String.length_toList] at length otherLength
  have thousands := three_dvd_places cut
  have otherThousands := three_dvd_places otherCut
  have small := digitsValue_lt numeric
  rcases Nat.lt_trichotomy otherPlaces places with larger | rfl | smaller
  · -- the number of the short form would be divisible by a thousand
    have scaled := number_in_smaller_unit otherSame same (Nat.le_of_lt larger)
    have divides : 1000 ∣ number := by
      rw [scaled]
      exact Nat.dvd_mul_left_of_dvd (pow_dvd_pow 10 (by omega : 3 ≤ places - otherPlaces)) _
    exact absurd divides (largest.resolve_left (by omega))
  · have scaled := number_in_smaller_unit same otherSame (Nat.le_refl _)
    rw [Nat.sub_self, pow_zero, Nat.mul_one] at scaled
    rcases eq_toDigits_or_longer present numeric with own | longer
    · rw [scaled] at own
      rw [own] at otherCut
      exact .inl (String.toList_inj.mp (eq_of_split? otherCut cut))
    · rw [scaled] at longer
      exact .inr (by omega)
  · have scaled := number_in_smaller_unit same otherSame (Nat.le_of_lt smaller)
    rw [if_neg (Nat.ne_of_gt (Nat.zero_lt_of_lt smaller))] at otherLength
    refine .inr ?_
    rcases Nat.eq_zero_or_pos number with rfl | positive
    · obtain rfl : places = 0 := largest.resolve_right (not_not.mpr (Nat.dvd_zero 1000))
      rw [length, otherLength, if_pos rfl]
      exact Nat.succ_lt_succ (List.length_pos_of_ne_nil present)
    · have more := length_toDigits_add_le positive numeric scaled
      split at length <;> omega

/-- The short form of a positive amount begins with no zero. -/
theorem head_shortForm {msat : Nat} (positive : 0 < msat) :
    (shortForm msat).toList.head? ≠ some '0' := by
  obtain ⟨number, places, cut, same, -⟩ := split?_shortForm msat
  obtain ⟨present, -, shape⟩ := split?_eq_some_iff.mp cut
  have numberPositive : 0 < number := by
    have scaled : 0 < number * 10 ^ 11 :=
      same ▸ Nat.mul_pos positive (Nat.pow_pos (by decide))
    exact Nat.pos_of_mul_pos_right scaled
  rcases shape with ⟨text, -⟩ | ⟨unit, -, text⟩
  · rw [text]
    exact head_toDigits numberPositive
  · rw [text, List.head?_append_of_ne_nil _ present]
    exact head_toDigits numberPositive

/-- The short form of an amount within the limit is written on every runtime. It is read as the
amount, and so is a human readable part that is written for a network with the amount or without
one. Every other text that is read as the amount is longer than its short form, which therefore
begins with no zero, but for the amount zero. -/
theorem shorten_shortest [Runtime] {msat : Nat} (bounded : msat ≤ supplyInMsat) :
    ∃ short, shorten msat = .ok short ∧ unshorten short = .ok msat ∧
      (∀ network, ∃ part, HumanPart.write network (some (msat : Int)) = .ok part ∧
        HumanPart.read part = .ok (network, some msat)) ∧
      (∀ network, ∃ part, HumanPart.write network none = .ok part ∧
        HumanPart.read part = .ok (network, none)) ∧
      (∀ text, unshorten text = .ok msat → text = short ∨ short.length < text.length) ∧
      (0 < msat → short.toList.head? ≠ some '0') := by
  have part : ∀ network, ∀ amount : Option Nat, (∀ own ∈ amount, own ≤ supplyInMsat) →
      ∃ part, HumanPart.write network (amount.map Int.ofNat) = .ok part ∧
        HumanPart.read part = .ok (network, amount) :=
    fun network _ small =>
      ⟨_, HumanPart.write_of_le network small, HumanPart.read_form network small⟩
  exact ⟨_, shorten_of_le bounded, unshorten_shortForm bounded,
    fun network => part network (some msat) (by simpa using bounded),
    fun network => part network none (by simp), fun _ => eq_shortForm_or_longer, head_shortForm⟩

/-- Twenty milli-bitcoin have no shorter text than `20m`, and no other one of three characters. -/
theorem shorten_shortest_twenty_milli :
    shorten 2000000000 = .ok "20m" ∧ 2000000000 ≤ supplyInMsat ∧
      ∀ text, unshorten text = .ok 2000000000 → text = "20m" ∨ 3 < text.length := by
  have bounded : 2000000000 ≤ supplyInMsat := by decide
  have form : shortForm 2000000000 = "20m" := by decide
  have written : shorten 2000000000 = .ok "20m" := form ▸ shorten_of_le bounded
  obtain ⟨short, same, -, -, -, shortest, -⟩ := shorten_shortest bounded
  obtain rfl : short = "20m" := Except.ok.inj (same.symm.trans written)
  exact ⟨written, bounded, shortest⟩

end Bolt11.Amount
