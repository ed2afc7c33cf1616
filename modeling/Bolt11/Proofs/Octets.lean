/-
This file proves that numbers of a fixed width and their octets determine each other, and that byte
strings come back from hexadecimal.

Reading hexadecimal is more lenient than writing it: it skips white space and takes digits of both
cases. Which octets a text spells out is a relation of its own, `SpellsOut`, with one rule for white
space and one for an octet; the reader succeeds exactly where it holds. Whatever is said of texts
that are read is an induction on it: how many octets they have, and that a text without capitals
and white space is what is written for its octets.
-/

import Bolt11.Proofs.LetterCase
import Bolt11.Text.Hex
import Mathlib.Data.List.Induction
import Mathlib.Tactic.Ring

namespace Bolt11

/-! ### Numbers of a fixed width -/

namespace Bytes

theorem length_ofNat (width value : Nat) : (ofNat width value).length = width := by
  induction width generalizing value with
  | zero => rfl
  | succ width inductionHypothesis =>
    rw [ofNat, List.length_append, inductionHypothesis, List.length_singleton]

theorem toNat_append_singleton (octets : Bytes) (octet : UInt8) :
    toNat (octets ++ [octet]) = 256 * toNat octets + octet.toNat := by
  simp only [toNat, List.foldl_append, List.foldl_cons, List.foldl_nil]

theorem toNat_ofNat (width value : Nat) : toNat (ofNat width value) = value % 256 ^ width := by
  induction width generalizing value with
  | zero => rw [pow_zero, Nat.mod_one]; rfl
  | succ width inductionHypothesis =>
    have last : (UInt8.ofNat value).toNat = value % 256 := rfl
    rw [ofNat, toNat_append_singleton, inductionHypothesis, last, pow_succ', Nat.mod_mul,
      Nat.add_comm]

/-- The number of a byte string is below the power of its length. -/
theorem toNat_lt (octets : Bytes) : toNat octets < 256 ^ octets.length := by
  induction octets using List.reverseRecOn with
  | nil => exact Nat.one_pos
  | append_singleton octets octet inductionHypothesis =>
    have small : octet.toNat < 256 := octet.toNat_lt
    rw [toNat_append_singleton, List.length_append, List.length_singleton, pow_succ']
    omega

/-- A byte string is the form of its number in its own width. -/
theorem ofNat_toNat (octets : Bytes) : ofNat octets.length (toNat octets) = octets := by
  induction octets using List.reverseRecOn with
  | nil => rfl
  | append_singleton octets octet inductionHypothesis =>
    have small : octet.toNat < 256 := octet.toNat_lt
    have quotient : (256 * toNat octets + octet.toNat) / 256 = toNat octets := by omega
    have last : UInt8.ofNat (256 * toNat octets + octet.toNat) = octet := by
      refine UInt8.toNat_inj.mp ?_
      show (256 * toNat octets + octet.toNat) % 256 = octet.toNat
      omega
    rw [toNat_append_singleton, List.length_append, List.length_singleton, ofNat, quotient, last,
      inductionHypothesis]

/-- A natural number that is in the range of a width is written in that width. -/
theorem ofInt_natCast {width value : Nat} (small : value < 256 ^ width) :
    ofInt width (value : Nat) = .ok (ofNat width value) := by
  have fits : ((value : Nat) : Int) < (Nat.pow 256 width : Nat) := Int.ofNat_lt.mpr small
  rw [ofInt, if_neg (by omega), if_pos fits, Int.toNat_natCast]

/-- An integer is written as the byte string of the width that stands for it. -/
theorem ofInt_eq_ok_iff {width : Nat} {value : Int} {octets : Bytes} :
    ofInt width value = .ok octets ↔
      octets.length = width ∧ ((toNat octets : Nat) : Int) = value := by
  constructor
  · intro written
    unfold ofInt at written
    split at written
    · cases written
    rename_i natural
    split at written
    · rename_i fits
      obtain rfl := Except.ok.inj written
      have small : value.toNat < 256 ^ width := by
        simp only [Nat.pow_eq] at fits
        omega
      refine ⟨length_ofNat width value.toNat, ?_⟩
      rw [toNat_ofNat, Nat.mod_eq_of_lt small]
      exact Int.toNat_of_nonneg (Int.not_lt.mp natural)
    · cases written
  · rintro ⟨rfl, rfl⟩
    rw [ofInt_natCast (toNat_lt octets), ofNat_toNat]

/-- An integer has a form of a width exactly if it is in the range of that width. -/
theorem exists_ofInt_iff {width : Nat} {value : Int} :
    (∃ octets, ofInt width value = .ok octets) ↔ 0 ≤ value ∧ value < 256 ^ width := by
  constructor
  · rintro ⟨octets, written⟩
    obtain ⟨rfl, rfl⟩ := ofInt_eq_ok_iff.mp written
    exact ⟨Int.natCast_nonneg _, by exact_mod_cast toNat_lt octets⟩
  · rintro ⟨natural, fits⟩
    obtain ⟨value, rfl⟩ := Int.eq_ofNat_of_zero_le natural
    exact ⟨_, ofInt_natCast (by exact_mod_cast fits)⟩

/-! ### Byte strings one after the other -/

/-- The octets of a byte string count for more by the width of what follows them. -/
theorem toNat_append (octets others : Bytes) :
    toNat (octets ++ others) = toNat octets * 256 ^ others.length + toNat others := by
  induction others using List.reverseRecOn with
  | nil => rw [List.append_nil, List.length_nil, pow_zero, Nat.mul_one]; rfl
  | append_singleton others octet inductionHypothesis =>
    rw [← List.append_assoc, toNat_append_singleton, inductionHypothesis, toNat_append_singleton,
      List.length_append, List.length_singleton, pow_succ]
    ring

/-- The part of a byte string that stands between two others. -/
theorem part_between {octets : Bytes} (before part after : Bytes) {start width : Nat}
    (whole : octets = before ++ (part ++ after)) (place : before.length = start)
    (size : part.length = width) : (octets.drop start).take width = part := by
  rw [whole, List.drop_left' place, List.take_left' size]

end Bytes

namespace Text

/-! ### How a text stands for octets -/

theorem ascii_of_hexValue? {c : Char} {value : Nat} (digit : hexValue? c = some value) :
    c.toNat < 0x80 := by
  unfold hexValue? at digit
  simp only [Bool.and_eq_true, decide_eq_true_eq] at digit
  split at digit
  · omega
  split at digit
  · omega
  split at digit
  · omega
  · cases digit

theorem solid_of_hexValue? {c : Char} {value : Nat} (digit : hexValue? c = some value) :
    isHexGap c = false := by
  have own : ∀ c : Char, c.toNat < 0x80 → (hexValue? c).isSome → isHexGap c = false :=
    forall_ascii (by decide)
  exact own c (ascii_of_hexValue? digit) (Option.isSome_of_eq_some digit)

theorem ascii_of_isHexGap {c : Char} (gap : isHexGap c = true) : c.toNat < 0x80 := by
  simp only [isHexGap, Bool.or_eq_true, beq_iff_eq, Bool.and_eq_true, decide_eq_true_eq] at gap
  rcases gap with rfl | ⟨-, small⟩
  · decide
  · omega

/-- The octets that a text in hexadecimal spells out: white space stands for none of them, and two
digits that follow one another stand for one. -/
inductive SpellsOut : List Char → Bytes → Prop
  | done : SpellsOut [] []
  | gap {c : Char} {rest : List Char} {octets : Bytes} (between : isHexGap c = true)
      (later : SpellsOut rest octets) : SpellsOut (c :: rest) octets
  | octet {c d : Char} {rest : List Char} {octets : Bytes} {high low : Nat}
      (first : hexValue? c = some high) (second : hexValue? d = some low)
      (later : SpellsOut rest octets) :
      SpellsOut (c :: d :: rest) (UInt8.ofNat (16 * high + low) :: octets)

/-- What is read from a text is what it spells out. -/
theorem readHexFrom_eq_ok_iff {position : Nat} {text : List Char} {octets : Bytes} :
    readHexFrom position text = .ok octets ↔ SpellsOut text octets := by
  constructor
  · intro read
    induction position, text using readHexFrom.induct generalizing octets with
    | case1 position =>
      obtain rfl := Except.ok.inj read
      exact .done
    | case2 position c rest between inductionHypothesis =>
      rw [readHexFrom, if_pos between] at read
      exact .gap between (inductionHypothesis read)
    | case3 position c rest solid none_read =>
      rw [readHexFrom, if_neg solid, none_read] at read
      cases read
    | case4 position c solid high first =>
      rw [readHexFrom, if_neg solid, first] at read
      cases read
    | case5 position c solid high first d rest none_read =>
      rw [readHexFrom, if_neg solid, first] at read
      simp only [none_read] at read
      cases read
    | case6 position c solid high first d rest low second others restRead inductionHypothesis =>
      rw [readHexFrom, if_neg solid, first] at read
      simp only [second, restRead] at read
      obtain rfl := Except.ok.inj read
      exact .octet first second (inductionHypothesis restRead)
    | case7 position c solid high first d rest low second misfit restRead _ =>
      rw [readHexFrom, if_neg solid, first] at read
      simp only [second, restRead] at read
      cases read
  · intro spelled
    induction spelled generalizing position with
    | done => rfl
    | gap between later inductionHypothesis =>
      rw [readHexFrom, if_pos between, inductionHypothesis]
    | @octet c d rest octets high low first second later inductionHypothesis =>
      have solid : ¬ isHexGap c = true := by simp [solid_of_hexValue? first]
      rw [readHexFrom, if_neg solid, first]
      simp only [second, inductionHypothesis]

/-- A text that spells out octets is made of white space and digits. -/
theorem SpellsOut.gap_or_digit {text : List Char} {octets : Bytes}
    (spelled : SpellsOut text octets) :
    ∀ c ∈ text, isHexGap c = true ∨ ∃ value, hexValue? c = some value := by
  induction spelled with
  | done => exact List.forall_mem_nil _
  | gap between later inductionHypothesis =>
    exact List.forall_mem_cons.mpr ⟨.inl between, inductionHypothesis⟩
  | octet first second later inductionHypothesis =>
    exact List.forall_mem_cons.mpr ⟨.inr ⟨_, first⟩,
      List.forall_mem_cons.mpr ⟨.inr ⟨_, second⟩, inductionHypothesis⟩⟩

theorem SpellsOut.ascii {text : List Char} {octets : Bytes} (spelled : SpellsOut text octets) :
    ∀ c ∈ text, c.toNat < 0x80 := by
  intro c member
  rcases spelled.gap_or_digit c member with gap | ⟨value, digit⟩
  · exact ascii_of_isHexGap gap
  · exact ascii_of_hexValue? digit

/-- A text is read as octets exactly if it spells them out. -/
theorem readHex_eq_ok_iff {text : String} {octets : Bytes} :
    readHex text = .ok octets ↔ SpellsOut text.toList octets := by
  rw [← @readHexFrom_eq_ok_iff 0, readHex]
  split
  · rename_i position found
    refine iff_of_false ?_ ?_
    · intro read
      cases read
    · intro read
      have ascii : text.toList.findIdx? (fun c => 0x80 ≤ c.toNat) = none := by
        rw [List.findIdx?_eq_none_iff]
        intro c member
        rw [decide_eq_false_iff_not, Nat.not_le]
        exact (readHexFrom_eq_ok_iff.mp read).ascii c member
      rw [ascii] at found
      cases found
  · rfl

/-- Only a text in ASCII stands for octets. -/
theorem ascii_of_readHex {text : String} {octets : Bytes} (read : readHex text = .ok octets) :
    ∀ c ∈ text.toList, c.toNat < 0x80 :=
  (readHex_eq_ok_iff.mp read).ascii

/-- A text spells out one octet for every two of its characters that are not white space. -/
theorem SpellsOut.length_eq {text : List Char} {octets : Bytes} (spelled : SpellsOut text octets) :
    text.length = 2 * octets.length + text.countP isHexGap := by
  induction spelled with
  | done => rfl
  | gap between later inductionHypothesis =>
    rw [List.length_cons, List.countP_cons_of_pos between, inductionHypothesis, Nat.add_assoc]
  | octet first second later inductionHypothesis =>
    rw [List.length_cons, List.length_cons, List.length_cons,
      List.countP_cons_of_neg (by simp [solid_of_hexValue? first]),
      List.countP_cons_of_neg (by simp [solid_of_hexValue? second]), inductionHypothesis]
    ring

/-! ### What is written for octets -/

theorem hexValue?_hexDigit : ∀ value < 16, hexValue? (hexDigit value) = some value := by
  decide

/-- The two hexadecimal digits of an octet. -/
theorem octet_halves (octet : UInt8) : octet.toNat / 16 < 16 ∧ octet.toNat % 16 < 16 ∧
    UInt8.ofNat (16 * (octet.toNat / 16) + octet.toNat % 16) = octet := by
  have small : octet.toNat < 256 := octet.toNat_lt
  refine ⟨by omega, by omega, ?_⟩
  rw [Nat.div_add_mod, UInt8.ofNat_toNat]

/-- What is written for octets are hexadecimal digits. -/
theorem exists_hexDigit_of_mem {octets : Bytes} {c : Char} (member : c ∈ (hexOf octets).toList) :
    ∃ value < 16, hexDigit value = c := by
  rw [hexOf, String.toList_ofList] at member
  obtain ⟨octet, -, digit⟩ := List.mem_flatMap.mp member
  obtain ⟨highSmall, lowSmall, -⟩ := octet_halves octet
  rcases List.mem_pair.mp digit with rfl | rfl
  · exact ⟨_, highSmall, rfl⟩
  · exact ⟨_, lowSmall, rfl⟩

/-- What is written for octets has no white space. -/
theorem solid_hexOf (octets : Bytes) : ∀ c ∈ (hexOf octets).toList, isHexGap c = false := by
  intro c member
  obtain ⟨value, small, rfl⟩ := exists_hexDigit_of_mem member
  exact solid_of_hexValue? (hexValue?_hexDigit value small)

theorem spellsOut_hexOf (octets : Bytes) : SpellsOut (hexOf octets).toList octets := by
  rw [hexOf, String.toList_ofList]
  induction octets with
  | nil => exact .done
  | cons octet rest inductionHypothesis =>
    obtain ⟨highSmall, lowSmall, whole⟩ := octet_halves octet
    have spelled : SpellsOut _ (UInt8.ofNat (16 * (octet.toNat / 16) + octet.toNat % 16) :: rest) :=
      .octet (hexValue?_hexDigit _ highSmall) (hexValue?_hexDigit _ lowSmall) inductionHypothesis
    rw [whole] at spelled
    exact spelled

/-- A byte string comes back from hexadecimal. -/
theorem readHex_hexOf (octets : Bytes) : readHex (hexOf octets) = .ok octets :=
  readHex_eq_ok_iff.mpr (spellsOut_hexOf octets)

/-- A text of the given number of lower-case hexadecimal digits. -/
def IsLowerHex (digits : Nat) (text : String) : Prop :=
  text.toList.length = digits ∧
    ∀ c ∈ text.toList, ('0' ≤ c ∧ c ≤ '9') ∨ ('a' ≤ c ∧ c ≤ 'f')

theorem hexDigit_lower : ∀ value < 16, ('0' ≤ hexDigit value ∧ hexDigit value ≤ '9') ∨
    ('a' ≤ hexDigit value ∧ hexDigit value ≤ 'f') := by
  decide

/-- A byte string is written with two lower-case digits for each octet. -/
theorem isLowerHex_hexOf (octets : Bytes) : IsLowerHex (2 * octets.length) (hexOf octets) := by
  constructor
  · rw [hexOf, String.toList_ofList]
    simp [List.length_flatMap, List.map_const', Nat.mul_comm]
  · intro c member
    obtain ⟨value, small, rfl⟩ := exists_hexDigit_of_mem member
    exact hexDigit_lower value small

/-! ### Hexadecimal without white space -/

/-- A digit that is not a capital letter is the one that is written for its value. -/
theorem hexDigit_of_hexValue? {c : Char} {value : Nat} (digit : hexValue? c = some value)
    (lowered : c.isUpper = false) : value < 16 ∧ hexDigit value = c := by
  have own : ∀ c : Char, c.toNat < 0x80 → ∀ value ∈ hexValue? c, c.isUpper = false →
      value < 16 ∧ hexDigit value = c := forall_ascii (by decide)
  exact own c (ascii_of_hexValue? digit) value digit lowered

/-- Digits without capitals and white space are the ones that are written for their octets. -/
theorem SpellsOut.digits_eq {text : List Char} {octets : Bytes} (spelled : SpellsOut text octets)
    (lowered : ∀ c ∈ text, c.isUpper = false) (solid : ∀ c ∈ text, isHexGap c = false) :
    (octets.flatMap fun octet => [hexDigit (octet.toNat / 16), hexDigit (octet.toNat % 16)]) =
      text := by
  induction spelled with
  | done => rfl
  | gap between later _ =>
    rw [solid _ List.mem_cons_self] at between
    cases between
  | @octet c d rest octets high low first second later inductionHypothesis =>
    simp only [List.forall_mem_cons] at lowered solid
    obtain ⟨firstLowered, secondLowered, restLowered⟩ := lowered
    obtain ⟨highSmall, isHigh⟩ := hexDigit_of_hexValue? first firstLowered
    obtain ⟨lowSmall, isLow⟩ := hexDigit_of_hexValue? second secondLowered
    have whole : (UInt8.ofNat (16 * high + low)).toNat = 16 * high + low := by
      rw [UInt8.toNat_ofNat']
      omega
    have upper : (16 * high + low) / 16 = high := by omega
    have lower : (16 * high + low) % 16 = low := by omega
    rw [List.flatMap_cons, inductionHypothesis restLowered solid.2.2, whole, upper, lower, isHigh,
      isLow]
    rfl

/-- A text without capitals and white space is what is written for the octets that it stands for. -/
theorem hexOf_of_readHex {text : String} {octets : Bytes}
    (lowered : ∀ c ∈ text.toList, c.isUpper = false)
    (solid : ∀ c ∈ text.toList, isHexGap c = false) (read : readHex text = .ok octets) :
    hexOf octets = text := by
  rw [hexOf, (readHex_eq_ok_iff.mp read).digits_eq lowered solid, String.ofList_toList]

/-! ### Letter case -/

/-- What does not tell the two cases of a letter of ASCII apart does not tell a text from its lower
case. -/
theorem toLower_invariant {α : Type} (view : Char → α)
    (ascii : ∀ c : Char, c.toNat < 0x80 → view c.toLower = view c) (c : Char) :
    view c.toLower = view c := by
  by_cases inside : c.toNat < 0x80
  · exact ascii c inside
  · rw [toLower_of_beyond (Nat.not_lt.mp inside)]

/-- The digits are read alike in both cases. -/
theorem readHexFrom_map_toLower (position : Nat) (text : List Char) :
    readHexFrom position (text.map Char.toLower) = readHexFrom position text := by
  have gap := toLower_invariant isHexGap (forall_ascii (by decide))
  have value := toLower_invariant hexValue? (forall_ascii (by decide))
  -- These two are all that the reader asks of a character, so each of its rows stays as it is.
  induction position, text using readHexFrom.induct with
  | case1 position => rfl
  | _ => simp_all [readHexFrom]

/-- A text in hexadecimal is read alike in both cases, also where it does not fit. -/
theorem readHex_toLower (text : String) : readHex text.toLower = readHex text := by
  have beyond := toLower_invariant (fun c => decide (0x80 ≤ c.toNat))
    (forall_ascii (by decide))
  have letters : text.toLower.toList = text.toList.map Char.toLower := String.toList_map
  have place : (fun c : Char => decide (0x80 ≤ c.toNat)) ∘ Char.toLower =
      fun c => decide (0x80 ≤ c.toNat) := funext beyond
  rw [readHex, readHex, letters, List.findIdx?_map, place, readHexFrom_map_toLower]

end Text

end Bolt11
