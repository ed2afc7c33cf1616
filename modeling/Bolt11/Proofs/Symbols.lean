/-
This file proves that numbers and byte strings come back from their symbols.

A number is read back from the symbols of its free form and of its fixed form. The free form is
the only one that starts with no zero, and so the shortest one, and the fixed form is the only one
of its length. A byte string and its symbols are one string of bits but for fewer than five zeros
at the end, and that settles which symbols stand for which octets and how many there are. The
symbols that stand for none are those whose string ends in too many bits, or in one that is set.
-/

import Bolt11.Proofs.Regrouping
import Bolt11.Symbols
import Mathlib.Data.List.Basic
import Mathlib.Data.List.Induction
import Mathlib.Data.Nat.Digits.Defs

namespace Bolt11.Symbols

/-! ### Numbers -/

theorem toNat_append_singleton (symbols : List Nat) (symbol : Nat) :
    toNat (symbols ++ [symbol]) = 32 * toNat symbols + symbol := by
  simp only [toNat, List.foldl_append, List.foldl_cons, List.foldl_nil]

/-- The symbols of a number are its digits in base thirty-two, the lowest one last. -/
theorem toNat_eq_ofDigits (symbols : List Nat) :
    toNat symbols = Nat.ofDigits 32 symbols.reverse := by
  induction symbols using List.reverseRecOn with
  | nil => rfl
  | append_singleton symbols symbol inductionHypothesis =>
    rw [toNat_append_singleton, inductionHypothesis, List.reverse_append, List.reverse_singleton,
      List.singleton_append, Nat.ofDigits_cons, Nat.add_comm]

/-- A number has only one form of a given length. -/
theorem toNat_injective {left right : List Nat} (lengths : left.length = right.length)
    (leftSmall : ∀ symbol ∈ left, symbol < 32) (rightSmall : ∀ symbol ∈ right, symbol < 32)
    (same : toNat left = toNat right) : left = right := by
  rw [toNat_eq_ofDigits, toNat_eq_ofDigits] at same
  refine List.reverse_inj.mp (Nat.ofDigits_inj_of_len_eq (by decide : 1 < 32) ?_ ?_ ?_ same)
  · rw [List.length_reverse, List.length_reverse, lengths]
  · exact fun symbol member => leftSmall symbol (List.mem_reverse.mp member)
  · exact fun symbol member => rightSmall symbol (List.mem_reverse.mp member)

theorem toNat_replicate_append (zeros : Nat) (symbols : List Nat) :
    toNat (List.replicate zeros 0 ++ symbols) = toNat symbols := by
  induction zeros with
  | zero => rfl
  | succ zeros inductionHypothesis => exact inductionHypothesis

theorem toNat_ofNat (value : Nat) : toNat (ofNat value) = value := by
  fun_induction ofNat value with
  | case1 => rfl
  | case2 value nonzero inductionHypothesis =>
    rw [toNat_append_singleton, inductionHypothesis, Nat.div_add_mod]

theorem ofNat_lt (value : Nat) : ∀ symbol ∈ ofNat value, symbol < 32 := by
  fun_induction ofNat value with
  | case1 =>
    intro symbol member
    cases member
  | case2 value nonzero inductionHypothesis =>
    intro symbol member
    rcases List.mem_append.mp member with before | last
    · exact inductionHypothesis symbol before
    · rw [List.mem_singleton.mp last]
      exact Nat.mod_lt _ (by decide)

/-- A list of symbols stands for a number below the power of thirty-two. -/
theorem toNat_lt {symbols : List Nat} (small : ∀ symbol ∈ symbols, symbol < 32) :
    toNat symbols < 32 ^ symbols.length := by
  rw [toNat_eq_ofDigits, ← List.length_reverse]
  exact Nat.ofDigits_lt_base_pow_length (by decide) fun symbol member =>
    small symbol (List.mem_reverse.mp member)

/-- A number below a power of thirty-two takes at most as many symbols. -/
theorem length_ofNat_le {value width : Nat} (small : value < 32 ^ width) :
    (ofNat value).length ≤ width := by
  induction width generalizing value with
  | zero =>
    have zero : value = 0 := by simpa using small
    rw [zero, ofNat, if_pos rfl]
    exact Nat.le_refl 0
  | succ width inductionHypothesis =>
    rw [ofNat]
    split
    · exact Nat.zero_le _
    · rw [List.length_append, List.length_singleton]
      have lower : value / 32 < 32 ^ width := by
        rw [pow_succ'] at small
        exact Nat.div_lt_of_lt_mul small
      exact Nat.succ_le_succ (inductionHypothesis lower)

/-- A number takes at most some symbols exactly if it is below the power of thirty-two. -/
theorem length_ofNat_le_iff {value width : Nat} :
    (ofNat value).length ≤ width ↔ value < 32 ^ width := by
  refine ⟨fun short => ?_, length_ofNat_le⟩
  have below := toNat_lt (ofNat_lt value)
  rw [toNat_ofNat] at below
  exact below.trans_le (Nat.pow_le_pow_right (by decide) short)

/-- A number has at most some bits exactly if it is below the power of two. -/
theorem bitLength_le_iff {value bits : Nat} : bitLength value ≤ bits ↔ value < 2 ^ bits := by
  unfold bitLength
  split
  · rename_i zero
    rw [zero]
    exact iff_of_true (Nat.zero_le bits) (Nat.two_pow_pos bits)
  · rename_i nonzero
    exact Nat.log2_lt nonzero

theorem ofInt_eq_ok_iff [Runtime] {value : Int} {symbols : List Nat} :
    ofInt value = .ok symbols ↔ 0 ≤ value ∧ symbols = ofNat value.toNat := by
  unfold ofInt
  split
  · rename_i negative
    constructor
    · intro succeeded
      cases succeeded
    · rintro ⟨natural, -⟩
      omega
  · rename_i natural
    constructor
    · intro succeeded
      exact ⟨Int.not_lt.mp natural, (Except.ok.inj succeeded).symm⟩
    · rintro ⟨-, rfl⟩
      rfl

/-- An integer in the range of its bits is filled up with zeros in front. -/
theorem ofIntFixed_of_fits [Runtime] {width number : Nat} (fits : number < 2 ^ (5 * width)) :
    ofIntFixed (5 * width : Nat) number =
      .ok (List.replicate (width - (ofNat number).length) 0 ++ ofNat number) := by
  have narrow : ¬ ((5 * width : Nat) : Int) < bitLength number :=
    Int.not_lt.mpr (Int.ofNat_le.mpr (bitLength_le_iff.mpr fits))
  have places : (((5 * width : Nat) : Int) / 5).toNat = width := by omega
  rw [ofIntFixed, if_neg (Int.not_lt.mpr (Int.natCast_nonneg number)), if_neg (by omega),
    Int.toNat_natCast, if_neg narrow, places]

/-- Why an integer out of the range of its bits has no form in them. -/
def misfit (width : Nat) (value : Int) : Unencodable :=
  if value < 0 then .negative value else .tooWide value (5 * width : Nat)

/-- An integer out of the range of its bits is reported, as below zero or as too wide. -/
theorem ofIntFixed_of_misfit [Runtime] {width : Nat} {value : Int}
    (outside : ¬ (0 ≤ value ∧ value < 2 ^ (5 * width))) :
    ofIntFixed (5 * width : Nat) value =
      .error (Fault.unencodable (misfit width value)).worded := by
  rw [ofIntFixed, misfit]
  by_cases negative : value < 0
  · rw [if_pos negative, if_pos negative]
  · obtain ⟨number, rfl⟩ := Int.eq_ofNat_of_zero_le (Int.not_lt.mp negative)
    have wide : ((5 * width : Nat) : Int) < bitLength number := by
      refine Int.ofNat_lt.mpr (Nat.lt_of_not_le fun narrow => outside ⟨Int.not_lt.mp negative, ?_⟩)
      exact_mod_cast bitLength_le_iff.mp narrow
    rw [if_neg negative, if_neg negative, if_neg (by omega), Int.toNat_natCast, if_pos wide]

theorem misfit_isWritable [Runtime] (width : Nat) {value : Int}
    (valueWritten : Runtime.writes value = true)
    (bitsWritten : Runtime.writes (5 * width : Nat) = true) :
    (Fault.unencodable (misfit width value)).isWritable = true := by
  rw [Fault.isWritable, misfit]
  split
  · exact valueWritten
  · rw [Unencodable.isWritable, valueWritten, bitsWritten]
    rfl

/-- An integer has a fixed form exactly if it is in the range of its bits. -/
theorem exists_ofIntFixed_iff [Runtime] (width : Nat) {value : Int} :
    (∃ symbols, ofIntFixed (5 * width : Nat) value = .ok symbols) ↔
      0 ≤ value ∧ value < 2 ^ (5 * width) := by
  constructor
  · rintro ⟨symbols, written⟩
    by_contra outside
    rw [ofIntFixed_of_misfit outside] at written
    cases written
  · rintro ⟨natural, narrow⟩
    obtain ⟨number, rfl⟩ := Int.eq_ofNat_of_zero_le natural
    exact ⟨_, ofIntFixed_of_fits (by exact_mod_cast narrow)⟩

/-- The fixed form of an integer: as many symbols as fill the bits, and the integer is read back
from them. -/
theorem ofIntFixed_eq_ok [Runtime] (width : Nat) {value : Int} {symbols : List Nat}
    (written : ofIntFixed (5 * width : Nat) value = .ok symbols) :
    symbols.length = width ∧ (∀ symbol ∈ symbols, symbol < 32) ∧
      ((toNat symbols : Nat) : Int) = value := by
  obtain ⟨natural, narrow⟩ := (exists_ofIntFixed_iff width).mp ⟨symbols, written⟩
  obtain ⟨number, rfl⟩ := Int.eq_ofNat_of_zero_le natural
  have fits : number < 2 ^ (5 * width) := by exact_mod_cast narrow
  obtain rfl := Except.ok.inj ((ofIntFixed_of_fits fits).symm.trans written)
  have short : (ofNat number).length ≤ width := length_ofNat_le (by rwa [pow_mul] at fits)
  refine ⟨?_, ?_, ?_⟩
  · rw [List.length_append, List.length_replicate, Nat.sub_add_cancel short]
  · intro symbol member
    rcases List.mem_append.mp member with zero | digit
    · rw [List.eq_of_mem_replicate zero]
      decide
    · exact ofNat_lt _ symbol digit
  · rw [toNat_replicate_append, toNat_ofNat]

/-- The free form of a number does not begin with a zero. -/
theorem head?_ofNat_ne (value : Nat) : (ofNat value).head? ≠ some 0 := by
  fun_induction ofNat value with
  | case1 => exact nofun
  | case2 value nonzero inductionHypothesis =>
    by_cases single : value / 32 = 0
    · -- the only symbol is the number itself
      rw [single, ofNat, if_pos rfl, List.nil_append, List.head?_cons]
      intro zero
      have := Option.some.inj zero
      omega
    · have before : ofNat (value / 32) ≠ [] := by
        intro empty
        have whole := toNat_ofNat (value / 32)
        rw [empty] at whole
        exact single whole.symm
      rwa [List.head?_append_of_ne_nil _ before]

/-- All forms of a number are its free form with zeros in front. -/
theorem replicate_append_ofNat {symbols : List Nat} (small : ∀ symbol ∈ symbols, symbol < 32) :
    List.replicate (symbols.length - (ofNat (toNat symbols)).length) 0 ++ ofNat (toNat symbols) =
      symbols := by
  have short : (ofNat (toNat symbols)).length ≤ symbols.length := length_ofNat_le (toNat_lt small)
  refine toNat_injective ?_ ?_ small ?_
  · rw [List.length_append, List.length_replicate, Nat.sub_add_cancel short]
  · intro symbol member
    rcases List.mem_append.mp member with zero | digit
    · rw [List.eq_of_mem_replicate zero]
      decide
    · exact ofNat_lt _ symbol digit
  · rw [toNat_replicate_append, toNat_ofNat]

/-- A form of a number that does not begin with a zero is its free form. -/
theorem eq_ofNat_of_head? {symbols : List Nat} (small : ∀ symbol ∈ symbols, symbol < 32)
    (leading : symbols.head? ≠ some 0) : symbols = ofNat (toNat symbols) := by
  have whole := replicate_append_ofNat small
  cases zeros : symbols.length - (ofNat (toNat symbols)).length with
  | zero =>
    rw [zeros] at whole
    exact whole.symm
  | succ more =>
    rw [zeros] at whole
    rw [← whole] at leading
    exact absurd rfl leading

/-- A form of an integer: symbols that stand for it, with or without zeros in front. -/
structure IsForm (symbols : List Nat) (value : Int) : Prop where
  small : ∀ symbol ∈ symbols, symbol < 32
  stands : ((toNat symbols : Nat) : Int) = value

/-- Every byte string is regrouped. -/
theorem run_ofBytes (octets : Bytes) :
    Regroup.run 8 5 true (octets.map UInt8.toNat) = some (ofBytes octets) := by
  obtain ⟨symbols, _, regrouped, _⟩ :=
    Regroup.run_padded (show 0 < 5 by decide) (Bits.octet_lt octets)
  rw [ofBytes, regrouped]
  rfl

/-- The symbols of a byte string are its string of bits, completed with fewer than five zeros. -/
theorem ofBytes_bits (octets : Bytes) :
    (∀ symbol ∈ ofBytes octets, symbol < 32) ∧
      ∃ fill, fill < 5 ∧
        Bits.ofValues 5 (ofBytes octets) = Bits.ofOctets octets ++ List.replicate fill false := by
  obtain ⟨symbols, fill, regrouped, small, short, bits⟩ :=
    Regroup.run_padded (show 0 < 5 by decide) (Bits.octet_lt octets)
  obtain rfl := Option.some.inj ((run_ofBytes octets).symm.trans regrouped)
  exact ⟨small, fill, short, bits⟩

theorem ofBytes_lt (octets : Bytes) : ∀ symbol ∈ ofBytes octets, symbol < 32 :=
  (ofBytes_bits octets).1

theorem length_ofBytes (octets : Bytes) :
    (ofBytes octets).length = (8 * octets.length + 4) / 5 := by
  obtain ⟨-, fill, short, bits⟩ := ofBytes_bits octets
  have lengths := congrArg List.length bits
  simp only [Bits.length_ofValues, List.length_append, Bits.length_ofOctets,
    List.length_replicate] at lengths
  omega

/-- Symbols stand for a byte string if they are its string of bits, followed by fewer than five
zeros. -/
def StandFor (symbols : List Nat) (octets : Bytes) : Prop :=
  ∃ left, left < 5 ∧ Bits.ofValues 5 symbols = Bits.ofOctets octets ++ List.replicate left false

/-- Symbols are read as the byte string that they stand for. -/
theorem toBytes_eq_ok_iff {symbols : List Nat} (small : ∀ symbol ∈ symbols, symbol < 32)
    {octets : Bytes} : toBytes symbols = .ok octets ↔ StandFor symbols octets := by
  constructor
  · intro read
    unfold toBytes at read
    cases run : Regroup.run 5 8 false symbols with
    | none =>
      rw [run] at read
      cases read
    | some values =>
      rw [run] at read
      obtain ⟨valuesSmall, left, few, -, bits⟩ :=
        (Regroup.run_exact_iff (by decide) small).mp run
      obtain rfl := Except.ok.inj read
      exact ⟨left, few, by rw [Bits.ofOctets_ofNat valuesSmall, bits]⟩
  · rintro ⟨left, few, bits⟩
    have run : Regroup.run 5 8 false symbols = some (octets.map UInt8.toNat) :=
      (Regroup.run_exact_iff (by decide) small).mpr
        ⟨Bits.octet_lt octets, left, few, by omega, bits⟩
    rw [toBytes, run, regrouped, Bits.map_ofNat_toNat]

/-- A byte string comes back from its symbols. -/
theorem toBytes_ofBytes (octets : Bytes) : toBytes (ofBytes octets) = .ok octets := by
  obtain ⟨small, fill, short, bits⟩ := ofBytes_bits octets
  exact (toBytes_eq_ok_iff small).mpr ⟨fill, short, bits⟩

/-- Symbols that stand for a byte string are its symbols. -/
theorem ofBytes_of_standFor {symbols : List Nat} (small : ∀ symbol ∈ symbols, symbol < 32)
    {octets : Bytes} (stand : StandFor symbols octets) : ofBytes octets = symbols := by
  obtain ⟨left, few, bits⟩ := stand
  obtain ⟨smallToo, fill, short, bitsToo⟩ := ofBytes_bits octets
  have lengths := congrArg List.length bits
  have lengthsToo := congrArg List.length bitsToo
  simp only [Bits.length_ofValues, List.length_append, Bits.length_ofOctets,
    List.length_replicate] at lengths lengthsToo
  obtain rfl : left = fill := by omega
  exact Bits.ofValues_injective (by decide) smallToo small (bitsToo.trans bits.symm)

theorem length_of_standFor {symbols : List Nat} {octets : Bytes} (stand : StandFor symbols octets) :
    octets.length = 5 * symbols.length / 8 := by
  obtain ⟨left, few, bits⟩ := stand
  have lengths := congrArg List.length bits
  simp only [Bits.length_ofValues, List.length_append, Bits.length_ofOctets,
    List.length_replicate] at lengths
  omega

theorem length_of_toBytes {symbols : List Nat} (small : ∀ symbol ∈ symbols, symbol < 32)
    {octets : Bytes} (read : toBytes symbols = .ok octets) :
    octets.length = 5 * symbols.length / 8 :=
  length_of_standFor ((toBytes_eq_ok_iff small).mp read)

/-- Symbols whose bits are whole octets stand for a byte string, whatever they are. -/
theorem exists_standFor {symbols : List Nat} (small : ∀ symbol ∈ symbols, symbol < 32)
    (whole : 8 ∣ 5 * symbols.length) : ∃ octets, StandFor symbols octets := by
  have narrow : ∀ symbol ∈ symbols, symbol < 2 ^ 5 := small
  obtain ⟨values, fill, -, valuesSmall, few, bits⟩ :=
    Regroup.run_padded (show 0 < 8 by decide) narrow
  have lengths := congrArg List.length bits
  simp only [Bits.length_ofValues, List.length_append, List.length_replicate] at lengths
  obtain rfl : fill = 0 := by omega
  refine ⟨values.map UInt8.ofNat, 0, by decide, ?_⟩
  rw [Bits.ofOctets_ofNat valuesSmall, bits]
  simp only [List.replicate_zero, List.append_nil]

/-! ### Symbols that stand for no byte string -/

theorem toBytes_eq_error_iff {symbols : List Nat} {cause : Malformed} :
    toBytes symbols = .error cause ↔
      Regroup.run 5 8 false symbols = none ∧ cause = .padding := by
  rw [toBytes]
  cases Regroup.run 5 8 false symbols with
  | none =>
    constructor
    · intro refused
      exact ⟨rfl, (Except.error.inj refused).symm⟩
    · rintro ⟨-, rfl⟩
      rfl
  | some values =>
    refine iff_of_false ?_ ?_
    · intro refused
      cases refused
    · rintro ⟨nothing, -⟩
      cases nothing

/-- A byte string has exactly one form in symbols. Every byte string has symbols, from which it is
read back, and whatever symbols are read as a byte string are its symbols. Symbols are refused, for
one reason only, exactly if five or more bits are left over behind the last whole octet or one of
the bits left over is set. -/
theorem toBytes_inverts_ofBytes :
    (∀ octets, Regroup.run 8 5 true (octets.map UInt8.toNat) = some (ofBytes octets) ∧
      toBytes (ofBytes octets) = .ok octets) ∧
    ∀ symbols : List Nat, (∀ symbol ∈ symbols, symbol < 32) →
      (∀ octets, toBytes symbols = .ok octets → ofBytes octets = symbols) ∧
      ∀ cause, toBytes symbols = .error cause ↔ cause = .padding ∧
        (5 ≤ 5 * symbols.length % 8 ∨ true ∈ Regroup.leftover 5 8 symbols) := by
  refine ⟨fun octets => ⟨run_ofBytes octets, toBytes_ofBytes octets⟩, fun symbols small =>
    ⟨fun octets read => ofBytes_of_standFor small ((toBytes_eq_ok_iff small).mp read),
      fun cause => ?_⟩⟩
  have narrow : ∀ symbol ∈ symbols, symbol < 2 ^ 5 := small
  rw [toBytes_eq_error_iff, Regroup.run_exact_eq_none_iff (by decide) narrow, and_comm]

/-- Two symbols whose ten bits end in two zeros, the same two with the last bit set, and one symbol
that is as many zeros as are too many. -/
theorem toBytes_inverts_ofBytes_two_symbols :
    (∀ symbol ∈ [31, 28], symbol < 32) ∧ toBytes [31, 28] = .ok [255] ∧ ofBytes [255] = [31, 28] ∧
      (∀ symbol ∈ [31, 29], symbol < 32) ∧ Regroup.leftover 5 8 [31, 29] = [false, true] ∧
      toBytes [31, 29] = .error .padding ∧
      (∀ symbol ∈ [0], symbol < 32) ∧ 5 * [0].length % 8 = 5 ∧ toBytes [0] = .error .padding := by
  have read : toBytes [31, 28] = .ok [255] := by decide +kernel
  have last : Regroup.leftover 5 8 [31, 29] = [false, true] := by decide
  have set : true ∈ Regroup.leftover 5 8 [31, 29] := by
    rw [last]
    decide
  refine ⟨by decide, read, (toBytes_inverts_ofBytes.2 [31, 28] (by decide)).1 [255] read,
    by decide, last, ?_, by decide, by decide, ?_⟩
  · exact ((toBytes_inverts_ofBytes.2 [31, 29] (by decide)).2 .padding).mpr ⟨rfl, .inr set⟩
  · exact ((toBytes_inverts_ofBytes.2 [0] (by decide)).2 .padding).mpr ⟨rfl, .inl (by decide)⟩

end Bolt11.Symbols
