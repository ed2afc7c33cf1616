/-
This file proves that regrouping keeps the string of bits.

The accumulator holds more than the bits that are still to be given out, and forgets the highest
of them on the way. What carries the proof is that the bits given out, followed by the bits still
to be given out, are always the bits that went in. From this follow both ways of ending: with
padding the string is completed by zeros to whole values, and without it the regrouping succeeds
exactly when fewer than one input value is left over and that is all zero. What is left over can be
named without the accumulator: it is the string behind the last whole value of the other width.
-/

import Bolt11.Proofs.Bits
import Bolt11.Regroup

namespace Bolt11.Regroup

open Bits (ofNat ofValues)

/-! ### The accumulator -/

/-- Draining gives out the bits that are due, from the first one on. -/
theorem drain_bits {target : Nat} (positive : 0 < target) (acc bits : Nat) :
    (drain target acc bits).2 < target ∧
      (∀ value ∈ (drain target acc bits).1, value < 2 ^ target) ∧
      ofValues target (drain target acc bits).1 ++ ofNat (drain target acc bits).2 acc =
        ofNat bits acc := by
  fun_induction drain target acc bits with
  | case1 bits enough values left drained inductionHypothesis =>
    obtain ⟨short, small, kept⟩ := inductionHypothesis
    rw [drained] at short small kept
    refine ⟨short, ?_, ?_⟩
    · intro value member
      rcases List.mem_cons.mp member with rfl | later
      · exact Nat.mod_lt _ (Nat.two_pow_pos target)
      · exact small value later
    · have split := Bits.ofNat_add target (bits - target) acc
      rw [Nat.add_sub_cancel' enough.2] at split
      rw [Bits.ofValues_cons, List.append_assoc, kept, split]
      simp only [Nat.pow_eq]
      rw [Bits.ofNat_mod (Nat.le_refl target)]
  | case2 bits short =>
    refine ⟨by omega, ?_, rfl⟩
    intro value member
    cases member

/-- The accumulator that takes a value in keeps at least the bits that are due: those that were due
before and those of the value. -/
theorem masked_bits {source target value : Nat} (fits : value < 2 ^ source) (acc : Nat) {bits : Nat}
    (short : bits < target) :
    ofNat (bits + source) ((acc * 2 ^ source + value) % 2 ^ (source + target - 1)) =
      ofNat bits acc ++ ofNat source value := by
  rw [Bits.ofNat_mod (by omega), Bits.ofNat_concat fits]

/-- Feeding values keeps the string of bits: what is given out and what is left in the
accumulator are what was in it and what was fed. -/
theorem feed_bits {source target : Nat} (positive : 0 < target) {values : List Nat}
    (small : ∀ value ∈ values, value < 2 ^ source) (acc : Nat) {bits : Nat}
    (short : bits < target) :
    ∃ regrouped final left, feed source target acc bits values = some (regrouped, final, left) ∧
      left < target ∧ (∀ value ∈ regrouped, value < 2 ^ target) ∧
      ofValues target regrouped ++ ofNat left final = ofNat bits acc ++ ofValues source values := by
  induction values generalizing acc bits with
  | nil => exact ⟨[], acc, bits, rfl, short, by simp, by simp⟩
  | cons value rest inductionHypothesis =>
    have fits : value < 2 ^ source := small value List.mem_cons_self
    let masked := (acc * 2 ^ source + value) % 2 ^ (source + target - 1)
    obtain ⟨stillShort, drainedSmall, drained⟩ := drain_bits positive masked (bits + source)
    obtain ⟨more, final, left, fed, leftShort, moreSmall, kept⟩ := inductionHypothesis
      (fun v member => small v (List.mem_cons_of_mem _ member)) masked stillShort
    refine ⟨(drain target masked (bits + source)).1 ++ more, final, left, ?_, leftShort, ?_, ?_⟩
    · rw [feed]
      simp only [Nat.pow_eq]
      rw [if_pos fits, fed]
    · intro v member
      rcases List.mem_append.mp member with here | later
      · exact drainedSmall v here
      · exact moreSmall v later
    · have due : ofNat (bits + source) masked = ofNat bits acc ++ ofNat source value :=
        masked_bits fits acc short
      rw [Bits.ofValues_append, List.append_assoc, kept, ← List.append_assoc, drained, due,
        Bits.ofValues_cons, List.append_assoc]

/-- The accumulator never holds more than its mask lets through. -/
theorem feed_lt {source target acc bits : Nat} (start : acc < 2 ^ (source + target - 1))
    {values regrouped : List Nat} {final left : Nat}
    (fed : feed source target acc bits values = some (regrouped, final, left)) :
    final < 2 ^ (source + target - 1) := by
  induction values generalizing acc bits regrouped with
  | nil =>
    obtain ⟨-, rfl, -⟩ : [] = regrouped ∧ acc = final ∧ bits = left := by
      simpa only [feed, Option.some.injEq, Prod.mk.injEq] using fed
    exact start
  | cons value rest inductionHypothesis =>
    rw [feed] at fed
    simp only [Nat.pow_eq] at fed
    split at fed
    · split at fed
      · rename_i more last restFed
        obtain ⟨-, rfl⟩ := Prod.mk.inj (Option.some.inj fed)
        exact inductionHypothesis (Nat.mod_lt _ (Nat.two_pow_pos _)) restFed
      · cases fed
    · cases fed

/-- A value that is too wide for its width has no regrouping. -/
theorem feed_of_wide {source target : Nat} {values : List Nat}
    (wide : ∃ value ∈ values, 2 ^ source ≤ value) (acc bits : Nat) :
    feed source target acc bits values = none := by
  induction values generalizing acc bits with
  | nil =>
    obtain ⟨_, member, _⟩ := wide
    cases member
  | cons value rest inductionHypothesis =>
    rw [feed]
    simp only [Nat.pow_eq]
    split
    · rename_i fits
      obtain ⟨other, member, tooWide⟩ := wide
      rcases List.mem_cons.mp member with rfl | later
      · omega
      · rw [inductionHypothesis ⟨other, later, tooWide⟩]
    · rfl

theorem completed_bits {target bits : Nat} (short : bits ≤ target) (acc : Nat) :
    ofNat target (completed target acc bits) =
      ofNat bits acc ++ List.replicate (target - bits) false := by
  have shifted := Bits.ofNat_shift bits (target - bits) acc
  rw [Nat.add_sub_cancel' short] at shifted
  simp only [completed, Nat.pow_eq]
  rw [Bits.ofNat_mod (Nat.le_refl target), shifted]

theorem completed_lt (target acc bits : Nat) : completed target acc bits < 2 ^ target :=
  Nat.mod_lt _ (Nat.two_pow_pos target)

/-- The completed value is zero exactly if the bits left over are. -/
theorem completed_eq_zero_iff {target bits acc : Nat} (short : bits ≤ target) :
    completed target acc bits = 0 ↔ ofNat bits acc = List.replicate bits false := by
  have whole : List.replicate bits false ++ List.replicate (target - bits) false =
      List.replicate target false := by
    rw [List.replicate_append_replicate, Nat.add_sub_cancel' short]
  have meaning := completed_bits short acc
  constructor
  · intro zero
    rw [zero, Bits.ofNat_zero, ← whole] at meaning
    exact (List.append_cancel_right meaning).symm
  · intro zeros
    rw [zeros, whole, Bits.ofNat_eq_zeros_iff, Nat.mod_eq_of_lt (completed_lt target acc bits)]
      at meaning
    exact meaning

/-! ### The two endings -/

/-- With padding, the string of bits is completed with zeros to whole values. -/
theorem run_padded {source target : Nat} (positive : 0 < target) {values : List Nat}
    (small : ∀ value ∈ values, value < 2 ^ source) :
    ∃ regrouped fill, run source target true values = some regrouped ∧
      (∀ value ∈ regrouped, value < 2 ^ target) ∧ fill < target ∧
      ofValues target regrouped = ofValues source values ++ List.replicate fill false := by
  obtain ⟨regrouped, acc, bits, fed, short, regroupedSmall, kept⟩ :=
    feed_bits positive small 0 positive
  simp only [ofNat, List.nil_append] at kept
  rw [run, fed]
  simp only [if_true]
  by_cases none_left : bits = 0
  · refine ⟨regrouped, 0, by rw [if_pos none_left], regroupedSmall, positive, ?_⟩
    rw [← kept, none_left]
    simp [ofNat]
  · refine ⟨regrouped ++ [completed target acc bits], target - bits, by rw [if_neg none_left], ?_,
      by omega, ?_⟩
    · intro value member
      rcases List.mem_append.mp member with here | last
      · exact regroupedSmall value here
      · rw [List.mem_singleton.mp last]
        exact completed_lt target acc bits
    · rw [Bits.ofValues_append, Bits.ofValues_cons, Bits.ofValues_nil, List.append_nil,
        completed_bits (Nat.le_of_lt short), ← List.append_assoc, kept]

/-- Without padding, the string of bits is cut into values, and what is left over decides: nothing
comes of it if it is as long as one input value or has a bit that is one. -/
theorem run_exact {source target : Nat} (positive : 0 < target) {values : List Nat}
    (small : ∀ value ∈ values, value < 2 ^ source) :
    ∃ cut left, (∀ value ∈ cut, value < 2 ^ target) ∧ left.length < target ∧
      ofValues target cut ++ left = ofValues source values ∧
      run source target false values =
        if source ≤ left.length ∨ true ∈ left then none else some cut := by
  obtain ⟨cut, acc, bits, fed, short, cutSmall, kept⟩ := feed_bits positive small 0 positive
  simp only [ofNat, List.nil_append] at kept
  have sized : (ofNat bits acc).length = bits := Bits.length_ofNat bits acc
  have zero : completed target acc bits = 0 ↔ true ∉ ofNat bits acc := by
    rw [completed_eq_zero_iff (Nat.le_of_lt short), ← Bits.eq_zeros_iff, sized]
  refine ⟨cut, ofNat bits acc, cutSmall, by rwa [sized], kept, ?_⟩
  rw [run, fed, sized]
  simp only [Bool.false_eq_true, if_false, Ne, zero, not_not]

/-- Without padding, regrouping succeeds exactly if fewer bits than one input value, and fewer
than one output value, are left over and all of them are zero. The values are then the string of
bits without these. -/
theorem run_exact_iff {source target : Nat} (positive : 0 < target) {values regrouped : List Nat}
    (small : ∀ value ∈ values, value < 2 ^ source) :
    run source target false values = some regrouped ↔
      (∀ value ∈ regrouped, value < 2 ^ target) ∧
      ∃ left, left < source ∧ left < target ∧
        ofValues source values = ofValues target regrouped ++ List.replicate left false := by
  obtain ⟨cut, excess, cutSmall, short, kept, ending⟩ := run_exact positive small
  rw [ending]
  constructor
  · intro succeeded
    split at succeeded
    · cases succeeded
    · rename_i clean
      obtain ⟨few, zeros⟩ := not_or.mp clean
      obtain rfl := Option.some.inj succeeded
      refine ⟨cutSmall, excess.length, Nat.lt_of_not_le few, short, ?_⟩
      rw [← Bits.eq_zeros_iff.mpr zeros, kept]
  · rintro ⟨regroupedSmall, left, few, leftShort, meaning⟩
    obtain ⟨rfl, rfl⟩ := Bits.ofValues_append_injective cutSmall regroupedSmall short
      (by rwa [List.length_replicate]) (kept.trans meaning)
    rw [List.length_replicate, if_neg]
    rintro (many | one)
    · omega
    · cases List.eq_of_mem_replicate one

/-- The bits of some values that are left over behind the last whole value of another width. -/
def leftover (source target : Nat) (values : List Nat) : List Bool :=
  (ofValues source values).drop (target * (source * values.length / target))

/-- Without padding, the string of bits is cut into values but for what is left over, and that
decides. -/
theorem run_exact_leftover {source target : Nat} (positive : 0 < target) {values : List Nat}
    (small : ∀ value ∈ values, value < 2 ^ source) :
    ∃ cut, (∀ value ∈ cut, value < 2 ^ target) ∧
      ofValues target cut ++ leftover source target values = ofValues source values ∧
      run source target false values =
        if source ≤ source * values.length % target ∨ true ∈ leftover source target values then none
        else some cut := by
  obtain ⟨cut, excess, cutSmall, short, kept, ending⟩ := run_exact positive small
  have lengths : target * cut.length + excess.length = source * values.length := by
    rw [← Bits.length_ofValues, ← Bits.length_ofValues, ← List.length_append, kept]
  have count : source * values.length / target = cut.length := by
    rw [← lengths, Nat.mul_add_div positive, Nat.div_eq_of_lt short, Nat.add_zero]
  have rest : source * values.length % target = excess.length := by
    rw [← lengths, Nat.mul_add_mod, Nat.mod_eq_of_lt short]
  have behind : leftover source target values = excess := by
    rw [leftover, count, ← kept, List.drop_left' (Bits.length_ofValues target cut)]
  exact ⟨cut, cutSmall, by rw [behind, kept], by rw [rest, behind, ending]⟩

/-- Without padding, regrouping gives nothing exactly if as many bits as one input value are left
over or one of those left over is one. -/
theorem run_exact_eq_none_iff {source target : Nat} (positive : 0 < target) {values : List Nat}
    (small : ∀ value ∈ values, value < 2 ^ source) :
    run source target false values = none ↔
      source ≤ source * values.length % target ∨ true ∈ leftover source target values := by
  obtain ⟨cut, -, -, ending⟩ := run_exact_leftover positive small
  rw [ending]
  constructor
  · intro refused
    by_contra clean
    rw [if_neg clean] at refused
    cases refused
  · intro excluded
    exact if_pos excluded

end Bolt11.Regroup
