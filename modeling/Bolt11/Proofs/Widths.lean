/-
This file proves what regrouping makes of any integers, from any width to any other.

The integers that fit their width are one string of bits, and that string is what comes out, cut
into values of the other width. At its end there are two ways. With padding it is filled up with
zeros, and nothing is refused. Without padding the bits behind the last whole value are dropped, if
they are few and all zero, and refused otherwise. An integer that does not fit is refused either
way. None of this depends on how far back the accumulator reaches: whenever values are about to be
taken off it, it holds every bit that has not been given out yet.
-/

import Bolt11.Proofs.Regrouping
import Bolt11.Symbols.Integers

namespace Bolt11.Regroup

open Bits (ofNat ofValues)

/-- Whether an integer has more bits than there is room for, or none at all. -/
def IsMisfit (source : Nat) (value : Int) : Prop := value < 0 ∨ 2 ^ source ≤ value

/-- Whether integers have no regrouping: one of them does not fit its width, or, where nothing is
padded, as many bits as one of them has are left over or one of those left over is set. -/
def IsRefused (source target : Nat) (pad : Bool) (values : List Int) : Prop :=
  (∃ value ∈ values, IsMisfit source value) ∨
    pad = false ∧ (source ≤ source * values.length % target ∨
      true ∈ leftover source target (values.map Int.toNat))

instance (source : Nat) (value : Int) : Decidable (IsMisfit source value) :=
  inferInstanceAs (Decidable (value < 0 ∨ 2 ^ source ≤ value))

instance (source target : Nat) (pad : Bool) (values : List Int) :
    Decidable (IsRefused source target pad values) :=
  inferInstanceAs (Decidable ((∃ value ∈ values, IsMisfit source value) ∨
    pad = false ∧ (source ≤ source * values.length % target ∨
      true ∈ leftover source target (values.map Int.toNat))))

/-! ### Integers that fit and integers that do not -/

/-- An integer that does not fit has no regrouping, whatever the others are. -/
theorem runInts_of_misfit {source : Nat} {values : List Int}
    (misfit : ∃ value ∈ values, IsMisfit source value) (target : Nat) (pad : Bool) :
    runInts source target pad values = none := by
  obtain ⟨value, member, outside⟩ := misfit
  rw [runInts]
  split
  · rename_i natural
    have own : 0 ≤ value := of_decide_eq_true (List.all_eq_true.mp natural value member)
    obtain ⟨number, rfl⟩ := Int.eq_ofNat_of_zero_le own
    have wide : 2 ^ source ≤ number := by
      rcases outside with negative | wide
      · omega
      · exact_mod_cast wide
    have among : number ∈ values.map Int.toNat := List.mem_map.mpr ⟨number, member, rfl⟩
    rw [run, feed_of_wide ⟨number, among, wide⟩]
  · rfl

section

variable {source : Nat} {values : List Int} (fit : ∀ value ∈ values, ¬ IsMisfit source value)

include fit

theorem toNat_lt_of_fit : ∀ number ∈ values.map Int.toNat, number < 2 ^ source := by
  intro number member
  obtain ⟨value, among, rfl⟩ := List.mem_map.mp member
  obtain ⟨natural, narrow⟩ := not_or.mp (fit value among)
  refine (Int.toNat_lt (Int.not_lt.mp natural)).mpr ?_
  exact_mod_cast Int.not_le.mp narrow

/-- Integers that all fit are regrouped as the natural numbers that they are. -/
theorem runInts_of_fit (target : Nat) (pad : Bool) :
    runInts source target pad values = run source target pad (values.map Int.toNat) := by
  refine if_pos (List.all_eq_true.mpr fun value member => decide_eq_true ?_)
  exact Int.not_lt.mp (not_or.mp (fit value member)).1

end

/-- Widths that are not below zero need no power of two that there is not. -/
theorem runWidths_natCast {target : Nat} (positive : 0 < target) (source : Nat) (pad : Bool)
    (values : List Int) :
    runWidths source target pad values = .ok (runInts source target pad values) := by
  have defined : ¬ ((target : Int) < 0 ∨ (source : Int) + target < 1) := by omega
  unfold runWidths
  rw [if_neg defined, if_pos (Int.natCast_nonneg source), Int.toNat_natCast, Int.toNat_natCast]

/-! ### Any integers -/

section

variable {source target : Nat} {values : List Int} (positive : 0 < target)

include positive

/-- With padding, integers that fit come out as the string of their bits, completed with zeros. -/
theorem runInts_padded (accepted : ¬ IsRefused source target true values) :
    ∃ regrouped fill, runInts source target true values = some regrouped ∧
      (∀ value ∈ regrouped, value < 2 ^ target) ∧ fill < target ∧
      ofValues target regrouped =
        ofValues source (values.map Int.toNat) ++ List.replicate fill false := by
  have fit : ∀ value ∈ values, ¬ IsMisfit source value := fun value member misfit =>
    accepted (.inl ⟨value, member, misfit⟩)
  rw [runInts_of_fit fit]
  exact run_padded positive (toNat_lt_of_fit fit)

/-- Without padding, integers that are not refused come out as the string of their bits, without
those left over. -/
theorem runInts_exact (accepted : ¬ IsRefused source target false values) :
    ∃ regrouped, runInts source target false values = some regrouped ∧
      (∀ value ∈ regrouped, value < 2 ^ target) ∧
      ofValues target regrouped ++ leftover source target (values.map Int.toNat) =
        ofValues source (values.map Int.toNat) := by
  have fit : ∀ value ∈ values, ¬ IsMisfit source value := fun value member misfit =>
    accepted (.inl ⟨value, member, misfit⟩)
  obtain ⟨cut, cutSmall, kept, ending⟩ := run_exact_leftover positive (toNat_lt_of_fit fit)
  refine ⟨cut, ?_, cutSmall, kept⟩
  rw [runInts_of_fit fit, ending, List.length_map, if_neg]
  exact fun excluded => accepted (.inr ⟨rfl, excluded⟩)

theorem runInts_eq_none_iff (pad : Bool) :
    runInts source target pad values = none ↔ IsRefused source target pad values := by
  constructor
  · intro nothing
    by_contra accepted
    cases pad with
    | true =>
      obtain ⟨regrouped, -, something, -⟩ := runInts_padded positive accepted
      rw [nothing] at something
      cases something
    | false =>
      obtain ⟨regrouped, something, -⟩ := runInts_exact positive accepted
      rw [nothing] at something
      cases something
  · intro refused
    by_cases misfit : ∃ value ∈ values, IsMisfit source value
    · exact runInts_of_misfit misfit target pad
    · rcases refused with outside | ⟨rfl, excluded⟩
      · exact absurd outside misfit
      · have fit : ∀ value ∈ values, ¬ IsMisfit source value := fun value member outside =>
          misfit ⟨value, member, outside⟩
        rw [runInts_of_fit fit, run_exact_eq_none_iff positive (toNat_lt_of_fit fit),
          List.length_map]
        exact excluded

/-- The accumulator stays within its mask and loses nothing by it: with one more value behind the
values that were fed, it holds, masked, the whole string behind what has been given out. -/
theorem accumulator_holds_what_is_due {before : List Nat} {value : Nat}
    (small : ∀ earlier ∈ before, earlier < 2 ^ source) (fits : value < 2 ^ source) :
    ∃ given acc bits, feed source target 0 0 before = some (given, acc, bits) ∧
      acc < 2 ^ (source + target - 1) ∧
      ofNat (bits + source) ((acc * 2 ^ source + value) % 2 ^ (source + target - 1)) =
        (ofValues source (before ++ [value])).drop (target * given.length) := by
  obtain ⟨given, acc, bits, fed, short, -, kept⟩ := feed_bits positive small 0 positive
  rw [ofNat, List.nil_append] at kept
  refine ⟨given, acc, bits, fed, feed_lt (Nat.two_pow_pos _) fed, ?_⟩
  rw [masked_bits fits acc short, Bits.ofValues_append, ← kept, List.append_assoc,
    List.drop_left' (Bits.length_ofValues target given), Bits.ofValues_cons, Bits.ofValues_nil,
    List.append_nil]

end

/-- Regrouping comes to nothing exactly for the integers that are refused. The others come out as
the string of their bits in values of the other width: with padding it is completed by fewer zeros
than one value has bits, and without it the bits left over behind the last whole value are missing.
On the way the accumulator is masked, and loses no bit by it that has not been given out. -/
theorem runWidths_regroups_bits (source : Nat) {target : Nat} (positive : 0 < target)
    (values : List Int) :
    (∀ pad, runWidths source target pad values = .ok none ↔ IsRefused source target pad values) ∧
      (¬ IsRefused source target true values →
        ∃ regrouped fill, runWidths source target true values = .ok (some regrouped) ∧
          (∀ value ∈ regrouped, value < 2 ^ target) ∧ fill < target ∧
          ofValues target regrouped =
            ofValues source (values.map Int.toNat) ++ List.replicate fill false) ∧
      (¬ IsRefused source target false values →
        ∃ regrouped, runWidths source target false values = .ok (some regrouped) ∧
          (∀ value ∈ regrouped, value < 2 ^ target) ∧
          ofValues target regrouped ++ leftover source target (values.map Int.toNat) =
            ofValues source (values.map Int.toNat)) ∧
      ∀ (before : List Nat) (value : Nat), (∀ earlier ∈ before, earlier < 2 ^ source) →
        value < 2 ^ source →
        ∃ given acc bits, feed source target 0 0 before = some (given, acc, bits) ∧
          acc < 2 ^ (source + target - 1) ∧
          ofNat (bits + source) ((acc * 2 ^ source + value) % 2 ^ (source + target - 1)) =
            (ofValues source (before ++ [value])).drop (target * given.length) := by
  simp only [runWidths_natCast positive, Except.ok.injEq]
  exact ⟨runInts_eq_none_iff positive, runInts_padded positive, runInts_exact positive,
    fun before value small fits => accumulator_holds_what_is_due positive small fits⟩

/-- Fourteen bits in values of three: with padding one zero is added, and without it the last two
bits have to be zero. -/
theorem runWidths_regroups_bits_seven_to_three :
    0 < 3 ∧ IsRefused 7 3 true [97, -1] ∧ runWidths 7 3 true [97, -1] = .ok none ∧
      IsRefused 7 3 false [97, 3] ∧ runWidths 7 3 false [97, 3] = .ok none ∧
      ¬ IsRefused 7 3 true [97, 3] ∧
      (∃ regrouped fill, runWidths 7 3 true [97, 3] = .ok (some regrouped) ∧
        (∀ value ∈ regrouped, value < 8) ∧ fill < 3 ∧
        ofValues 3 regrouped = ofValues 7 [97, 3] ++ List.replicate fill false) ∧
      ¬ IsRefused 7 3 false [97, 4] ∧
      (∃ regrouped, runWidths 7 3 false [97, 4] = .ok (some regrouped) ∧
        (∀ value ∈ regrouped, value < 8) ∧
        ofValues 3 regrouped ++ [false, false] = ofValues 7 [97, 4]) ∧
      (∀ earlier ∈ [97], earlier < 2 ^ 7) ∧ 3 < 2 ^ 7 ∧
      ∃ given acc bits, feed 7 3 0 0 [97] = some (given, acc, bits) ∧ acc < 2 ^ 9 ∧
        ofNat (bits + 7) ((acc * 2 ^ 7 + 3) % 2 ^ 9) =
          (ofValues 7 ([97] ++ [3])).drop (3 * given.length) := by
  have positive : 0 < 3 := by decide
  have negative : IsRefused 7 3 true [97, -1] := by decide
  have odd : IsRefused 7 3 false [97, 3] := by decide
  have padded : ¬ IsRefused 7 3 true [97, 3] := by decide
  have even : ¬ IsRefused 7 3 false [97, 4] := by decide
  have earlierFit : ∀ earlier ∈ [97], earlier < 2 ^ 7 := by decide
  exact ⟨positive, negative, ((runWidths_regroups_bits 7 positive [97, -1]).1 true).mpr negative,
    odd, ((runWidths_regroups_bits 7 positive [97, 3]).1 false).mpr odd,
    padded, (runWidths_regroups_bits 7 positive [97, 3]).2.1 padded,
    even, (runWidths_regroups_bits 7 positive [97, 4]).2.2.1 even,
    earlierFit, by decide,
    (runWidths_regroups_bits 7 positive []).2.2.2 [97] 3 earlierFit (by decide)⟩

end Bolt11.Regroup
