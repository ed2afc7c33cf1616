/-
This file reads numbers of a fixed width as strings of bits.

A list of numbers is the string of their bits one after another, the most significant bit of each
first. A string can be cut into numbers of a width in only one way, so two lists of the same
string differ by nothing but the place of the cuts. That is what regrouping and packing are
measured by.
-/

import Bolt11.Bytes
import Mathlib.Tactic.Ring

namespace Bolt11.Bits

/-- The lowest `width` bits of a number. -/
def ofNat : Nat → Nat → List Bool
  | 0, _ => []
  | width + 1, value => ofNat width (value / 2) ++ [value % 2 == 1]

/-- The number that a string of bits stands for. -/
def toNat (bits : List Bool) : Nat := bits.foldl (fun total bit => 2 * total + bit.toNat) 0

/-- The string of bits of a list of numbers of one width. -/
def ofValues (width : Nat) (values : List Nat) : List Bool := values.flatMap (ofNat width)

/-- The string of bits of a byte string. -/
def ofOctets (octets : Bytes) : List Bool := ofValues 8 (octets.map UInt8.toNat)

/-! ### One number -/

@[simp] theorem length_ofNat (width value : Nat) : (ofNat width value).length = width := by
  induction width generalizing value with
  | zero => rfl
  | succ width inductionHypothesis => simp [ofNat, inductionHypothesis]

/-- The high bits of a number are the bits of its quotient by a power of two. -/
theorem ofNat_add (high low value : Nat) :
    ofNat (high + low) value = ofNat high (value / 2 ^ low) ++ ofNat low value := by
  induction low generalizing value with
  | zero => simp [ofNat]
  | succ low inductionHypothesis =>
    rw [← Nat.add_assoc, ofNat, ofNat, inductionHypothesis, Nat.div_div_eq_div_mul, ← pow_succ',
      List.append_assoc]

/-- Only as many bits of a number count as there is room for. -/
theorem ofNat_mod {width limit : Nat} (within : width ≤ limit) (value : Nat) :
    ofNat width (value % 2 ^ limit) = ofNat width value := by
  induction width generalizing limit value with
  | zero => rfl
  | succ width inductionHypothesis =>
    obtain ⟨limit, rfl⟩ : ∃ lower, limit = lower + 1 := ⟨limit - 1, by omega⟩
    have half : value % 2 ^ (limit + 1) / 2 = value / 2 % 2 ^ limit := by
      rw [pow_succ', Nat.mod_mul_right_div_self]
    have parity : value % 2 ^ (limit + 1) % 2 = value % 2 := by
      rw [pow_succ', Nat.mod_mul_right_mod]
    rw [ofNat, half, parity, inductionHypothesis (by omega), ofNat]

@[simp] theorem ofNat_zero (width : Nat) : ofNat width 0 = List.replicate width false := by
  induction width with
  | zero => rfl
  | succ width inductionHypothesis =>
    rw [ofNat, Nat.zero_div, inductionHypothesis, List.replicate_succ']
    rfl

/-- A number put behind another one is the two strings one after the other. -/
theorem ofNat_concat {low width value : Nat} (small : value < 2 ^ width) (high : Nat) :
    ofNat (low + width) (high * 2 ^ width + value) = ofNat low high ++ ofNat width value := by
  have quotient : (high * 2 ^ width + value) / 2 ^ width = high := by
    rw [Nat.mul_comm, Nat.mul_add_div (Nat.two_pow_pos width), Nat.div_eq_of_lt small, Nat.add_zero]
  have rest : ofNat width (high * 2 ^ width + value) = ofNat width value := by
    rw [← ofNat_mod (Nat.le_refl width), Nat.mul_add_mod_self_right, ofNat_mod (Nat.le_refl width)]
  rw [ofNat_add, quotient, rest]

/-- A number moved up by some places is followed by as many zeros. -/
theorem ofNat_shift (width places value : Nat) :
    ofNat (width + places) (value * 2 ^ places) =
      ofNat width value ++ List.replicate places false := by
  have moved : ofNat (width + places) (value * 2 ^ places + 0) =
      ofNat width value ++ ofNat places 0 := ofNat_concat (Nat.two_pow_pos places) value
  rwa [Nat.add_zero, ofNat_zero] at moved

theorem toNat_ofNat (width value : Nat) : toNat (ofNat width value) = value % 2 ^ width := by
  induction width generalizing value with
  | zero => rw [pow_zero, Nat.mod_one]; rfl
  | succ width inductionHypothesis =>
    have last : (value % 2 == 1).toNat = value % 2 := by
      rcases Nat.mod_two_eq_zero_or_one value with even | odd
      · rw [even]; rfl
      · rw [odd]; rfl
    have whole : toNat (ofNat (width + 1) value) =
        2 * toNat (ofNat width (value / 2)) + (value % 2 == 1).toNat := by
      simp only [toNat, ofNat, List.foldl_append, List.foldl_cons, List.foldl_nil]
    rw [whole, inductionHypothesis, last, pow_succ', Nat.mod_mul, Nat.add_comm]

theorem ofNat_injective {width left right : Nat} (leftSmall : left < 2 ^ width)
    (rightSmall : right < 2 ^ width) (same : ofNat width left = ofNat width right) :
    left = right := by
  have values := congrArg toNat same
  rwa [toNat_ofNat, toNat_ofNat, Nat.mod_eq_of_lt leftSmall, Nat.mod_eq_of_lt rightSmall] at values

/-- The bits are all zero exactly if the number is a multiple of the power of two. -/
theorem ofNat_eq_zeros_iff {width value : Nat} :
    ofNat width value = List.replicate width false ↔ value % 2 ^ width = 0 := by
  constructor
  · intro zeros
    have values := congrArg toNat zeros
    rwa [← ofNat_zero, toNat_ofNat, toNat_ofNat, Nat.zero_mod] at values
  · intro multiple
    rw [← ofNat_mod (Nat.le_refl width), multiple, ofNat_zero]

/-- A string of bits is zeros exactly if no bit in it is one. -/
theorem eq_zeros_iff {bits : List Bool} :
    bits = List.replicate bits.length false ↔ true ∉ bits := by
  constructor
  · intro zeros one
    rw [zeros] at one
    cases List.eq_of_mem_replicate one
  · intro clean
    exact List.eq_replicate_of_mem fun bit member =>
      Bool.eq_false_of_not_eq_true fun one => clean (one ▸ member)

/-! ### Lists of numbers -/

@[simp] theorem ofValues_nil (width : Nat) : ofValues width [] = [] := rfl

@[simp] theorem ofValues_cons (width value : Nat) (rest : List Nat) :
    ofValues width (value :: rest) = ofNat width value ++ ofValues width rest := rfl

@[simp] theorem ofValues_append (width : Nat) (first second : List Nat) :
    ofValues width (first ++ second) = ofValues width first ++ ofValues width second :=
  List.flatMap_append

@[simp] theorem length_ofValues (width : Nat) (values : List Nat) :
    (ofValues width values).length = width * values.length := by
  induction values with
  | nil => rfl
  | cons value rest inductionHypothesis =>
    rw [ofValues_cons, List.length_append, length_ofNat, inductionHypothesis, List.length_cons]
    ring

@[simp] theorem length_ofOctets (octets : Bytes) :
    (ofOctets octets).length = 8 * octets.length := by
  rw [ofOctets, length_ofValues, List.length_map]

/-- A string of bits is cut into numbers of a width in only one way. -/
theorem ofValues_injective {width : Nat} (positive : 0 < width) {left right : List Nat}
    (leftSmall : ∀ value ∈ left, value < 2 ^ width)
    (rightSmall : ∀ value ∈ right, value < 2 ^ width)
    (same : ofValues width left = ofValues width right) : left = right := by
  induction left generalizing right with
  | nil =>
    have lengths := congrArg List.length same
    simp only [ofValues_nil, length_ofValues, List.length_nil] at lengths
    have empty : right.length = 0 := by
      rcases Nat.mul_eq_zero.mp lengths.symm with zero | zero
      · omega
      · exact zero
    exact (List.eq_nil_of_length_eq_zero empty).symm
  | cons value rest inductionHypothesis =>
    cases right with
    | nil =>
      have lengths := congrArg List.length same
      simp only [ofValues_nil, length_ofValues, List.length_nil, List.length_cons] at lengths
      rcases Nat.mul_eq_zero.mp lengths with zero | zero <;> omega
    | cons other others =>
      rw [ofValues_cons, ofValues_cons] at same
      obtain ⟨head, tail⟩ := List.append_inj same (by rw [length_ofNat, length_ofNat])
      rw [ofNat_injective (leftSmall value List.mem_cons_self)
          (rightSmall other List.mem_cons_self) head,
        inductionHypothesis (fun v member => leftSmall v (List.mem_cons_of_mem _ member))
          (fun v member => rightSmall v (List.mem_cons_of_mem _ member)) tail]

/-- Where fewer bits than one number are left over on both sides, the cut numbers are the same
and so are the leftover bits. -/
theorem ofValues_append_injective {width : Nat} {left right : List Nat} {excess beyond : List Bool}
    (leftSmall : ∀ value ∈ left, value < 2 ^ width)
    (rightSmall : ∀ value ∈ right, value < 2 ^ width)
    (excessShort : excess.length < width) (beyondShort : beyond.length < width)
    (same : ofValues width left ++ excess = ofValues width right ++ beyond) :
    left = right ∧ excess = beyond := by
  have lengths := congrArg List.length same
  simp only [List.length_append, length_ofValues] at lengths
  have quotients := congrArg (· / width) lengths
  simp only [Nat.mul_add_div (Nat.zero_lt_of_lt excessShort), Nat.div_eq_of_lt excessShort,
    Nat.div_eq_of_lt beyondShort, Nat.add_zero] at quotients
  obtain ⟨cut, leftover⟩ := List.append_inj same (by
    rw [length_ofValues, length_ofValues, quotients])
  exact ⟨ofValues_injective (Nat.zero_lt_of_lt excessShort) leftSmall rightSmall cut, leftover⟩

/-! ### Byte strings -/

theorem octet_lt (octets : Bytes) : ∀ value ∈ octets.map UInt8.toNat, value < 2 ^ 8 := by
  intro value member
  obtain ⟨octet, -, rfl⟩ := List.mem_map.mp member
  exact octet.toNat_lt

theorem map_toNat_ofNat {values : List Nat} (small : ∀ value ∈ values, value < 2 ^ 8) :
    (values.map UInt8.ofNat).map UInt8.toNat = values := by
  rw [List.map_map]
  refine (List.map_congr_left fun value member => ?_).trans (List.map_id values)
  exact Nat.mod_eq_of_lt (small value member)

theorem map_ofNat_toNat (octets : Bytes) : (octets.map UInt8.toNat).map UInt8.ofNat = octets := by
  rw [List.map_map]
  exact (List.map_congr_left fun octet _ => UInt8.ofNat_toNat).trans (List.map_id octets)

theorem ofOctets_ofNat {values : List Nat} (small : ∀ value ∈ values, value < 2 ^ 8) :
    ofOctets (values.map UInt8.ofNat) = ofValues 8 values := by
  rw [ofOctets, map_toNat_ofNat small]

end Bolt11.Bits
