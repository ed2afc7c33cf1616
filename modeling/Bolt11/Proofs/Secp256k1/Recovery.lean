/-
This file proves that a signature is the signature of the key that is recovered from it, and when
verification accepts it.

The numbers of a signature count modulo the order, and since every point vanishes when it is
multiplied by the order, the points can be multiplied by residues. What makes a signature a key's is
an equation, and recovery solves that equation for the key. The rest is what the two functions do
besides: recovery takes any second number, and verification only those up to half of the order.
-/

import Bolt11.Proofs.Secp256k1.Keys
import Mathlib.Algebra.Module.ZMod
import Mathlib.Tactic.Module

namespace Bolt11.Secp256k1

/-! ### Multiples by residues -/

/-- A factor is a residue modulo the order. -/
abbrev Scalar := ZMod order

instance : Module Scalar curve.Point := AddCommGroup.zmodModule order_nsmul

theorem natCast_smul (factor : Nat) (point : curve.Point) :
    (factor : Scalar) • point = factor • point := Nat.cast_smul_eq_nsmul Scalar factor point

theorem standsFor_times_mod {point : Point} {target : curve.Point}
    (stands : Point.StandsFor point target) (factor : Nat) :
    Point.StandsFor (Point.times (factor % order) point) ((factor : Scalar) • target) := by
  have small : factor % order < 2 ^ 256 := (Nat.mod_lt factor order_prime.pos).trans (by decide)
  rw [← ZMod.natCast_mod, natCast_smul]
  exact Point.standsFor_times stands small

/-- A multiple of the generator and a multiple of a point, added up. -/
theorem toAffine?_sum {x y : Nat} (onCurve : IsOnCurve x y) (first second : Nat) :
    (Point.add (Point.times (first % order) Point.generator)
        (Point.times (second % order) (Point.ofAffine x y))).toAffine? =
      Point.coordinates? ((first : Scalar) • base + (second : Scalar) • onCurve.point) :=
  Point.toAffine?_eq (Point.standsFor_add (standsFor_times_mod standsFor_generator first)
    (standsFor_times_mod onCurve.standsFor_point second))

theorem natCast_inverse_order (value : Nat) :
    ((inverse order value : Nat) : Scalar) = (value : Scalar)⁻¹ :=
  natCast_inverse (by decide) (by decide) value

theorem scalar_ne_zero {value : Nat} (positive : value ≠ 0) (small : value < order) :
    (value : Scalar) ≠ 0 := by
  rw [ne_eq, ZMod.natCast_eq_zero_iff]
  exact fun divides => positive (Nat.eq_zero_of_dvd_of_lt divides small)

/-! ### The two numbers of a signature -/

/-- A digest and a signature have their forms, and neither number of the signature is zero. -/
structure IsSignature (digest signature : Bytes) (r s : Nat) : Prop where
  digestSized : digest.length = 32
  read : readSignature? signature = some (r, s)
  rNonzero : r ≠ 0
  sNonzero : s ≠ 0

theorem readSignature?_eq_some {signature : Bytes} {r s : Nat}
    (read : readSignature? signature = some (r, s)) :
    signature.length = 64 ∧ r < order ∧ s < order ∧ s = Bytes.toNat (signature.drop 32) := by
  unfold readSignature? at read
  split at read
  · rename_i sized
    simp only at read
    split at read
    · rename_i small
      obtain ⟨rfl, rfl⟩ := Prod.mk.inj (Option.some.inj read)
      exact ⟨sized, small.1, small.2, rfl⟩
    · cases read
  · cases read

namespace IsSignature

variable {digest signature : Bytes} {r s : Nat}

theorem r_ne_zero (isSignature : IsSignature digest signature r s) : (r : Scalar) ≠ 0 :=
  scalar_ne_zero isSignature.rNonzero (readSignature?_eq_some isSignature.read).2.1

theorem s_ne_zero (isSignature : IsSignature digest signature r s) : (s : Scalar) ≠ 0 :=
  scalar_ne_zero isSignature.sNonzero (readSignature?_eq_some isSignature.read).2.2.1

end IsSignature

/-! ### Verification -/

theorem isOnCurve_of_readKey? {key : Bytes} {x y : Nat} (read : readKey? key = some (x, y)) :
    IsOnCurve x y := by
  cases key with
  | nil => cases read
  | cons form coordinates =>
    rw [readKey?] at read
    split at read
    · obtain ⟨rfl, onCurve, -⟩ := lift?_eq_some_iff.mp read
      exact onCurve
    split at read
    · extract_lets first second at read
      split at read
      · cases read
      rename_i small
      split at read
      · cases read
      rename_i equation
      split at read
      · cases read
      split at read
      · cases read
      obtain ⟨rfl, rfl⟩ := Prod.mk.inj (Option.some.inj read)
      rw [not_or, Nat.not_le, Nat.not_le] at small
      exact ⟨small.1, small.2, not_not.mp equation⟩
    · cases read

/-- The point that verification compares with a signature. -/
def verified (message r s : Nat) (key : curve.Point) : curve.Point :=
  ((message : Scalar) / s) • base + ((r : Scalar) / s) • key

theorem toAffine?_verified {x y : Nat} (onCurve : IsOnCurve x y) (message r s : Nat) :
    (Point.add (Point.times (message % order * inverse order s % order) Point.generator)
        (Point.times (r * inverse order s % order) (Point.ofAffine x y))).toAffine? =
      Point.coordinates? (verified message r s onCurve.point) := by
  rw [toAffine?_sum onCurve, verified, div_eq_mul_inv, div_eq_mul_inv, Nat.cast_mul, Nat.cast_mul,
    ZMod.natCast_mod, natCast_inverse_order]

/-- A signature of a digest is the key's: the point that belongs to it and the key has the first
number, modulo the order, for its first coordinate. -/
inductive IsSigned (key digest signature : Bytes) : Prop
  | mk {x y r s first second : Nat} (onCurve : IsOnCurve x y) (readKey : readKey? key = some (x, y))
      (isSignature : IsSignature digest signature r s)
      (coordinates : Point.coordinates? (verified (Bytes.toNat digest) r s onCurve.point) =
        some (first, second))
      (isFirst : first % order = r) : IsSigned key digest signature

/-- A signature verifies a key if it is the key's and its second number is the smaller one of the
two. -/
theorem verify_eq_true_iff {key digest signature : Bytes} :
    verify key digest signature = true ↔
      IsSigned key digest signature ∧ Bytes.toNat (signature.drop 32) ≤ order / 2 := by
  constructor
  · intro accepted
    unfold verify at accepted
    split at accepted
    · rename_i x y r s readKey readSignature
      split at accepted
      · cases accepted
      rename_i formed
      rw [not_or, not_or, not_or, not_not, Nat.not_lt] at formed
      obtain ⟨sized, rNonzero, sNonzero, low⟩ := formed
      have onCurve := isOnCurve_of_readKey? readKey
      obtain ⟨-, -, -, isSecond⟩ := readSignature?_eq_some readSignature
      extract_lets inverted message sum at accepted
      rw [toAffine?_verified onCurve] at accepted
      split at accepted
      · rename_i first second coordinates
        exact ⟨.mk onCurve readKey ⟨sized, readSignature, rNonzero, sNonzero⟩ coordinates
          (beq_iff_eq.mp accepted), isSecond ▸ low⟩
      · cases accepted
    · cases accepted
  · rintro ⟨⟨onCurve, readKey, isSignature, coordinates, isFirst⟩, low⟩
    obtain ⟨-, -, -, isSecond⟩ := readSignature?_eq_some isSignature.read
    rw [← isSecond] at low
    have formed := not_or.mpr ⟨not_not.mpr isSignature.digestSized, not_or.mpr
      ⟨isSignature.rNonzero, not_or.mpr ⟨isSignature.sNonzero, Nat.not_lt.mpr low⟩⟩⟩
    rw [verify, readKey, isSignature.read]
    simp only
    rw [if_neg formed, toAffine?_verified onCurve, coordinates]
    exact beq_iff_eq.mpr isFirst

/-! ### Recovery -/

/-- The key that recovery solves for. -/
def recovered (message r s : Nat) (point : curve.Point) : curve.Point :=
  (-(message : Scalar) / r) • base + ((s : Scalar) / r) • point

/-- The key that is recovered gives back the point of the signature. -/
theorem verified_recovered {message r s : Nat} (rNonzero : (r : Scalar) ≠ 0)
    (sNonzero : (s : Scalar) ≠ 0) (point : curve.Point) :
    verified message r s (recovered message r s point) = point := by
  unfold verified recovered
  match_scalars
  · field_simp
    ring
  · field_simp

theorem toAffine?_recovered {x y : Nat} (onCurve : IsOnCurve x y) (message r s : Nat) :
    (Point.add (Point.times ((order - message % order) * inverse order r % order) Point.generator)
        (Point.times (s * inverse order r % order) (Point.ofAffine x y))).toAffine? =
      Point.coordinates? (recovered message r s onCurve.point) := by
  have below : message % order ≤ order := (Nat.mod_lt message order_prime.pos).le
  rw [toAffine?_sum onCurve, recovered, div_eq_mul_inv, div_eq_mul_inv, Nat.cast_mul, Nat.cast_mul,
    Nat.cast_sub below, ZMod.natCast_self, zero_sub, ZMod.natCast_mod, natCast_inverse_order]

/-- A key is one that recovery solves for, from a point whose first coordinate is the first number
of the signature, modulo the order. -/
inductive IsSolution (key digest signature : Bytes) : Prop
  | mk {x y r s first second : Nat} (onCurve : IsOnCurve x y)
      (isSignature : IsSignature digest signature r s) (isFirst : x % order = r)
      (coordinates : Point.coordinates? (recovered (Bytes.toNat digest) r s onCurve.point) =
        some (first, second))
      (isKey : key = writeKey first second) : IsSolution key digest signature

theorem isSolution_of_recover {digest signature key : Bytes} {number : Int}
    (succeeded : recover digest signature number = .ok key) : IsSolution key digest signature := by
  unfold recover at succeeded
  split at succeeded
  · cases succeeded
  split at succeeded
  · cases succeeded
  split at succeeded
  · cases succeeded
  rename_i digestSized
  split at succeeded
  · cases succeeded
  rename_i r s read
  split at succeeded
  · cases succeeded
  rename_i nonzero
  split at succeeded
  · cases succeeded
  rename_i x y lifted
  obtain ⟨isFirst, onCurve, -⟩ := lift?_eq_some_iff.mp lifted
  rw [← isFirst] at onCurve
  extract_lets inverted message sum at succeeded
  rw [toAffine?_recovered onCurve] at succeeded
  split at succeeded
  · rename_i first second coordinates
    refine .mk onCurve ⟨not_not.mp digestSized, read, ?_, ?_⟩ ?_ coordinates
      (Except.ok.inj succeeded).symm
    · exact fun zero => nonzero (.inl zero)
    · exact fun zero => nonzero (.inr zero)
    · have small := (readSignature?_eq_some read).2.1
      rw [isFirst]
      split
      · rw [Nat.add_mod_right, Nat.mod_eq_of_lt small]
      · exact Nat.mod_eq_of_lt small
  · cases succeeded

/-- A signature is the signature of every key that recovery solves for. -/
theorem IsSolution.isSigned {key digest signature : Bytes}
    (isSolution : IsSolution key digest signature) : IsSigned key digest signature := by
  obtain ⟨onCurve, isSignature, isFirst, coordinates, rfl⟩ := isSolution
  obtain ⟨keyOnCurve, isKey⟩ := IsOnCurve.of_coordinates? coordinates
  refine .mk keyOnCurve (readKey?_writeKey keyOnCurve) isSignature
    (Eq.trans ?_ onCurve.coordinates?_point) isFirst
  rw [isKey, verified_recovered isSignature.r_ne_zero isSignature.s_ne_zero]

end Bolt11.Secp256k1
