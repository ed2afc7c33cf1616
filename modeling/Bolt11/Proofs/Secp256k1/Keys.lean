/-
This file proves that a public key of thirty-three octets is read back to the point that was
written.

Since the prime leaves three when it is divided by four, a square has a certain power of itself for
its root. Of the two roots just one is odd, because no point of the curve has a second coordinate of
zero, so whether it is odd and the first coordinate are enough to find the point again.
-/

import Bolt11.Proofs.Octets
import Bolt11.Proofs.Secp256k1.Order

namespace Bolt11.Secp256k1

/-! ### Points as two numbers -/

/-- Two numbers are the coordinates of a point. -/
structure IsOnCurve (x y : Nat) : Prop where
  xSmall : x < prime
  ySmall : y < prime
  equation : y * y % prime = (x * x % prime * x + 7) % prime

namespace IsOnCurve

variable {x y : Nat}

theorem regular (onCurve : IsOnCurve x y) : curve.Nonsingular (x : Coordinate) (y : Coordinate) :=
  regular_of_mod_eq onCurve.equation

/-- The point that has the coordinates. -/
def point (onCurve : IsOnCurve x y) : curve.Point := .some _ _ onCurve.regular

theorem standsFor_point (onCurve : IsOnCurve x y) :
    Point.StandsFor (Point.ofAffine x y) onCurve.point :=
  Point.standsFor_ofAffine onCurve.ySmall onCurve.regular

theorem coordinates?_point (onCurve : IsOnCurve x y) :
    Point.coordinates? onCurve.point = some (x, y) := by
  show some ((x : Coordinate).val, (y : Coordinate).val) = _
  rw [ZMod.val_natCast_of_lt onCurve.xSmall, ZMod.val_natCast_of_lt onCurve.ySmall]

/-- The coordinates of a point are on the curve, and they are the coordinates of that point. -/
theorem of_coordinates? {target : curve.Point} (coordinates : Point.coordinates? target = some (x, y)) :
    ∃ onCurve : IsOnCurve x y, onCurve.point = target := by
  cases target with
  | zero => cases coordinates
  | some xOwn yOwn regular =>
    obtain ⟨rfl, rfl⟩ := Prod.mk.inj (Option.some.inj coordinates)
    have onCurve : IsOnCurve xOwn.val yOwn.val := by
      refine ⟨ZMod.val_lt xOwn, ZMod.val_lt yOwn, ?_⟩
      refine (ZMod.natCast_eq_natCast_iff' _ _ prime).mp ?_
      have equation := nonsingular_iff.mp regular
      simp only [ZMod.natCast_mod, Nat.cast_mul, Nat.cast_add, Nat.cast_ofNat,
        ZMod.natCast_zmod_val]
      linear_combination equation
    refine ⟨onCurve, ?_⟩
    rw [point, WeierstrassCurve.Affine.Point.some.injEq]
    exact ⟨ZMod.natCast_zmod_val xOwn, ZMod.natCast_zmod_val yOwn⟩

theorem y_ne_zero (onCurve : IsOnCurve x y) : y ≠ 0 := by
  rintro rfl
  exact ordinate_ne_zero (nonsingular_iff.mp onCurve.regular) Nat.cast_zero

/-- The other point with the same first coordinate. -/
theorem neg (onCurve : IsOnCurve x y) : IsOnCurve x (prime - y) := by
  refine ⟨onCurve.xSmall, Nat.sub_lt prime_prime.pos (Nat.pos_of_ne_zero onCurve.y_ne_zero), ?_⟩
  rw [← onCurve.equation]
  refine (ZMod.natCast_eq_natCast_iff' _ _ prime).mp ?_
  rw [Nat.cast_mul, Nat.cast_mul, Nat.cast_sub onCurve.ySmall.le, ZMod.natCast_self]
  ring

/-- Points with the same first coordinate, and second coordinates that are both odd or both even,
are the same. -/
theorem eq_of_parity {other : Nat} (onCurve : IsOnCurve x y) (onCurveToo : IsOnCurve x other)
    (parity : y % 2 = other % 2) : y = other := by
  have same := eq_of_equation (nonsingular_iff.mp onCurve.regular)
    (nonsingular_iff.mp onCurveToo.regular) (by
      rwa [ZMod.val_natCast_of_lt onCurve.ySmall, ZMod.val_natCast_of_lt onCurveToo.ySmall])
  have values := congrArg ZMod.val same
  rwa [ZMod.val_natCast_of_lt onCurve.ySmall, ZMod.val_natCast_of_lt onCurveToo.ySmall] at values

end IsOnCurve

/-! ### From one coordinate to the other -/

/-- The root that is tried for the second coordinate. -/
def root (x : Nat) : Nat := power prime ((x * x % prime * x + 7) % prime) ((prime + 1) / 4)

theorem lift?_eq (x : Nat) (odd : Bool) :
    lift? x odd =
      if prime ≤ x then none
      else if root x * root x % prime ≠ (x * x % prime * x + 7) % prime then none
      else if (root x % 2 == 1) == odd then some (x, root x)
      else some (x, sub 0 (root x)) := rfl

/-- If there is a point with a first coordinate, the root that is tried is one. -/
theorem root_mul_root {x y : Nat} (onCurve : IsOnCurve x y) :
    root x * root x % prime = (x * x % prime * x + 7) % prime := by
  rw [← onCurve.equation]
  refine (ZMod.natCast_eq_natCast_iff' _ _ prime).mp ?_
  have nonzero : (y : Coordinate) ≠ 0 :=
    natCast_ne_zero (Nat.pos_of_ne_zero onCurve.y_ne_zero) onCurve.ySmall
  have halves : 2 * ((prime + 1) / 4) * 2 = prime - 1 + 2 := by decide
  have rootCast : ((root x : Nat) : Coordinate) = (y : Coordinate) ^ (2 * ((prime + 1) / 4)) := by
    rw [root, power_eq (by decide) (by decide), ← onCurve.equation, ZMod.natCast_mod, Nat.cast_pow,
      ZMod.natCast_mod, Nat.cast_mul, ← sq, ← pow_mul]
  rw [Nat.cast_mul, Nat.cast_mul, rootCast, ← sq, ← pow_mul, halves, pow_add,
    ZMod.pow_card_sub_one_eq_one nonzero, one_mul, sq]

/-- If the root that is tried is one, then a first coordinate is completed to a point whose second
coordinate is odd or even as asked. -/
theorem exists_lift? {x : Nat} (onCurve : IsOnCurve x (root x)) (odd : Bool) :
    ∃ y, lift? x odd = some (x, y) ∧ IsOnCurve x y ∧ (y % 2 == 1) = odd := by
  rw [lift?_eq, if_neg (Nat.not_le.mpr onCurve.xSmall), if_neg (not_not.mpr onCurve.equation)]
  by_cases asked : (root x % 2 == 1) = odd
  · exact ⟨root x, if_pos (beq_iff_eq.mpr asked), onCurve, asked⟩
  · have small := onCurve.ySmall
    have positive := onCurve.y_ne_zero
    have other : sub 0 (root x) = prime - root x := by
      rw [sub, Nat.zero_add, Nat.mod_eq_of_lt small, Nat.mod_eq_of_lt (by omega)]
    have parity : ((prime - root x) % 2 == 1) = !(root x % 2 == 1) := by
      have odd : prime % 2 = 1 := by decide
      rw [Bool.eq_iff_iff, Bool.not_eq_true', beq_iff_eq, beq_eq_false_iff_ne]
      omega
    refine ⟨prime - root x, ?_, onCurve.neg, ?_⟩
    · rw [if_neg (fun same => asked (beq_iff_eq.mp same)), other]
    · rw [parity]
      exact (Bool.eq_not.mpr (Ne.symm asked)).symm

/-- A first coordinate is completed to the point that has it and is odd or even as asked, and to
nothing if there is none. -/
theorem lift?_eq_some_iff {x first y : Nat} {odd : Bool} :
    lift? x odd = some (first, y) ↔ first = x ∧ IsOnCurve x y ∧ (y % 2 == 1) = odd := by
  constructor
  · intro lifted
    have onCurve : IsOnCurve x (root x) := by
      rw [lift?_eq] at lifted
      split at lifted
      · cases lifted
      rename_i small
      split at lifted
      · cases lifted
      rename_i isRoot
      exact ⟨Nat.not_le.mp small, Nat.mod_lt _ prime_prime.pos, not_not.mp isRoot⟩
    obtain ⟨own, found, isPoint, parity⟩ := exists_lift? onCurve odd
    obtain ⟨rfl, rfl⟩ := Prod.mk.inj (Option.some.inj (lifted.symm.trans found))
    exact ⟨rfl, isPoint, parity⟩
  · rintro ⟨rfl, onCurve, rfl⟩
    have isRoot : IsOnCurve first (root first) :=
      ⟨onCurve.xSmall, Nat.mod_lt _ prime_prime.pos, root_mul_root onCurve⟩
    obtain ⟨own, found, isPoint, parity⟩ := exists_lift? isRoot (y % 2 == 1)
    have same : own = y := isPoint.eq_of_parity onCurve (by
      rw [Bool.eq_iff_iff, beq_iff_eq, beq_iff_eq] at parity
      omega)
    rw [found, same]

/-! ### Keys -/

/-- A written key is read back. -/
theorem readKey?_writeKey {x y : Nat} (onCurve : IsOnCurve x y) :
    readKey? (writeKey x y) = some (x, y) := by
  have fits : x < 256 ^ 32 := onCurve.xSmall.trans (by decide)
  rcases Nat.mod_two_eq_zero_or_one y with even | odd
  · rw [writeKey, if_pos even, readKey?, if_pos ⟨Bytes.length_ofNat 32 x, .inl rfl⟩,
      Bytes.toNat_ofNat, Nat.mod_eq_of_lt fits]
    exact lift?_eq_some_iff.mpr ⟨rfl, onCurve, by rw [even]; rfl⟩
  · rw [writeKey, if_neg (by omega), readKey?, if_pos ⟨Bytes.length_ofNat 32 x, .inr rfl⟩,
      Bytes.toNat_ofNat, Nat.mod_eq_of_lt fits]
    exact lift?_eq_some_iff.mpr ⟨rfl, onCurve, by rw [odd]; rfl⟩

end Bolt11.Secp256k1
