/-
This file proves that the curve has as many points as the order says, so that every point vanishes
when it is multiplied by the order.

The multiple of the generator is computed. It shows that the number of points is a multiple of the
order, and since a point is determined by its first coordinate and by whether the second one is
odd, there are too few points for three times the order. Twice the order is ruled out because a
group with an even number of elements has one that is its own opposite: a point of the curve is its
own opposite only if its second coordinate is zero, and minus seven has no third root.
-/

import Bolt11.Proofs.Secp256k1.Points
import Mathlib.GroupTheory.Perm.Cycle.Type

namespace Bolt11.Secp256k1

instance : Fact order.Prime := ⟨order_prime⟩

/-! ### Opposite coordinates -/

/-- Of two different opposite residues just one is odd. -/
theorem eq_of_parity {y other : Coordinate} (opposite : y = -other)
    (parity : y.val % 2 = other.val % 2) : y = other := by
  rw [opposite, ZMod.neg_val] at parity
  split at parity
  · rename_i zero
    rw [opposite, zero, neg_zero]
  · have below := ZMod.val_lt other
    have odd : prime % 2 = 1 := by decide
    omega

/-- Points with the same first coordinate, and second coordinates that are both odd or both even,
are the same. -/
theorem eq_of_equation {x y other : Coordinate} (onCurve : y ^ 2 = x ^ 3 + 7)
    (onCurveToo : other ^ 2 = x ^ 3 + 7) (parity : y.val % 2 = other.val % 2) : y = other := by
  rcases sq_eq_sq_iff_eq_or_eq_neg.mp (onCurve.trans onCurveToo.symm) with same | opposite
  · exact same
  · exact eq_of_parity opposite parity

/-- No point has a second coordinate of zero. -/
theorem ordinate_ne_zero {x y : Coordinate} (onCurve : y ^ 2 = x ^ 3 + 7) : y ≠ 0 := by
  rintro rfl
  have cube : x ^ 3 = ((prime - 7 : Nat) : Coordinate) := by
    rw [Nat.cast_sub (by decide), ZMod.natCast_self, Nat.cast_ofNat]
    linear_combination -onCurve
  have nonzero : x ≠ 0 := by
    rintro rfl
    rw [zero_pow three_ne_zero] at cube
    exact natCast_ne_zero (by decide) (by decide) cube.symm
  -- the powers of a third power go back to one in a third of the steps
  have one : (((prime - 7) ^ ((prime - 1) / 3) : Nat) : Coordinate) = ((1 : Nat) : Coordinate) := by
    rw [Nat.cast_pow, ← cube, ← pow_mul, show 3 * ((prime - 1) / 3) = prime - 1 by decide,
      ZMod.pow_card_sub_one_eq_one nonzero, Nat.cast_one]
  rw [ZMod.natCast_eq_natCast_iff', ← power_eq (by decide) (by decide)] at one
  exact absurd one (by decide +kernel)

/-! ### The generator -/

/-- Numbers that meet the equation modulo the prime are a point of the curve. -/
theorem regular_of_mod_eq {x y : Nat} (onCurve : y * y % prime = (x * x % prime * x + 7) % prime) :
    curve.Nonsingular (x : Coordinate) (y : Coordinate) := by
  have casts := congrArg (Nat.cast : Nat → Coordinate) onCurve
  simp only [ZMod.natCast_mod, Nat.cast_mul, Nat.cast_add, Nat.cast_ofNat] at casts
  rw [nonsingular_iff]
  linear_combination casts

/-- The generator as a point of the curve. -/
def base : curve.Point := .some _ _ (regular_of_mod_eq (show
  Point.generator.y * Point.generator.y % prime =
    (Point.generator.x * Point.generator.x % prime * Point.generator.x + 7) % prime by decide))

theorem standsFor_generator : Point.StandsFor Point.generator base :=
  Point.standsFor_ofAffine (by decide) _

theorem base_ne_zero : base ≠ 0 := WeierstrassCurve.Affine.Point.some_ne_zero _

theorem order_nsmul_base : order • base = 0 := by
  have stands := Point.standsFor_times standsFor_generator (show order < 2 ^ 256 by decide)
  have flat : (Point.times order Point.generator).z = 0 := by decide +kernel
  generalize order • base = target at stands
  cases stands with
  | neutral => rfl
  | affine _ _ steep => exact absurd (by rw [flat, Nat.cast_zero]) steep

/-! ### The number of points -/

/-- What determines a point: its first coordinate, and whether the second one is odd. -/
def compressed : curve.Point → Option (Coordinate × Bool)
  | .zero => none
  | .some x y _ => some (x, y.val % 2 == 1)

theorem compressed_injective : Function.Injective compressed := by
  intro point other same
  cases point with
  | zero =>
    cases other with
    | zero => rfl
    | some => cases same
  | some x y regular =>
    cases other with
    | zero => cases same
    | some xToo yToo regularToo =>
      obtain ⟨rfl, parity⟩ := Prod.mk.inj (Option.some.inj same)
      obtain rfl : y = yToo := by
        refine eq_of_equation (nonsingular_iff.mp regular) (nonsingular_iff.mp regularToo) ?_
        rw [Bool.eq_iff_iff, beq_iff_eq, beq_iff_eq] at parity
        omega
      rfl

instance : Finite curve.Point := Finite.of_injective compressed compressed_injective

/-- No point but the neutral one is its own opposite. -/
theorem addOrderOf_ne_two (point : curve.Point) : addOrderOf point ≠ 2 := by
  intro two
  have twice := addOrderOf_nsmul_eq_zero point
  rw [two, two_nsmul] at twice
  cases point with
  | zero =>
    rw [WeierstrassCurve.Affine.Point.zero_def.symm, addOrderOf_zero] at two
    cases two
  | some x y regular =>
    have nonzero := ordinate_ne_zero (nonsingular_iff.mp regular)
    rw [WeierstrassCurve.Affine.Point.add_self_of_Y_ne fun same => nonzero (eq_negY_iff.mp same)]
      at twice
    exact WeierstrassCurve.Affine.Point.some_ne_zero _ twice

/-- The curve has as many points as the order says. -/
theorem card_points : Nat.card curve.Point = order := by
  have divides : order ∣ Nat.card curve.Point := by
    rw [← addOrderOf_eq_prime order_nsmul_base base_ne_zero]
    exact addOrderOf_dvd_natCard base
  have few : Nat.card curve.Point ≤ 2 * prime + 1 := by
    refine (Nat.card_le_card_of_injective compressed compressed_injective).trans_eq ?_
    rw [Nat.card_eq_fintype_card, Fintype.card_option, Fintype.card_prod, ZMod.card,
      Fintype.card_bool, Nat.mul_comm]
  have even : ¬ 2 ∣ Nat.card curve.Point := by
    intro even
    obtain ⟨point, isTwo⟩ := exists_prime_addOrderOf_dvd_card' 2 even
    exact addOrderOf_ne_two point isTwo
  have some_point : 0 < Nat.card curve.Point := Nat.card_pos
  obtain ⟨count, total⟩ := divides
  rw [total] at few even some_point ⊢
  have below : count < 3 := by
    by_contra large
    have bound : order * 3 ≤ order * count := Nat.mul_le_mul_left order (Nat.not_lt.mp large)
    exact absurd (bound.trans few) (by decide)
  have cases : count = 0 ∨ count = 1 ∨ count = 2 := by omega
  rcases cases with rfl | rfl | rfl
  · exact absurd some_point (by decide)
  · exact Nat.mul_one order
  · exact absurd (Nat.dvd_mul_left 2 order) even

/-- Every point vanishes when it is multiplied by the order. -/
theorem order_nsmul (point : curve.Point) : order • point = 0 := by
  rw [← card_points]
  exact card_nsmul_eq_zero'

end Bolt11.Secp256k1
