/-
This file proves that the points of the curve are added up as they should be.

The points in projective form stand for points of the curve over the field of the residues, where
the sum of two points is a definition of the library and a group. Doubling and adding are the
tangent and the chord of that definition without its divisions, with the cases in which there is no
slope sorted out first: coordinates are kept below the prime, so that two of them are the same
residue only if they are the same number. What every step keeps, the multiples inherit.
-/

import Bolt11.Proofs.Secp256k1.Powers
import Mathlib.AlgebraicGeometry.EllipticCurve.Affine.Point
import Mathlib.Tactic.FieldSimp
import Mathlib.Tactic.LinearCombination

namespace Bolt11.Secp256k1

instance : Fact prime.Prime := ⟨prime_prime⟩

/-! ### Residues -/

/-- A coordinate is a residue modulo the prime. -/
abbrev Coordinate := ZMod prime

theorem sub_lt (left right : Nat) : sub left right < prime := Nat.mod_lt _ prime_prime.pos

theorem natCast_sub (left right : Nat) :
    ((sub left right : Nat) : Coordinate) = left - right := by
  have below : right % prime ≤ prime := (Nat.mod_lt right prime_prime.pos).le
  rw [sub, ZMod.natCast_mod, Nat.cast_add, Nat.cast_sub below, ZMod.natCast_self, zero_sub,
    ZMod.natCast_mod, sub_eq_add_neg]

theorem natCast_eq_zero_iff {value : Nat} (small : value < prime) :
    (value : Coordinate) = 0 ↔ value = 0 := by
  rw [ZMod.natCast_eq_zero_iff]
  exact ⟨fun divides => Nat.eq_zero_of_dvd_of_lt divides small, fun zero => zero ▸ dvd_zero _⟩

theorem natCast_ne_zero {value : Nat} (positive : 0 < value) (small : value < prime) :
    (value : Coordinate) ≠ 0 :=
  fun zero => positive.ne' ((natCast_eq_zero_iff small).mp zero)

theorem two_ne_zero : (2 : Coordinate) ≠ 0 := by
  exact_mod_cast natCast_ne_zero (show 0 < 2 by decide) (by decide)

/-- The inverse of a residue is its inverse. -/
theorem natCast_inverse {modulus : Nat} [Fact modulus.Prime] (large : 2 < modulus)
    (small : modulus < 2 ^ 256) (value : Nat) :
    ((inverse modulus value : Nat) : ZMod modulus) = (value : ZMod modulus)⁻¹ := by
  rw [inverse, power_eq (by omega) (by omega), ZMod.natCast_mod, Nat.cast_pow]
  rcases eq_or_ne (value : ZMod modulus) 0 with zero | nonzero
  · rw [zero, zero_pow (by omega), inv_zero]
  · refine eq_inv_of_mul_eq_one_left ?_
    rw [← pow_succ, show modulus - 2 + 1 = modulus - 1 by omega, ZMod.pow_card_sub_one_eq_one nonzero]

/-! ### The curve -/

/-- The curve y² = x³ + 7. -/
def curve : WeierstrassCurve.Affine Coordinate := ⟨0, 0, 0, 0, 7⟩

theorem equation_iff {x y : Coordinate} : curve.Equation x y ↔ y ^ 2 = x ^ 3 + 7 := by
  rw [WeierstrassCurve.Affine.equation_iff]
  simp only [curve, zero_mul, add_zero]

/-- The curve has a tangent everywhere. -/
theorem nonsingular_iff {x y : Coordinate} : curve.Nonsingular x y ↔ y ^ 2 = x ^ 3 + 7 := by
  rw [← equation_iff]
  refine (WeierstrassCurve.Affine.equation_iff_nonsingular_of_Δ_ne_zero ?_).symm
  have discriminant : curve.Δ = -((21168 : Nat) : Coordinate) := by
    simp only [curve, WeierstrassCurve.Δ, WeierstrassCurve.b₂, WeierstrassCurve.b₄,
      WeierstrassCurve.b₆, WeierstrassCurve.b₈]
    norm_num
  rw [discriminant, neg_ne_zero]
  exact natCast_ne_zero (by decide) (by decide)

theorem negY_eq (x y : Coordinate) : curve.negY x y = -y := by
  simp only [WeierstrassCurve.Affine.negY, curve, zero_mul, sub_zero]

theorem eq_negY_iff {x y : Coordinate} : y = curve.negY x y ↔ y = 0 := by
  rw [negY_eq, eq_neg_iff_add_eq_zero, ← two_mul, mul_eq_zero, or_iff_right two_ne_zero]

theorem addX_eq (x other slope : Coordinate) :
    curve.addX x other slope = slope ^ 2 - x - other := by
  simp only [WeierstrassCurve.Affine.addX, curve, zero_mul, add_zero, sub_zero]

theorem addY_eq (x other y slope : Coordinate) :
    curve.addY x other y slope = slope * (x - curve.addX x other slope) - y := by
  rw [WeierstrassCurve.Affine.addY, negY_eq, WeierstrassCurve.Affine.negAddY]
  ring

namespace Point

/-! ### What a projective point stands for -/

/-- A point in projective form stands for a point of the curve. -/
inductive StandsFor : Point → curve.Point → Prop
  | neutral {point : Point} (flat : point.z = 0) : StandsFor point 0
  | affine {point : Point} {x y : Coordinate} {regular : curve.Nonsingular x y}
      (ySmall : point.y < prime) (zSmall : point.z < prime) (steep : (point.z : Coordinate) ≠ 0)
      (xScaled : (point.x : Coordinate) = x * point.z ^ 2)
      (yScaled : (point.y : Coordinate) = y * point.z ^ 3) :
      StandsFor point (.some x y regular)

theorem standsFor_neutral : StandsFor neutral 0 := .neutral rfl

theorem standsFor_ofAffine {x y : Nat} (ySmall : y < prime)
    (regular : curve.Nonsingular (x : Coordinate) (y : Coordinate)) :
    StandsFor (ofAffine x y) (.some _ _ regular) := by
  have one : ((1 : Nat) : Coordinate) ≠ 0 := by
    rw [Nat.cast_one]
    exact one_ne_zero
  refine .affine ySmall prime_prime.one_lt one ?_ ?_
  · simp only [ofAffine, Nat.cast_one, one_pow, mul_one]
  · simp only [ofAffine, Nat.cast_one, one_pow, mul_one]

/-! ### Doubling and adding -/

theorem double_of_z_eq_zero {point : Point} (flat : point.z = 0) : double point = neutral := by
  rw [double, if_pos (.inl flat)]

/-- A doubled point stands for the sum of a point with itself. -/
theorem standsFor_double {point : Point} {target : curve.Point} (stands : StandsFor point target) :
    StandsFor (double point) (target + target) := by
  cases stands with
  | neutral flat =>
    rw [double_of_z_eq_zero flat, add_zero]
    exact standsFor_neutral
  | @affine x y regular ySmall zSmall steep xScaled yScaled =>
    have zNonzero : point.z ≠ 0 := fun zero => steep ((natCast_eq_zero_iff zSmall).mpr zero)
    rcases eq_or_ne point.y 0 with yZero | yNonzero
    · -- the tangent is vertical
      have zero : y = 0 := by
        have product := yScaled
        rw [yZero, Nat.cast_zero] at product
        exact (mul_eq_zero.mp product.symm).resolve_right (pow_ne_zero 3 steep)
      rw [WeierstrassCurve.Affine.Point.add_self_of_Y_eq (eq_negY_iff.mpr zero), double,
        if_pos (.inr yZero)]
      exact standsFor_neutral
    · have nonzero : y ≠ 0 := by
        rintro rfl
        rw [zero_mul] at yScaled
        exact yNonzero ((natCast_eq_zero_iff ySmall).mp yScaled)
      have tangent : y ≠ curve.negY x y := fun same => nonzero (eq_negY_iff.mp same)
      have slope : curve.slope x x y y * (2 * y) = 3 * x ^ 2 := by
        rw [WeierstrassCurve.Affine.slope_of_Y_ne rfl tangent, negY_eq]
        simp only [curve, zero_mul, mul_zero, add_zero, sub_zero, sub_neg_eq_add, ← two_mul]
        exact div_mul_cancel₀ _ (mul_ne_zero two_ne_zero nonzero)
      rw [WeierstrassCurve.Affine.Point.add_self_of_Y_ne tangent, double,
        if_neg (not_or.mpr ⟨zNonzero, yNonzero⟩)]
      have zCast : ((2 * point.y * point.z % prime : Nat) : Coordinate) =
          2 * y * (point.z : Coordinate) ^ 4 := by
        rw [ZMod.natCast_mod, Nat.cast_mul, Nat.cast_mul, yScaled, Nat.cast_ofNat]
        ring
      refine .affine (Nat.mod_lt _ prime_prime.pos) (Nat.mod_lt _ prime_prime.pos) ?_ ?_ ?_
      · rw [zCast]
        exact mul_ne_zero (mul_ne_zero two_ne_zero nonzero) (pow_ne_zero 4 steep)
      · rw [zCast]
        simp only [natCast_sub, ZMod.natCast_mod, Nat.cast_mul, Nat.cast_ofNat, xScaled, yScaled,
          addX_eq]
        generalize curve.slope x x y y = steepness at slope
        linear_combination -(steepness * (2 * y) + 3 * x ^ 2) * (point.z : Coordinate) ^ 8 * slope
      · rw [zCast]
        simp only [natCast_sub, ZMod.natCast_mod, Nat.cast_mul, Nat.cast_ofNat, xScaled, yScaled,
          addX_eq, addY_eq]
        generalize curve.slope x x y y = steepness at slope
        linear_combination ((steepness * (2 * y)) ^ 2 + steepness * (2 * y) * (3 * x ^ 2) +
          (3 * x ^ 2) ^ 2 - 12 * x * y ^ 2) * (point.z : Coordinate) ^ 12 * slope

/-- A sum stands for the sum. -/
theorem standsFor_add {left right : Point} {target other : curve.Point}
    (stands : StandsFor left target) (standsToo : StandsFor right other) :
    StandsFor (add left right) (target + other) := by
  cases stands with
  | neutral flat =>
    rw [add, if_pos flat, zero_add]
    exact standsToo
  | @affine x y regular ySmall zSmall steep xScaled yScaled =>
    have zNonzero : left.z ≠ 0 := fun zero => steep ((natCast_eq_zero_iff zSmall).mpr zero)
    cases standsToo with
    | neutral flat =>
      rw [add, if_neg zNonzero, if_pos flat, add_zero]
      exact .affine ySmall zSmall steep xScaled yScaled
    | @affine xToo yToo regularToo ySmallToo zSmallToo steepToo xScaledToo yScaledToo =>
      have zNonzeroToo : right.z ≠ 0 :=
        fun zero => steepToo ((natCast_eq_zero_iff zSmallToo).mpr zero)
      have scaled : (left.z * right.z : Coordinate) ≠ 0 := mul_ne_zero steep steepToo
      rw [add, if_neg zNonzero, if_neg zNonzeroToo]
      extract_lets leftSquare rightSquare u s h r hSquare hCube v x₃
      have uCast : (u : Coordinate) = x * (left.z * right.z) ^ 2 := by
        simp only [u, rightSquare, ZMod.natCast_mod, Nat.cast_mul, xScaled]
        ring
      have sCast : (s : Coordinate) = y * (left.z * right.z) ^ 3 := by
        simp only [s, rightSquare, ZMod.natCast_mod, Nat.cast_mul, yScaled]
        ring
      have hCast : (h : Coordinate) = (xToo - x) * (left.z * right.z) ^ 2 := by
        simp only [h, natCast_sub, leftSquare, ZMod.natCast_mod, Nat.cast_mul, uCast, xScaledToo]
        ring
      have rCast : (r : Coordinate) = (yToo - y) * (left.z * right.z) ^ 3 := by
        simp only [r, natCast_sub, leftSquare, ZMod.natCast_mod, Nat.cast_mul, sCast, yScaledToo]
        ring
      have hSmall : h < prime := sub_lt _ _
      have rSmall : r < prime := sub_lt _ _
      have hZero : h = 0 ↔ x = xToo := by
        rw [← natCast_eq_zero_iff hSmall, hCast, mul_eq_zero,
          or_iff_left (pow_ne_zero 2 scaled), sub_eq_zero, eq_comm]
      have rZero : r = 0 ↔ y = yToo := by
        rw [← natCast_eq_zero_iff rSmall, rCast, mul_eq_zero,
          or_iff_left (pow_ne_zero 3 scaled), sub_eq_zero, eq_comm]
      by_cases sameX : x = xToo
      · rw [if_pos (hZero.mpr sameX)]
        by_cases sameY : y = yToo
        · -- a point and itself
          rw [if_pos (rZero.mpr sameY)]
          subst sameX sameY
          exact standsFor_double (.affine ySmall zSmall steep xScaled yScaled)
        · -- a point and its opposite
          have opposite := (WeierstrassCurve.Affine.Y_eq_of_X_eq regular.1 regularToo.1
            sameX).resolve_left sameY
          rw [if_neg fun zero => sameY (rZero.mp zero),
            WeierstrassCurve.Affine.Point.add_of_Y_eq sameX opposite]
          exact standsFor_neutral
      · rw [if_neg fun zero => sameX (hZero.mp zero),
          WeierstrassCurve.Affine.Point.add_of_X_ne sameX]
        have slope : curve.slope x xToo y yToo * (x - xToo) = y - yToo := by
          rw [WeierstrassCurve.Affine.slope_of_X_ne sameX]
          exact div_mul_cancel₀ _ (sub_ne_zero_of_ne sameX)
        have zCast : ((h * left.z % prime * right.z % prime : Nat) : Coordinate) =
            (xToo - x) * (left.z * right.z) ^ 3 := by
          simp only [ZMod.natCast_mod, Nat.cast_mul, hCast]
          ring
        have xCast : (x₃ : Coordinate) =
            curve.addX x xToo (curve.slope x xToo y yToo) *
              ((xToo - x) * (left.z * right.z) ^ 3) ^ 2 := by
          simp only [x₃, v, hCube, hSquare, natCast_sub, ZMod.natCast_mod, Nat.cast_mul,
            Nat.cast_add, Nat.cast_ofNat, hCast, rCast, uCast, addX_eq]
          generalize curve.slope x xToo y yToo = steepness at slope
          linear_combination (-(steepness * (x - xToo)) - (y - yToo)) *
            (left.z * right.z : Coordinate) ^ 6 * slope
        refine .affine (Nat.mod_lt _ prime_prime.pos) (Nat.mod_lt _ prime_prime.pos) ?_ ?_ ?_
        · rw [zCast]
          exact mul_ne_zero (sub_ne_zero_of_ne (Ne.symm sameX)) (pow_ne_zero 3 scaled)
        · rw [zCast, xCast]
        · rw [zCast, addY_eq]
          simp only [v, hCube, hSquare, natCast_sub, ZMod.natCast_mod, Nat.cast_mul, hCast, rCast,
            uCast, sCast, xCast]
          generalize curve.addX x xToo _ = third
          generalize curve.slope x xToo y yToo = steepness at slope
          linear_combination (x - third) * (xToo - x) ^ 2 * (left.z * right.z : Coordinate) ^ 9 * slope

/-! ### Multiples and coordinates -/

/-- A multiple stands for the multiple. -/
theorem standsFor_times {point : Point} {target : curve.Point} (stands : StandsFor point target)
    {factor : Nat} (small : factor < 2 ^ 256) :
    StandsFor (times factor point) (factor • target) := by
  refine foldl_bits (fun value sum => StandsFor sum (value • target))
    ((zero_nsmul target).symm ▸ standsFor_neutral) (fun value sum bit holds => ?_) small
  have doubled := standsFor_double holds
  rw [← two_nsmul, smul_smul] at doubled
  cases bit with
  | false => exact doubled
  | true =>
    show StandsFor (add (double sum) point) ((2 * value + 1) • target)
    rw [add_nsmul, one_nsmul]
    exact standsFor_add doubled stands

/-- The coordinates of a point of the curve, as numbers. -/
def coordinates? : curve.Point → Option (Nat × Nat)
  | .zero => none
  | .some x y _ => some (x.val, y.val)

theorem toAffine?_eq {point : Point} {target : curve.Point} (stands : StandsFor point target) :
    point.toAffine? = coordinates? target := by
  cases stands with
  | neutral flat => rw [toAffine?, if_pos flat]; rfl
  | @affine x y regular ySmall zSmall steep xScaled yScaled =>
    have zNonzero : point.z ≠ 0 := fun zero => steep ((natCast_eq_zero_iff zSmall).mpr zero)
    have scale : ((inverse prime point.z : Nat) : Coordinate) = (point.z : Coordinate)⁻¹ :=
      natCast_inverse (by decide) (by decide) point.z
    rw [toAffine?, if_neg zNonzero]
    refine congrArg some (Prod.ext ?_ ?_)
    · have cast : ((point.x * (inverse prime point.z * inverse prime point.z % prime) : Nat)
          : Coordinate) = x := by
        simp only [Nat.cast_mul, ZMod.natCast_mod, scale, xScaled]
        field_simp
      rw [← cast, ZMod.val_natCast]
    · have cast : ((point.y * (inverse prime point.z * inverse prime point.z % prime) % prime *
          inverse prime point.z : Nat) : Coordinate) = y := by
        simp only [Nat.cast_mul, ZMod.natCast_mod, scale, yScaled]
        field_simp
      rw [← cast, ZMod.val_natCast]

end Point

end Bolt11.Secp256k1
