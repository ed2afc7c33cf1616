/-
This file proves that the two moduli of the curve are prime, and what powers modulo them are.

Powers and multiples of points are both built up bit by bit, so what holds after every bit is
stated once for both. That a number is prime is shown by certificates: a number whose powers return
to one after just as many steps as there are smaller numbers is prime, and to see that this does not
happen earlier it is enough to look at the prime divisors of that count, which have certificates of
their own.
-/

import Bolt11.Secp256k1
import Bolt11.Proofs.Bits
import Mathlib.Data.List.Prime
import Mathlib.FieldTheory.Finite.Basic
import Mathlib.NumberTheory.LucasPrimality
import Mathlib.Tactic.NormNum.Prime

namespace Bolt11.Secp256k1

/-! ### Bit by bit -/

theorem bits_eq_ofNat (value : Nat) : bits value = Bits.ofNat 256 value := by
  have every (width value : Nat) :
      (List.range width).map (fun place => value.testBit (width - 1 - place)) =
        Bits.ofNat width value := by
    induction width generalizing value with
    | zero => rfl
    | succ width inductionHypothesis =>
      rw [List.range_succ, List.map_append, Bits.ofNat, ← inductionHypothesis]
      refine congrArg₂ _ (List.map_congr_left fun place member => ?_) ?_
      · have inside := List.mem_range.mp member
        rw [Nat.testBit_div_two]
        congr 1
        omega
      · rw [List.map_singleton, Nat.add_sub_cancel, Nat.sub_self, Nat.testBit_zero]
        rfl
  exact every 256 value

/-- What holds of nothing at the start, and is kept when a bit is put behind what was read, holds
of the number in the end. -/
theorem foldl_bits {State : Type} {step : State → Bool → State} {start : State}
    (Holds : Nat → State → Prop) (initial : Holds 0 start)
    (next : ∀ value state bit, Holds value state → Holds (2 * value + bit.toNat) (step state bit))
    {value : Nat} (small : value < 2 ^ 256) : Holds value ((bits value).foldl step start) := by
  have every (read : List Bool) : Holds (Bits.toNat read) (read.foldl step start) := by
    induction read using List.reverseRecOn with
    | nil => exact initial
    | append_singleton read bit inductionHypothesis =>
      rw [Bits.toNat, List.foldl_append, List.foldl_append]
      exact next _ _ bit inductionHypothesis
  have whole := every (bits value)
  rwa [bits_eq_ofNat, Bits.toNat_ofNat, Nat.mod_eq_of_lt small, ← bits_eq_ofNat] at whole

theorem power_eq {modulus base exponent : Nat} (large : 1 < modulus)
    (small : exponent < 2 ^ 256) : power modulus base exponent = base ^ exponent % modulus := by
  refine foldl_bits (fun value result => result = base ^ value % modulus)
    (Nat.mod_eq_of_lt large).symm (fun value result bit holds => ?_) small
  have square : result * result % modulus = base ^ (2 * value) % modulus := by
    rw [holds, ← Nat.mul_mod, ← pow_add, two_mul]
  cases bit with
  | false => exact square
  | true =>
    show result * result % modulus * base % modulus = base ^ (2 * value + 1) % modulus
    rw [square, Nat.mod_mul_mod, pow_succ]

/-! ### Primes -/

/-- What shows that a number is prime: a base, and the prime divisors of the number before it, each
with the power in which it divides. -/
structure Certificate where
  value : Nat
  base : Nat
  divisors : List (Nat × Nat)

/-- A power modulo a number, by as many squarings as the exponent has bits. -/
def powerBySquares (modulus : Nat) : (width base exponent : Nat) → Nat
  | 0, _, _ => 1
  | width + 1, base, exponent =>
    if exponent = 0 then 1
    else
      let rest := powerBySquares modulus width (base * base % modulus) (exponent / 2)
      if exponent % 2 = 1 then base * rest % modulus else rest

/-- Whether a certificate shows that its number is prime, if some numbers are known to be. -/
def Certificate.isConvincing (known : List Nat) (certificate : Certificate) : Bool :=
  1 < certificate.value && certificate.value < 2 ^ 256 &&
    (certificate.divisors.map fun divisor => divisor.1 ^ divisor.2).prod ==
      certificate.value - 1 &&
    certificate.divisors.all (fun divisor => known.contains divisor.1) &&
    powerBySquares certificate.value 256 certificate.base (certificate.value - 1) == 1 &&
    certificate.divisors.all fun divisor =>
      powerBySquares certificate.value 256 certificate.base
        ((certificate.value - 1) / divisor.1) != 1

/-- Whether each of the certificates is convincing by those before it. -/
def areConvincing : (known : List Nat) → List Certificate → Bool
  | _, [] => true
  | known, certificate :: rest =>
    certificate.isConvincing known && areConvincing (certificate.value :: known) rest

theorem powerBySquares_eq {modulus width base exponent : Nat} (large : 1 < modulus)
    (small : exponent < 2 ^ width) :
    powerBySquares modulus width base exponent = base ^ exponent % modulus := by
  induction width generalizing base exponent with
  | zero =>
    obtain rfl : exponent = 0 := Nat.lt_one_iff.mp small
    exact (Nat.mod_eq_of_lt large).symm
  | succ width inductionHypothesis =>
    have half : exponent / 2 < 2 ^ width := by
      rw [pow_succ] at small
      omega
    have square : powerBySquares modulus width (base * base % modulus) (exponent / 2) =
        base ^ (2 * (exponent / 2)) % modulus := by
      rw [inductionHypothesis half, ← Nat.pow_mod, ← sq, pow_mul]
    have parts := Nat.div_add_mod exponent 2
    rw [powerBySquares]
    split
    · rename_i zero
      rw [zero]
      exact (Nat.mod_eq_of_lt large).symm
    · split
      · rename_i odd
        rw [odd] at parts
        rw [square, Nat.mul_mod_mod, mul_comm, ← pow_succ, parts]
      · rename_i even
        rw [Nat.mod_two_ne_one.mp even, Nat.add_zero] at parts
        rw [square, parts]

theorem Certificate.prime_of_isConvincing {known : List Nat} {certificate : Certificate}
    (primes : ∀ value ∈ known, value.Prime)
    (convincing : certificate.isConvincing known = true) : certificate.value.Prime := by
  obtain ⟨value, base, divisors⟩ := certificate
  simp only [isConvincing, Bool.and_eq_true, decide_eq_true_eq, List.all_eq_true, beq_iff_eq,
    bne_iff_ne, List.contains_iff_mem] at convincing ⊢
  obtain ⟨⟨⟨⟨⟨large, small⟩, product⟩, certified⟩, returns⟩, earlier⟩ := convincing
  have isOne {exponent : Nat} (low : exponent ≤ value - 1) :
      (base : ZMod value) ^ exponent = 1 ↔ powerBySquares value 256 base exponent = 1 := by
    rw [powerBySquares_eq large (by omega), ← Nat.cast_pow, ← Nat.cast_one, ZMod.natCast_eq_natCast_iff',
      Nat.mod_eq_of_lt large]
  refine lucas_primality value base ((isOne le_rfl).mpr returns) fun divisor isPrime divides => ?_
  -- a prime that divides the product is one of the divisors
  rw [← product] at divides
  obtain ⟨factor, among, dividesFactor⟩ := (Prime.dvd_prod_iff isPrime.prime).mp divides
  obtain ⟨own, member, rfl⟩ := List.mem_map.mp among
  have ownPrime := primes own.1 (certified own member)
  obtain rfl := (Nat.prime_dvd_prime_iff_eq isPrime ownPrime).mp
    (isPrime.dvd_of_dvd_pow dividesFactor)
  exact fun one => earlier own member ((isOne (Nat.div_le_self _ _)).mp one)

theorem prime_of_areConvincing {known : List Nat} {certificates : List Certificate}
    (primes : ∀ value ∈ known, value.Prime)
    (convincing : areConvincing known certificates = true) :
    ∀ certificate ∈ certificates, certificate.value.Prime := by
  induction certificates generalizing known with
  | nil => exact fun _ member => absurd member List.not_mem_nil
  | cons certificate rest inductionHypothesis =>
    rw [areConvincing, Bool.and_eq_true] at convincing
    have first := certificate.prime_of_isConvincing primes convincing.1
    exact List.forall_mem_cons.mpr ⟨first,
      inductionHypothesis (List.forall_mem_cons.mpr ⟨first, primes⟩) convincing.2⟩

/-- Primes that need no certificate. -/
def smallPrimes : List Nat :=
  [2, 3, 5, 7, 11, 17, 19, 23, 29, 31, 41, 53, 59, 97, 101, 103, 109, 113, 149, 239, 293, 419,
   443, 461, 631, 797, 971, 1373, 1409, 1627, 1871, 2011, 2621, 2657, 2731, 2861, 4051, 4423, 5323,
   7723, 9349]

/-- Certificates for the two moduli, after those that they build on. -/
def certificates : List Certificate :=
  [⟨13441, 11, [(2, 7), (3, 1), (5, 1), (7, 1)]⟩,
   ⟨24809, 6, [(2, 3), (7, 1), (443, 1)]⟩,
   ⟨13331831, 13, [(2, 1), (5, 1), (971, 1), (1373, 1)]⟩,
   ⟨173378833005251801, 6, [(2, 3), (5, 2), (2621, 1), (24809, 1), (13331831, 1)]⟩,
   ⟨22149492674086928081353, 5, [(2, 3), (3, 1), (5323, 1), (173378833005251801, 1)]⟩,
   ⟨132896956044521568488119, 6, [(2, 1), (3, 1), (22149492674086928081353, 1)]⟩,
   ⟨41201, 3, [(2, 4), (5, 2), (103, 1)]⟩,
   ⟨96557, 2, [(2, 2), (101, 1), (239, 1)]⟩,
   ⟨20113, 10, [(2, 4), (3, 1), (419, 1)]⟩,
   ⟨1206781, 10, [(2, 2), (3, 1), (5, 1), (20113, 1)]⟩,
   ⟨7240687, 3, [(2, 1), (3, 1), (1206781, 1)]⟩,
   ⟨107590001, 3, [(2, 4), (5, 4), (7, 1), (29, 1), (53, 1)]⟩,
   ⟨255515944373312847190720520512484175977, 3, [(2, 3), (7, 2), (11, 1), (1627, 1), (2657, 1),
      (4423, 1), (41201, 1), (96557, 1), (7240687, 1), (107590001, 1)]⟩,
   ⟨205115282021455665897114700593932402728804164701536103180137503955397371, 10, [(2, 1), (3, 1),
      (5, 1), (29, 2), (31, 1), (7723, 1), (132896956044521568488119, 1),
      (255515944373312847190720520512484175977, 1)]⟩,
   ⟨prime, 3, [(2, 1), (3, 1), (7, 1), (13441, 1),
      (205115282021455665897114700593932402728804164701536103180137503955397371, 1)]⟩,
   ⟨16699, 3, [(2, 1), (3, 1), (11, 2), (23, 1)]⟩,
   ⟨85831, 3, [(2, 1), (3, 1), (5, 1), (2861, 1)]⟩,
   ⟨4681609, 23, [(2, 3), (3, 1), (97, 1), (2011, 1)]⟩,
   ⟨107361793816595537, 3, [(2, 4), (16699, 1), (85831, 1), (4681609, 1)]⟩,
   ⟨120233, 3, [(2, 3), (7, 1), (19, 1), (113, 1)]⟩,
   ⟨44706919, 6, [(2, 1), (3, 1), (797, 1), (9349, 1)]⟩,
   ⟨174723607534414371449, 3, [(2, 3), (17, 1), (59, 1), (4051, 1), (120233, 1), (44706919, 1)]⟩,
   ⟨305873, 3, [(2, 4), (7, 1), (2731, 1)]⟩,
   ⟨28181, 2, [(2, 2), (5, 1), (1409, 1)]⟩,
   ⟨545358713, 5, [(2, 3), (41, 1), (59, 1), (28181, 1)]⟩,
   ⟨1627771, 3, [(2, 1), (3, 1), (5, 1), (29, 1), (1871, 1)]⟩,
   ⟨297159362677, 2, [(2, 2), (3, 2), (11, 1), (461, 1), (1627771, 1)]⟩,
   ⟨29047611873442575647497758179, 2, [(2, 1), (293, 1), (305873, 1), (545358713, 1),
      (297159362677, 1)]⟩,
   ⟨341948486974166000522343609283189, 2, [(2, 2), (3, 3), (109, 1),
      (29047611873442575647497758179, 1)]⟩,
   ⟨order, 7, [(2, 6), (3, 1), (149, 1), (631, 1), (107361793816595537, 1),
      (174723607534414371449, 1), (341948486974166000522343609283189, 1)]⟩]

theorem prime_of_certificates {value : Nat} (member : value ∈ certificates.map Certificate.value) :
    value.Prime := by
  have small : ∀ value ∈ smallPrimes, value.Prime := by
    norm_num [smallPrimes]
  have convincing : areConvincing smallPrimes certificates = true := by decide +kernel
  obtain ⟨certificate, among, rfl⟩ := List.mem_map.mp member
  exact prime_of_areConvincing small convincing _ among

theorem prime_prime : prime.Prime := prime_of_certificates (by decide)

theorem order_prime : order.Prime := prime_of_certificates (by decide)

end Bolt11.Secp256k1
