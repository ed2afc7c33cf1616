/-
This file says what matters of the runtime that the codec runs on: how long a number may be in
decimal.

A runtime with a limit neither writes nor reads a number that has more digits. The limit is a
setting of the runtime and not of the codec. Unless it is changed it is 4300 digits; it can be
lifted, and it cannot be set below 640. The oldest runtimes that the codec supports have none. What
is said of the codec elsewhere is said for every runtime, with a limit or without.
-/

namespace Bolt11

/-- A runtime. -/
class Runtime where
  /-- The most digits that a number may have in decimal, if that is limited. -/
  digitLimit : Option Nat
  /-- Every limit leaves room for 640 digits. -/
  roomy : ∀ limit ∈ digitLimit, 640 ≤ limit

namespace Runtime

/-- The runtime whose limit nobody has changed. -/
instance usual : Runtime := ⟨some 4300, by simp⟩

variable [Runtime]

/-- The limit that a numeral of so many digits is beyond, if it is beyond the limit. -/
def exceeded? (digits : Nat) : Option Nat := digitLimit.filter fun limit => limit < digits

/-- Whether a number can be written. -/
def writes (number : Int) : Bool :=
  digitLimit.all fun limit => decide (number.natAbs < Nat.pow 10 limit)

theorem exceeded_eq_none {digits : Nat} (few : digits ≤ 640) : exceeded? digits = none := by
  refine Option.filter_eq_none_iff.mpr fun limit known => ?_
  have room := roomy limit known
  simp only [decide_eq_true_eq]
  omega

theorem writes_of_lt {number : Int} {limit : Nat} (known : limit ∈ digitLimit)
    (below : number.natAbs < Nat.pow 10 limit) : writes number = true := by
  rw [writes, Option.mem_def.mp known, Option.all_some, decide_eq_true_eq]
  exact below

theorem writes_of_few {number : Int} {places : Nat} (few : places ≤ 640)
    (below : number.natAbs < Nat.pow 10 places) : writes number = true := by
  cases known : digitLimit with
  | none => rw [writes, known, Option.all_none]
  | some limit =>
    have room := roomy limit known
    exact writes_of_lt known
      (Nat.lt_of_lt_of_le below (Nat.pow_le_pow_right (by decide) (by omega)))

/-- Without a limit every number can be written. -/
theorem writes_of_unlimited (unlimited : digitLimit = none) (number : Int) :
    writes number = true := by
  rw [writes, unlimited, Option.all_none]

end Runtime

end Bolt11
