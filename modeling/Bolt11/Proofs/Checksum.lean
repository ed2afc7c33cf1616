/-
This file proves that the six checksum symbols make a text pass its check, and that no other six
symbols do.

The register is linear: what goes in is combined by exclusive or, and so is what comes out. Six
small values that enter an empty register simply stand in it as the digits of one number. So the
six symbols can be read off what the register holds after six zeros, and they turn it into the
residue of the variant. Since a number has only one form with six digits, they are the only ones.
Whatever goes in, the register never takes more than thirty bits: a step cuts off the highest five
before it makes room for five new ones, and the rows that it adds are no longer than that.
-/

import Bolt11.Bech32.Integers
import Bolt11.Proofs.Symbols

namespace Bolt11.Bech32

/-! ### The register is linear -/

theorem feedback_xor (left right : Nat) (rows : List Nat) :
    feedback (left ^^^ right) rows 0 = feedback left rows 0 ^^^ feedback right rows 0 := by
  induction rows generalizing left right with
  | nil => simp only [feedback, Nat.xor_self]
  | cons row rest inductionHypothesis =>
    have opened : ∀ top : Nat, feedback top (row :: rest) 0 =
        (if top % 2 = 1 then row else 0) ^^^ feedback (top / 2) rest 0 := by
      intro top
      rw [feedback, feedback_eq_xor (top / 2) rest, Nat.zero_xor]
    have selected : (if (left ^^^ right) % 2 = 1 then row else 0) =
        (if left % 2 = 1 then row else 0) ^^^ (if right % 2 = 1 then row else 0) := by
      by_cases leftOdd : left % 2 = 1 <;> by_cases rightOdd : right % 2 = 1 <;>
        simp only [Nat.xor_mod_two_eq_one, leftOdd, rightOdd, iff_true, true_iff, iff_self,
          not_true_eq_false, not_false_eq_true, if_true, if_false, Nat.xor_self, Nat.xor_zero,
          Nat.zero_xor]
    rw [opened, opened, opened, selected, Nat.xor_div_two, inductionHypothesis]
    ac_rfl

/-- A step taken apart: the low bits move up, the value enters, and the bits that left come
back. -/
theorem step_eq (register value : Nat) :
    step register value =
      (register % 2 ^ 25 * 2 ^ 5 ^^^ value) ^^^ feedback (register / 2 ^ 25) generators 0 :=
  feedback_eq_xor _ generators _

theorem step_xor (left right leftValue rightValue : Nat) :
    step (left ^^^ right) (leftValue ^^^ rightValue) =
      step left leftValue ^^^ step right rightValue := by
  have moved : (left % 2 ^ 25 ^^^ right % 2 ^ 25) * 2 ^ 5 =
      left % 2 ^ 25 * 2 ^ 5 ^^^ right % 2 ^ 25 * 2 ^ 5 := by
    simp only [← Nat.shiftLeft_eq, Nat.shiftLeft_xor_distrib]
  rw [step_eq, step_eq, step_eq, Nat.xor_mod_two_pow, Nat.xor_div_two_pow, feedback_xor, moved]
  ac_rfl

/-- The register after two lists of one length, combined value by value. -/
theorem foldl_step_xor (left right : Nat) (leftValues rightValues : List Nat)
    (lengths : leftValues.length = rightValues.length) :
    (List.zipWith (· ^^^ ·) leftValues rightValues).foldl step (left ^^^ right) =
      leftValues.foldl step left ^^^ rightValues.foldl step right := by
  induction leftValues generalizing left right rightValues with
  | nil =>
    cases rightValues with
    | nil => rfl
    | cons value rest => cases lengths
  | cons leftValue leftRest inductionHypothesis =>
    cases rightValues with
    | nil => cases lengths
    | cons rightValue rightRest =>
      rw [List.zipWith_cons_cons, List.foldl_cons, step_xor, List.foldl_cons, List.foldl_cons]
      exact inductionHypothesis _ _ _ (Nat.succ.inj lengths)

theorem zipWith_xor_zeros (values : List Nat) :
    List.zipWith (· ^^^ ·) (List.replicate values.length 0) values = values := by
  induction values with
  | nil => rfl
  | cons value rest inductionHypothesis =>
    rw [List.length_cons, List.replicate_succ, List.zipWith_cons_cons, inductionHypothesis,
      Nat.zero_xor]

/-! ### The register stays small -/

theorem feedback_lt {rows : List Nat} (small : ∀ row ∈ rows, row < 2 ^ 30) (top : Nat) :
    feedback top rows 0 < 2 ^ 30 := by
  induction rows generalizing top with
  | nil => exact Nat.two_pow_pos 30
  | cons row rest inductionHypothesis =>
    have later : feedback (top / 2) rest 0 < 2 ^ 30 :=
      inductionHypothesis (fun other member => small other (List.mem_cons_of_mem _ member)) _
    rw [feedback, feedback_eq_xor]
    refine Nat.xor_lt_two_pow ?_ later
    split
    · rw [Nat.zero_xor]
      exact small row List.mem_cons_self
    · exact Nat.two_pow_pos 30

/-- The register in the middle of a step: the low bits have moved up, the value has entered, and
some of the generators have been considered. -/
def midway (register value count : Nat) : Nat :=
  feedback (register / 0x2000000) (generators.take count) (register % 0x2000000 * 32 ^^^ value)

theorem midway_lt {value : Nat} (small : value < 2 ^ 30) (register count : Nat) :
    midway register value count < 2 ^ 30 := by
  have low : register % 0x2000000 * 32 < 2 ^ 30 := by omega
  have rows : ∀ row ∈ generators.take count, row < 2 ^ 30 := fun row member =>
    (by decide : ∀ row ∈ generators, row < 2 ^ 30) row (List.mem_of_mem_take member)
  rw [midway, feedback_eq_xor]
  exact Nat.xor_lt_two_pow (Nat.xor_lt_two_pow low small) (feedback_lt rows _)

theorem step_lt {value : Nat} (small : value < 2 ^ 30) (register : Nat) :
    step register value < 2 ^ 30 :=
  midway_lt small register generators.length

/-- From a register of thirty bits on, values of thirty bits never make it wider. -/
theorem foldl_step_lt {values : List Nat} (small : ∀ value ∈ values, value < 2 ^ 30)
    {register : Nat} (start : register < 2 ^ 30) : values.foldl step register < 2 ^ 30 := by
  induction values generalizing register with
  | nil => exact start
  | cons value rest inductionHypothesis =>
    exact inductionHypothesis (fun other member => small other (List.mem_cons_of_mem _ member))
      (step_lt (small value List.mem_cons_self) register)

theorem polymod_lt {values : List Nat} (small : ∀ value ∈ values, value < 2 ^ 30) :
    polymod values < 2 ^ 30 :=
  foldl_step_lt small (by decide)

theorem expand_lt (humanPart : List Char) : ∀ value ∈ expand humanPart, value < 2 ^ 30 := by
  intro value member
  have code : ∀ c : Char, c.toNat < 0x110000 := fun c => by
    rcases c.valid with low | ⟨-, high⟩
    · exact Nat.lt_trans low (by decide)
    · exact high
  rcases List.mem_append.mp member with high | low
  · obtain ⟨c, -, rfl⟩ := List.mem_map.mp high
    have := code c
    omega
  · rcases List.mem_cons.mp low with rfl | rest
    · decide
    · obtain ⟨c, -, rfl⟩ := List.mem_map.mp rest
      omega

/-! ### The six symbols -/

theorem step_of_small {register value : Nat} (narrow : register < 2 ^ 25) (small : value < 32) :
    step register value = 32 * register + value := by
  have disjoint : register * 2 ^ 5 ^^^ value = 32 * register + value := by
    have quotient : (register * 2 ^ 5 ^^^ value) / 2 ^ 5 = register := by
      rw [Nat.xor_div_two_pow, Nat.mul_div_cancel _ (by decide), Nat.div_eq_of_lt small,
        Nat.xor_zero]
    have rest : (register * 2 ^ 5 ^^^ value) % 2 ^ 5 = value := by
      rw [Nat.xor_mod_two_pow, Nat.mul_mod_left, Nat.zero_xor, Nat.mod_eq_of_lt small]
    have whole := Nat.div_add_mod (register * 2 ^ 5 ^^^ value) (2 ^ 5)
    rw [quotient, rest] at whole
    omega
  have nothingLeaves : feedback 0 generators 0 = 0 := by decide
  rw [step_eq, Nat.mod_eq_of_lt narrow, Nat.div_eq_of_lt narrow, nothingLeaves, Nat.xor_zero,
    disjoint]

/-- Up to six symbols that enter a register with room for them stand there as digits. -/
theorem foldl_step_of_small {symbols : List Nat} (small : ∀ symbol ∈ symbols, symbol < 32)
    (few : symbols.length ≤ 6) {register : Nat} (room : register < 32 ^ (6 - symbols.length)) :
    symbols.foldl step register =
      symbols.foldl (fun total symbol => 32 * total + symbol) register := by
  induction symbols generalizing register with
  | nil => rfl
  | cons symbol rest inductionHypothesis =>
    have symbolSmall : symbol < 32 := small symbol List.mem_cons_self
    rw [List.length_cons] at few room
    have wider : 6 - rest.length = (6 - (rest.length + 1)) + 1 := by omega
    have narrow : register < 2 ^ 25 := by
      refine Nat.lt_of_lt_of_le room ?_
      rw [show 2 ^ 25 = 32 ^ 5 by rfl]
      exact Nat.pow_le_pow_right (by decide) (by omega)
    rw [List.foldl_cons, List.foldl_cons, step_of_small narrow symbolSmall]
    refine inductionHypothesis (fun other member => small other (List.mem_cons_of_mem _ member))
      (by omega) ?_
    rw [wider, pow_succ]
    omega

theorem length_checksum (variant : Variant) (humanPart : List Char) (symbols : List Nat) :
    (checksum variant humanPart symbols).length = 6 := rfl

theorem checksum_lt (variant : Variant) (humanPart : List Char) (symbols : List Nat) :
    ∀ symbol ∈ checksum variant humanPart symbols, symbol < 32 := by
  intro symbol member
  obtain ⟨place, -, rfl⟩ := List.mem_map.mp member
  exact Nat.mod_lt _ (by decide)

/-- The six symbols are the digits of what the register holds after six zeros, with the residue
added. -/
theorem toNat_checksum (variant : Variant) {humanPart : List Char} {symbols : List Nat}
    (small : ∀ symbol ∈ symbols, symbol < 32) :
    Symbols.toNat (checksum variant humanPart symbols) =
      polymod (expand humanPart ++ symbols ++ [0, 0, 0, 0, 0, 0]) ^^^ variant.residue := by
  have registerSmall :
      polymod (expand humanPart ++ symbols ++ [0, 0, 0, 0, 0, 0]) ^^^ variant.residue < 2 ^ 30 := by
    refine Nat.xor_lt_two_pow (polymod_lt fun value member => ?_) (by cases variant <;> decide)
    rcases List.mem_append.mp member with body | zero
    · rcases List.mem_append.mp body with head | data
      · exact expand_lt humanPart value head
      · exact Nat.lt_trans (small value data) (by decide)
    · rw [List.eq_of_mem_replicate (n := 6) zero]
      decide
  unfold checksum
  generalize polymod (expand humanPart ++ symbols ++ [0, 0, 0, 0, 0, 0]) ^^^ variant.residue =
    register at registerSmall
  simp only [List.map_cons, List.map_nil, Symbols.toNat, List.foldl_cons, List.foldl_nil,
    Nat.pow_eq, Nat.reducePow, Nat.div_one]
  omega

/-- The two variants differ in their residues. -/
theorem ofResidue_eq_some_iff {register : Nat} {variant : Variant} :
    Variant.ofResidue? register = some variant ↔ register = variant.residue := by
  constructor
  · intro found
    unfold Variant.ofResidue? at found
    split at found
    · rename_i same
      rw [same, Option.some.inj found]
    · split at found
      · rename_i same
        rw [same, Option.some.inj found]
      · cases found
  · rintro rfl
    cases variant <;> rfl

/-- Six symbols that enter last are added to what six zeros leave in their place. -/
theorem polymod_append_six (values : List Nat) {check : List Nat} (six : check.length = 6)
    (small : ∀ symbol ∈ check, symbol < 32) :
    polymod (values ++ check) =
      polymod (values ++ [0, 0, 0, 0, 0, 0]) ^^^ Symbols.toNat check := by
  have entered : check.foldl step 0 = Symbols.toNat check :=
    foldl_step_of_small small (Nat.le_of_eq six) (Nat.pow_pos (by decide))
  have combined := foldl_step_xor (polymod values) 0 (List.replicate 6 0) check six.symm
  have zeros := zipWith_xor_zeros check
  rw [six] at zeros
  rw [zeros, Nat.xor_zero, entered] at combined
  rw [polymod, List.foldl_append, polymod, List.foldl_append]
  exact combined

/-- Of all groups of six symbols just one makes symbols pass the check: their checksum. -/
theorem verify_append_iff (variant : Variant) (humanPart : List Char) {symbols check : List Nat}
    (small : ∀ symbol ∈ symbols, symbol < 32) (six : check.length = 6)
    (checkSmall : ∀ symbol ∈ check, symbol < 32) :
    verify humanPart (symbols ++ check) = some variant ↔
      check = checksum variant humanPart symbols := by
  have numbers : Symbols.toNat (checksum variant humanPart symbols) =
      polymod (expand humanPart ++ symbols ++ [0, 0, 0, 0, 0, 0]) ^^^ variant.residue :=
    toNat_checksum variant small
  rw [verify, ofResidue_eq_some_iff, ← List.append_assoc, polymod_append_six _ six checkSmall]
  constructor
  · intro passed
    refine Symbols.toNat_injective six checkSmall (checksum_lt variant humanPart symbols) ?_
    rw [numbers, ← passed, ← Nat.xor_assoc, Nat.xor_self, Nat.zero_xor]
  · rintro rfl
    rw [numbers, ← Nat.xor_assoc, Nat.xor_self, Nat.zero_xor]

/-- Symbols followed by their checksum pass the check. -/
theorem verify_append_checksum (variant : Variant) (humanPart : List Char) {symbols : List Nat}
    (small : ∀ symbol ∈ symbols, symbol < 32) :
    verify humanPart (symbols ++ checksum variant humanPart symbols) = some variant :=
  (verify_append_iff variant humanPart small (length_checksum variant humanPart symbols)
    (checksum_lt variant humanPart symbols)).mpr rfl

/-! ### One checksum and no other -/

/-- The register while a text is checked: it has thirty bits after every value that has entered, and
in the middle of every step. -/
theorem register_lt {humanPart : List Char} {symbols : List Nat}
    (small : ∀ symbol ∈ symbols, symbol < 32) {entered : List Nat}
    (reached : entered <+: expand humanPart ++ symbols) :
    polymod entered < 2 ^ 30 ∧
      ∀ value, entered ++ [value] <+: expand humanPart ++ symbols →
        ∀ count, midway (polymod entered) value count < 2 ^ 30 := by
  have narrow : ∀ value ∈ expand humanPart ++ symbols, value < 2 ^ 30 := by
    intro value member
    rcases List.mem_append.mp member with head | data
    · exact expand_lt humanPart value head
    · exact Nat.lt_trans (small value data) (by decide)
  constructor
  · exact polymod_lt fun value member => narrow value (reached.subset member)
  · intro value next count
    have among : value ∈ entered ++ [value] := List.mem_append_right _ List.mem_cons_self
    exact midway_lt (narrow value (next.subset among)) _ count

/-- Whatever characters the human readable part has, just one group of six symbols behind the others
makes them pass the check of a variant, and that is the checksum. The register never takes more than
thirty bits on the way, whatever symbols stand there. -/
theorem checksum_unique (variant : Variant) (humanPart : List Char) {symbols : List Nat}
    (small : ∀ symbol ∈ symbols, symbol < 32) :
    ((checksum variant humanPart symbols).length = 6 ∧
        ∀ symbol ∈ checksum variant humanPart symbols, symbol < 32) ∧
      (∀ check : List Nat, check.length = 6 → (∀ symbol ∈ check, symbol < 32) →
        (verify humanPart (symbols ++ check) = some variant ↔
          check = checksum variant humanPart symbols)) ∧
      ∀ check : List Nat, (∀ symbol ∈ check, symbol < 32) →
        ∀ entered, entered <+: expand humanPart ++ (symbols ++ check) →
          polymod entered < 2 ^ 30 ∧
            ∀ value, entered ++ [value] <+: expand humanPart ++ (symbols ++ check) →
              ∀ count, midway (polymod entered) value count < 2 ^ 30 := by
  refine ⟨⟨length_checksum variant humanPart symbols, checksum_lt variant humanPart symbols⟩,
    fun check six checkSmall => verify_append_iff variant humanPart small six checkSmall,
    fun check checkSmall entered reached => register_lt ?_ reached⟩
  intro symbol member
  rcases List.mem_append.mp member with before | last
  · exact small symbol before
  · exact checkSmall symbol last

/-- A human readable part whose first character is the last there is, and the other variant. -/
theorem checksum_unique_last_character :
    let humanPart := [Char.ofNat 0x10ffff, '1']
    (∀ symbol ∈ [31, 0], symbol < 32) ∧
      checksum .bech32m humanPart [31, 0] = [8, 10, 13, 13, 8, 11] ∧
      verify humanPart ([31, 0] ++ [8, 10, 13, 13, 8, 11]) = some .bech32m ∧
      verify humanPart ([31, 0] ++ [8, 10, 13, 13, 8, 10]) ≠ some .bech32m ∧
      expand humanPart <+: expand humanPart ++ ([31, 0] ++ [0, 0, 0, 0, 0, 0]) ∧
      polymod (expand humanPart) < 2 ^ 30 := by
  intro humanPart
  have small : ∀ symbol ∈ [31, 0], symbol < 32 := by decide
  obtain ⟨-, unique, narrow⟩ := checksum_unique .bech32m humanPart small
  have symbols : checksum .bech32m humanPart [31, 0] = [8, 10, 13, 13, 8, 11] := by decide +kernel
  have reached := List.prefix_append (expand humanPart) ([31, 0] ++ [0, 0, 0, 0, 0, 0])
  refine ⟨small, symbols, (unique _ rfl (by decide)).mpr symbols.symm, ?_, reached,
    (narrow _ (by decide) _ reached).1⟩
  rw [Ne, unique _ rfl (by decide), symbols]
  decide

end Bolt11.Bech32
