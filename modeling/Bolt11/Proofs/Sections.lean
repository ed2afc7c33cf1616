/-
This file proves that writing fields and reading a section undo each other.

The reader walks over three symbols at least for each field, so it comes to a stop. If nothing is
left then, the section was the written form of the fields that were read. If something is left, the
reader stands before symbols that are not the head of a field: too few for a tag and a length, or
fewer behind the length than it announces. So every section that was not written is refused, and
what was read of it before is what was written there.
-/

import Bolt11.Proofs.Framing
import Bolt11.Proofs.Outcome

namespace Bolt11

/-! ### Writing -/

namespace Field

/-- The symbols of some fields, one field after another. -/
def writeAll : List Field → Except Fault (List Nat)
  | [] => .ok []
  | field :: rest => do
    let first ← write (String.singleton field.tag) field.payload
    let others ← writeAll rest
    return first ++ others

/-- What is written for fields is their spellings, and only fields that all have one are
written. -/
theorem writeAll_eq_ok_iff {fields : List Field} {symbols : List Nat} :
    writeAll fields = .ok symbols ↔
      (∀ field ∈ fields, field.Fits) ∧ symbols = fields.flatMap spelling := by
  induction fields generalizing symbols with
  | nil =>
    rw [writeAll]
    constructor
    · intro written
      exact ⟨by simp, (Except.ok.inj written).symm⟩
    · rintro ⟨-, rfl⟩
      rfl
  | cons field rest inductionHypothesis =>
    have single : (String.singleton field.tag).toList = [field.tag] :=
      String.toList_singleton field.tag
    rw [List.forall_mem_cons, List.flatMap_cons, writeAll]
    constructor
    · intro written
      obtain ⟨first, firstWritten, written⟩ := bind_eq_ok_iff.mp written
      obtain ⟨others, othersWritten, done⟩ := bind_eq_ok_iff.mp written
      obtain ⟨fits, rfl⟩ := (write_eq_ok_iff single).mp firstWritten
      obtain ⟨restFit, rfl⟩ := inductionHypothesis.mp othersWritten
      exact ⟨⟨fits, restFit⟩, (Except.ok.inj done).symm⟩
    · rintro ⟨⟨fits, restFit⟩, rfl⟩
      refine bind_eq_ok_iff.mpr ⟨_, (write_eq_ok_iff single).mpr ⟨fits, rfl⟩, ?_⟩
      exact bind_eq_ok_iff.mpr ⟨_, inductionHypothesis.mpr ⟨restFit, rfl⟩, rfl⟩

/-- A field has a spelling if its tag is in the alphabet and its payload is short enough. -/
theorem fits_of_mem_alphabet {field : Field} (known : field.tag ∈ Bech32.alphabet)
    (short : field.payload.length < 1024) : field.Fits := by
  refine ⟨?_, short⟩
  rw [Bech32.symbol?, List.findIdx?_isSome, List.any_eq_true]
  exact ⟨field.tag, known, beq_self_eq_true field.tag⟩

end Field

namespace Cursor

/-! ### One field -/

/-- Symbols that are not the head of a field: one or two of them, which are too few for a tag and a
length, or fewer of them behind a length than it announces. -/
inductive IsCut : List Nat → Malformed → Prop
  | header {left : List Nat} (present : left ≠ []) (few : left.length < 3) : IsCut left .cutHeader
  | payload {tag high low : Nat} {behind : List Nat} (few : behind.length < 32 * high + low) :
    IsCut (tag :: high :: low :: behind) (.cutPayload (Bech32.letter tag) (32 * high + low))

theorem length_ahead {cursor : Cursor} (inside : cursor.stop ≤ cursor.symbols.length) :
    cursor.ahead.length = cursor.remaining := by
  rw [ahead, List.length_take, List.length_drop]
  simp only [remaining]
  omega

/-- A field that cannot be read is cut. -/
theorem isCut_of_readField {cursor : Cursor} (inside : cursor.stop ≤ cursor.symbols.length)
    (unfinished : cursor.remaining ≠ 0) {cause : Malformed}
    (failed : cursor.readField.1 = .error cause) : IsCut cursor.ahead cause := by
  have length := length_ahead inside
  by_cases narrow : cursor.remaining < 3
  · rw [readField_of_narrow narrow] at failed
    obtain rfl := Except.error.inj failed
    refine .header ?_ (by omega)
    intro nothing
    rw [nothing] at length
    exact unfinished length.symm
  have room := Nat.not_lt.mp narrow
  obtain ⟨tag, high, low, header⟩ := exists_header inside room
  have three : cursor.ahead.take 3 = [tag, high, low] := by
    rw [ahead, List.take_take, Nat.min_eq_left room, header]
  rw [readField_of_header room header] at failed
  by_cases few : cursor.remaining < 3 + (32 * high + low)
  · rw [if_pos few] at failed
    obtain rfl := Except.error.inj failed
    have whole : cursor.ahead = tag :: high :: low :: cursor.ahead.drop 3 := by
      rw [← List.take_append_drop 3 cursor.ahead, three]
      rfl
    rw [whole] at length ⊢
    refine .payload ?_
    simp only [List.length_cons] at length
    omega
  · rw [if_neg few] at failed
    cases failed

/-! ### Writing and reading -/

theorem three_mul_length_le (fields : List Field) :
    3 * fields.length ≤ (fields.flatMap Field.spelling).length := by
  induction fields with
  | nil => exact Nat.le_refl 0
  | cons field rest inductionHypothesis =>
    rw [List.flatMap_cons, List.length_append, Field.length_spelling, List.length_cons]
    omega

theorem over?_eq_some_iff {symbols : List Nat} {start stop : Int} {cursor : Cursor} :
    over? symbols start stop = some cursor ↔
      0 ≤ start ∧ start ≤ stop ∧ stop ≤ symbols.length ∧
        cursor = ⟨symbols, start.toNat, stop.toNat⟩ := by
  rw [over?]
  split
  · rename_i places
    simp [places, eq_comm]
  · rename_i outside
    constructor
    · intro placed
      cases placed
    · rintro ⟨first, second, third, -⟩
      exact absurd ⟨first, second, third⟩ outside

/-- Fields with tags of the alphabet and payloads of fewer than 1024 symbols are written, and
wherever they stand in a list, exactly they are read. In the other direction, take any place in a
list of symbols of five bits.

What is read to the end there is what some fields are written as, and it is read as these fields.
However far the reader walks, it reads a part of what the loop reads, and each field takes it three
symbols onward at least, so it comes to a stop. And if nothing that is written stands there, it
stops before symbols that are not the head of a field, and reports them. -/
theorem fields_inverts_writeAll :
    (∀ fields : List Field,
      (∀ field ∈ fields, field.tag ∈ Bech32.alphabet ∧ field.payload.length < 1024) →
        ∃ written, Field.writeAll fields = .ok written ∧
          ∀ before after : List Nat, ∃ cursor,
            over? (before ++ (written ++ after)) before.length
              (before.length + written.length : Nat) = some cursor ∧
            cursor.fields = (fields, none)) ∧
    ∀ (symbols : List Nat) (start stop : Int) (cursor : Cursor),
      (∀ symbol ∈ symbols, symbol < 32) → over? symbols start stop = some cursor →
        (∀ fields, cursor.fields = (fields, none) ↔ Field.writeAll fields = .ok cursor.ahead) ∧
        (∀ read last, Walks cursor read last →
          read <+: cursor.fields.1 ∧ 3 * read.length + last.remaining ≤ cursor.remaining) ∧
        (∀ read trouble, cursor.fields = (read, trouble) ↔
          ∃ last, Walks cursor read last ∧ Stops last trouble) ∧
        ((∀ fields, Field.writeAll fields ≠ .ok cursor.ahead) →
          ∃ written left cause, Field.writeAll cursor.fields.1 = .ok written ∧
            cursor.ahead = written ++ left ∧ IsCut left cause ∧
            cursor.fields.2 = some cause) := by
  constructor
  · intro fields writable
    have fit : ∀ field ∈ fields, field.Fits := fun field member =>
      Field.fits_of_mem_alphabet (writable field member).1 (writable field member).2
    refine ⟨_, Field.writeAll_eq_ok_iff.mpr ⟨fit, rfl⟩, fun before after => ?_⟩
    refine ⟨_, over?_eq_some (Nat.le_add_right _ _) ?_, fields_spellings fit before after⟩
    rw [List.length_append, List.length_append]
    omega
  · intro symbols start stop cursor small placed
    obtain ⟨-, ordered, within, rfl⟩ := over?_eq_some_iff.mp placed
    have inside : stop.toNat ≤ symbols.length := by omega
    have orderedToo : start.toNat ≤ stop.toNat := by omega
    have written (fields : List Field) :
        (Cursor.mk symbols start.toNat stop.toNat).fields = (fields, none) ↔
          Field.writeAll fields = .ok (Cursor.mk symbols start.toNat stop.toNat).ahead := by
      rw [fields_eq_iff small orderedToo inside, Field.writeAll_eq_ok_iff, List.drop_take]
      rfl
    refine ⟨written, fun read last walks => ⟨?_, ?_⟩, fun read trouble => fields_eq_iff_walks,
      fun unwritten => ?_⟩
    · rw [walks.fields_eq]
      exact List.prefix_append read _
    · obtain ⟨-, spelled, sameSymbols, sameStop⟩ := walks.ahead_eq small inside
      have lengths := congrArg List.length spelled
      rw [length_ahead inside, List.length_append,
        length_ahead (by rw [sameStop, sameSymbols]; exact inside)] at lengths
      have each := three_mul_length_le read
      omega
    · obtain ⟨last, walks, stops⟩ := exists_walks_stops ⟨symbols, start.toNat, stop.toNat⟩
      obtain ⟨fit, spelled, sameSymbols, sameStop⟩ := walks.ahead_eq small inside
      cases trouble : (Cursor.mk symbols start.toNat stop.toNat).fields.2 with
      | none => exact absurd ((written _).mp (Prod.ext rfl trouble)) (unwritten _)
      | some cause =>
        rw [trouble] at stops
        cases stops with
        | refused unfinished failed =>
          have cut := isCut_of_readField (by rw [sameStop, sameSymbols]; exact inside) unfinished
            failed
          exact ⟨_, _, cause, Field.writeAll_eq_ok_iff.mpr ⟨fit, rfl⟩, spelled, cut, rfl⟩

/-- A field with the longest payload there can be and an empty one behind it are read as they were
written, and with a third behind them that announces more than is left the reader stops. -/
theorem fields_inverts_writeAll_of_longest :
    let fields : List Field := [⟨'d', List.replicate 1023 7⟩, ⟨'q', []⟩]
    let spelled := fields.flatMap Field.spelling
    let longer := spelled ++ [1, 0, 1]
    (Field.writeAll fields = .ok spelled ∧
      ∃ cursor, over? ([3] ++ (spelled ++ [4])) 1 (1 + spelled.length : Nat) = some cursor ∧
        cursor.fields = (fields, none)) ∧
    ∃ cursor, over? longer 0 longer.length = some cursor ∧
      ∃ cause, cursor.fields.2 = some cause := by
  intro fields spelled longer
  obtain ⟨writing, reading⟩ := fields_inverts_writeAll
  constructor
  · obtain ⟨written, isWritten, read⟩ := writing fields (by decide +kernel)
    obtain ⟨-, rfl⟩ := Field.writeAll_eq_ok_iff.mp isWritten
    exact ⟨isWritten, read [3] [4]⟩
  · have small : ∀ symbol ∈ longer, symbol < 32 := by decide +kernel
    have placed : over? longer 0 longer.length = some ⟨longer, 0, longer.length⟩ :=
      over?_eq_some (Nat.zero_le _) (Nat.le_refl _)
    obtain ⟨exactly, -, -, refused⟩ := reading longer 0 longer.length _ small placed
    have stopped : (Cursor.mk longer 0 longer.length).fields.2.isSome = true := by decide +kernel
    obtain ⟨-, -, cause, -, -, -, trouble⟩ := refused fun others written => by
      rw [(exactly others).mpr written] at stopped
      cases stopped
    exact ⟨_, placed, cause, trouble⟩

end Cursor

end Bolt11
