/-
This file proves that a cursor never leaves its section, whatever is asked of it.

A cursor is asked for some symbols or for a field, again and again, and some of these calls fail.
What a call has taken can be told from its answer: symbols are what was taken, a field was taken as
it is spelled, and where a payload is cut, the tag and the length were taken that the answer names.
So the answers up to any moment spell out the symbols from the start of the section to the place of
the cursor, with none left out and none taken twice. That is shown for one call and then, by
induction, for any number of them. What stands at the stop or behind it is part of no answer, and no
answer depends on it.
-/

import Bolt11.Proofs.Framing
import Bolt11.Tape

namespace Bolt11

namespace Cursor

/-! ### Calls and answers -/

/-- What a cursor is asked for: a number of symbols, or a field. -/
inductive Call where
  | symbols (count : Nat)
  | field
  deriving DecidableEq, Repr

/-- What a cursor answers. -/
inductive Answer where
  | symbols (read : List Nat)
  | field (read : Field)
  | refused (fault : Fault)
  deriving Repr

/-- The answer to a call and the cursor afterwards. -/
def answer [Runtime] (cursor : Cursor) : Call → Answer × Cursor
  | .symbols count =>
    match cursor.read count with
    | .ok (read, behind) => (.symbols read, behind)
    | .error fault => (.refused fault, cursor)
  | .field =>
    match cursor.readField with
    | (.ok read, behind) => (.field read, behind)
    | (.error cause, behind) => (.refused (.malformed cause), behind)

/-- The answers to calls that are made one after another, and the cursor after the last of them. -/
def answerAll [Runtime] (cursor : Cursor) : List Call → List Answer × Cursor
  | [] => ([], cursor)
  | call :: later =>
    let (first, behind) := cursor.answer call
    let (others, last) := behind.answerAll later
    (first :: others, last)

theorem answerAll_cons [Runtime] (cursor : Cursor) (call : Call) (later : List Call) :
    cursor.answerAll (call :: later) =
      ((cursor.answer call).1 :: ((cursor.answer call).2.answerAll later).1,
        ((cursor.answer call).2.answerAll later).2) := rfl

/-- The symbols that a call has taken, as its answer tells them. -/
def Answer.taken : Answer → List Nat
  | .symbols read => read
  | .field read => read.spelling
  | .refused (.malformed (.cutPayload tag wanted)) =>
    [(Bech32.symbol? tag).getD 0, wanted / 32, wanted % 32]
  | .refused _ => []

/-- How many symbols a call takes that is answered in some way: one that fails takes none, or just
the tag and the length of a field. -/
inductive Takes [Runtime] : Call → Answer → Nat → Prop
  | symbols {count : Nat} {read : List Nat} (all : read.length = count) :
    Takes (.symbols count) (.symbols read) count
  | tooMany {count : Nat} :
    Takes (.symbols count) (.refused (Fault.malformed (.cutData count)).worded) 0
  | field {read : Field} : Takes .field (.field read) (3 + read.payload.length)
  | cutHeader : Takes .field (.refused (.malformed .cutHeader)) 0
  | cutPayload {tag : Char} {wanted : Nat} :
    Takes .field (.refused (.malformed (.cutPayload tag wanted))) 3

/-! ### Places -/

/-- The cursor at the same place of other symbols. -/
def onto (cursor : Cursor) (other : List Nat) : Cursor := { cursor with symbols := other }

/-- Whether a cursor stands in its section: not behind its stop, and that is not behind the last
symbol. -/
structure IsInside (cursor : Cursor) : Prop where
  ordered : cursor.position ≤ cursor.stop
  within : cursor.stop ≤ cursor.symbols.length

theorem IsInside.advance {cursor : Cursor} (inside : cursor.IsInside) {count : Nat}
    (room : count ≤ cursor.remaining) : (cursor.advance count).IsInside := by
  have ordered := inside.ordered
  rw [remaining] at room
  exact ⟨show cursor.position + count ≤ cursor.stop by omega, inside.within⟩

/-! ### One call -/

section

variable [Runtime]

theorem answer_symbols (cursor : Cursor) (count : Nat) :
    cursor.answer (.symbols count) =
      if cursor.remaining < count then
        (.refused (Fault.malformed (.cutData count)).worded, cursor)
      else (.symbols ((cursor.symbols.drop cursor.position).take count), cursor.advance count) := by
  rw [answer, Cursor.read]
  by_cases tooMany : cursor.remaining < count
  · rw [if_pos tooMany, if_pos tooMany]
  · rw [if_neg tooMany, if_neg tooMany]
    rfl

/-- A refusal of more symbols than are left names none that were taken, however it is worded. -/
theorem taken_cutData (count : Nat) :
    Answer.taken (.refused (Fault.malformed (.cutData count)).worded) = [] := by
  unfold Fault.worded
  split
  · rfl
  · split <;> rfl

section

variable {cursor : Cursor} (inside : cursor.IsInside)

include inside

/-- A call takes the symbols that its answer tells, from the place of the cursor on, and moves the
cursor behind them. It never takes more than are left. -/
theorem answer_spec (small : ∀ symbol ∈ cursor.symbols, symbol < 32) (call : Call) :
    ∃ count, Takes call (cursor.answer call).1 count ∧ count ≤ cursor.remaining ∧
      (cursor.answer call).2 = cursor.advance count ∧
      (cursor.answer call).1.taken = (cursor.symbols.drop cursor.position).take count := by
  cases call with
  | symbols count =>
    rw [answer_symbols]
    by_cases tooMany : cursor.remaining < count
    · rw [if_pos tooMany]
      exact ⟨0, .tooMany, Nat.zero_le _, rfl, taken_cutData count⟩
    · have room := Nat.not_lt.mp tooMany
      have length := length_slice inside.within (show 0 + count ≤ cursor.remaining by omega)
      rw [if_neg tooMany]
      exact ⟨count, .symbols length, room, rfl, rfl⟩
  | field =>
    by_cases narrow : cursor.remaining < 3
    · rw [answer, readField_of_narrow narrow]
      exact ⟨0, .cutHeader, Nat.zero_le _, rfl, rfl⟩
    have room := Nat.not_lt.mp narrow
    obtain ⟨tag, high, low, header⟩ := exists_header inside.within room
    have among : ∀ symbol ∈ [tag, high, low], symbol < 32 := fun symbol member =>
      small symbol (List.mem_of_mem_drop (List.mem_of_mem_take (header ▸ member)))
    rw [answer, readField_of_header room header]
    by_cases few : cursor.remaining < 3 + (32 * high + low)
    · obtain ⟨known, quotient, rest⟩ := header_digits among
      rw [if_pos few]
      refine ⟨3, .cutPayload, room, rfl, ?_⟩
      rw [header]
      simp only [Answer.taken, known, quotient, rest, Option.getD_some]
    · have enough := Nat.not_lt.mp few
      have length := length_slice inside.within enough
      rw [if_neg few]
      refine ⟨_, .field, ?_, ?_, ?_⟩
      · rw [length]
        exact enough
      · rw [length]
      · -- the field is spelled with the three symbols before its payload
        refine (spelling_of_header among length).trans ?_
        rw [length, ← header, ← List.drop_drop]
        exact List.take_add.symm

/-! ### Any number of calls -/

/-- However many calls are made, the cursor has taken what their answers tell, from its place on,
and is still in its section. -/
theorem answerAll_spec (small : ∀ symbol ∈ cursor.symbols, symbol < 32) (calls : List Call) :
    ∃ count, count ≤ cursor.remaining ∧ (cursor.answerAll calls).2 = cursor.advance count ∧
      (cursor.answerAll calls).1.flatMap Answer.taken =
        (cursor.symbols.drop cursor.position).take count := by
  induction calls generalizing cursor with
  | nil => exact ⟨0, Nat.zero_le _, rfl, rfl⟩
  | cons call later inductionHypothesis =>
    obtain ⟨first, -, firstRoom, moved, firstTaken⟩ := answer_spec inside small call
    obtain ⟨others, othersRoom, movedOn, othersTaken⟩ :=
      inductionHypothesis (inside.advance firstRoom) small
    rw [remaining_advance] at othersRoom
    refine ⟨first + others, by omega, ?_, ?_⟩
    · rw [answerAll_cons, moved, movedOn, advance_advance]
    · rw [answerAll_cons, List.flatMap_cons, firstTaken, moved, othersTaken, List.take_add,
        List.drop_drop]
      rfl

/-! ### What stands behind the stop -/

section

variable {other : List Nat} (same : other.take cursor.stop = cursor.symbols.take cursor.stop)

include same

omit [Runtime] in
/-- Up to the stop the other symbols are the same. -/
theorem take_onto {skipped count : Nat} (room : skipped + count ≤ cursor.remaining) :
    (other.drop (cursor.position + skipped)).take count =
      (cursor.symbols.drop (cursor.position + skipped)).take count := by
  have ordered := inside.ordered
  rw [remaining] at room
  have ends : cursor.position + skipped + count ≤ cursor.stop := by omega
  have prefixes := congrArg (List.take (cursor.position + skipped + count)) same
  rw [List.take_take, List.take_take, Nat.min_eq_left ends] at prefixes
  have slices := congrArg (List.drop (cursor.position + skipped)) prefixes
  rwa [List.drop_take, List.drop_take, Nat.add_sub_cancel_left] at slices

omit [Runtime] in
theorem isInside_onto : (cursor.onto other).IsInside := by
  refine ⟨inside.ordered, show cursor.stop ≤ other.length from ?_⟩
  have within := inside.within
  have lengths := congrArg List.length same
  rw [List.length_take, List.length_take] at lengths
  omega

/-- A call is answered from the symbols before the stop alone. -/
theorem answer_onto (call : Call) :
    (cursor.onto other).answer call =
      ((cursor.answer call).1, (cursor.answer call).2.onto other) := by
  have left : (cursor.onto other).remaining = cursor.remaining := rfl
  cases call with
  | symbols count =>
    rw [answer_symbols, answer_symbols, left]
    by_cases tooMany : cursor.remaining < count
    · rw [if_pos tooMany, if_pos tooMany]
    · have slice := take_onto inside same (show 0 + count ≤ cursor.remaining by omega)
      rw [Nat.add_zero] at slice
      rw [if_neg tooMany, if_neg tooMany]
      exact congrArg (fun read => (Answer.symbols read, _)) slice
  | field =>
    by_cases narrow : cursor.remaining < 3
    · rw [answer, answer, readField_of_narrow narrow, readField_of_narrow (left ▸ narrow)]
    have room := Nat.not_lt.mp narrow
    obtain ⟨tag, high, low, header⟩ := exists_header inside.within room
    have headerToo : ((cursor.onto other).symbols.drop (cursor.onto other).position).take 3 =
        [tag, high, low] :=
      (take_onto inside same (show 0 + 3 ≤ cursor.remaining by omega)).trans header
    rw [answer, answer, readField_of_header room header,
      readField_of_header (left ▸ room) headerToo, left]
    by_cases few : cursor.remaining < 3 + (32 * high + low)
    · rw [if_pos few, if_pos few]
      rfl
    · have slice := take_onto inside same (Nat.not_lt.mp few)
      rw [if_neg few, if_neg few]
      exact congrArg (fun payload => (Answer.field ⟨Bech32.letter tag, payload⟩, _)) slice

end

/-- What stands at the stop or behind it makes no difference to any answer. -/
theorem answerAll_onto (small : ∀ symbol ∈ cursor.symbols, symbol < 32) {other : List Nat}
    (same : other.take cursor.stop = cursor.symbols.take cursor.stop) (calls : List Call) :
    (cursor.onto other).answerAll calls =
      ((cursor.answerAll calls).1, (cursor.answerAll calls).2.onto other) := by
  induction calls generalizing cursor with
  | nil => rfl
  | cons call later inductionHypothesis =>
    obtain ⟨count, -, room, moved, -⟩ := answer_spec inside small call
    have further := inductionHypothesis (inside.advance room) small same
    rw [answerAll_cons, answerAll_cons, answer_onto inside same, moved, further]

end

end

end Cursor

/-! ### The tape -/

namespace Tape

/-- Whether the tape of a cursor gives the answers that the cursor gives, symbols and fields
alike. -/
structure Follows [Runtime] (cursor : Cursor) : Prop where
  read : ∀ count : Nat, (ofCursor cursor).read count =
    (cursor.read count).map fun (symbols, behind) => (symbols.map Int.ofNat, ofCursor behind)
  readField : (ofCursor cursor).readField =
    ((cursor.readField.1.mapError .malformed).map fun field =>
      (field.tag, field.payload.map Int.ofNat), ofCursor cursor.readField.2)

theorem remaining_ofCursor {cursor : Cursor} (inside : cursor.IsInside) :
    (ofCursor cursor).remaining = cursor.remaining := by
  have ordered := inside.ordered
  simp only [remaining, ofCursor, Cursor.remaining]
  omega

/-- On symbols of five bits the tape follows the cursor. -/
theorem follows [Runtime] {cursor : Cursor} (inside : cursor.IsInside)
    (small : ∀ symbol ∈ cursor.symbols, symbol < 32) : Follows cursor := by
  refine ⟨fun count => read_natCast inside.ordered count, ?_⟩
  have left := remaining_ofCursor inside
  by_cases narrow : cursor.remaining < 3
  · rw [Cursor.readField_of_narrow narrow, readField, if_pos (by omega)]
    rfl
  have room := Nat.not_lt.mp narrow
  obtain ⟨tag, high, low, header⟩ := Cursor.exists_header inside.within room
  have among : ∀ symbol ∈ [tag, high, low], symbol < 32 := fun symbol member =>
    small symbol (List.mem_of_mem_drop (List.mem_of_mem_take (header ▸ member)))
  have tagSmall := among tag (by simp)
  have between : (ofCursor cursor).between (ofCursor cursor).position
      ((ofCursor cursor).position + 3) = [(tag : Int), (high : Int), (low : Int)] := by
    have taken := between_natCast cursor cursor.position 3
    rw [header] at taken
    exact taken
  have further : ({ ofCursor cursor with position := (ofCursor cursor).position + 3 } : Tape).read
      (32 * (high : Int) + low) = ((cursor.advance 3).read (32 * high + low)).map
        fun (symbols, behind) => (symbols.map Int.ofNat, ofCursor behind) :=
    read_natCast (inside.advance room).ordered (32 * high + low)
  rw [Cursor.readField_of_header room header, readField, if_neg (by omega)]
  simp only [between, Bech32.letterOf_natCast tagSmall]
  rw [further, Cursor.read, Cursor.remaining_advance]
  by_cases few : cursor.remaining < 3 + (32 * high + low)
  · have highSmall := among high (by simp)
    have lowSmall := among low (by simp)
    have short : (Fault.malformed (.cutPayload (Bech32.letter tag) (32 * high + low))).isWritable =
        true := Runtime.writes_of_few (by decide : 4 ≤ 640) (by simp; omega)
    have named : (32 * (high : Int) + low).toNat = 32 * high + low := by omega
    rw [if_pos few, if_pos (by omega), named, Fault.worded_of_isWritable short]
    rfl
  · rw [if_neg few, if_neg (by omega), ← Cursor.advance_advance]
    rfl

end Tape

namespace Cursor

/-- A cursor over symbols of five bits, from any place of the list to one that is not before it and
not behind the last symbol, can be asked for symbols and fields, as many times as one likes, and
some calls may fail. After each of them it stands between the two places, and what the calls have
taken so far is the symbols from the first place to where it stands, one after another. The next
call takes nothing if it fails, or just a tag and a length, and otherwise what it gives, with the
tag and the length of a field. With other symbols at the stop and behind it all answers are the
same. And the tape over these symbols answers the next call as the cursor does. -/
theorem answerAll_inside [Runtime] {symbols : List Nat} (small : ∀ symbol ∈ symbols, symbol < 32)
    {start stop : Nat} (ordered : start ≤ stop) (within : stop ≤ symbols.length) :
    ∃ cursor, over? symbols start stop = some cursor ∧
      ∀ calls answers last, cursor.answerAll calls = (answers, last) →
        (start ≤ last.position ∧ last.position ≤ stop) ∧
        answers.flatMap Answer.taken = (symbols.take last.position).drop start ∧
        (∀ call, ∃ count, Takes call (last.answer call).1 count ∧
          (last.answer call).2.position = last.position + count) ∧
        (∀ other : List Nat, other.take stop = symbols.take stop →
          ∃ cursorToo lastToo, over? other start stop = some cursorToo ∧
            cursorToo.answerAll calls = (answers, lastToo) ∧
            lastToo.position = last.position) ∧
        Tape.Follows last := by
  refine ⟨⟨symbols, start, stop⟩, over?_eq_some ordered within, fun calls answers last run => ?_⟩
  have inside : IsInside ⟨symbols, start, stop⟩ := ⟨ordered, within⟩
  obtain ⟨count, room, moved, taken⟩ := answerAll_spec inside small calls
  rw [run] at moved taken
  obtain rfl : last = (Cursor.mk symbols start stop).advance count := moved
  have lastInside := inside.advance room
  refine ⟨⟨Nat.le_add_right start count, lastInside.ordered⟩, ?_, fun call => ?_,
    fun other same => ?_, Tape.follows lastInside small⟩
  · rw [taken, List.drop_take]
    exact congrArg (List.take · (symbols.drop start)) (Nat.add_sub_cancel_left start count).symm
  · obtain ⟨further, takes, -, onward, -⟩ := answer_spec lastInside small call
    exact ⟨further, takes, by rw [onward]; rfl⟩
  · have elsewhere := answerAll_onto inside small same calls
    rw [run] at elsewhere
    have withinToo := (isInside_onto inside same).within
    exact ⟨_, _, over?_eq_some ordered withinToo, elsewhere, rfl⟩

/-- A field, then more symbols than are left, a field whose payload reaches over the stop, one for
which there is no room, and the last two symbols. Behind the stop stands one symbol more. -/
theorem answerAll_inside_all_calls :
    let symbols := [31, 1, 0, 2, 7, 9, 13, 0, 4, 5, 6, 30]
    let calls : List Call := [.field, .symbols 6, .field, .field, .symbols 2]
    let answers : List Answer := [.field ⟨'p', [7, 9]⟩, .refused (.malformed (.cutData 6)),
      .refused (.malformed (.cutPayload 'd' 4)), .refused (.malformed .cutHeader),
      .symbols [5, 6]]
    (∀ symbol ∈ symbols, symbol < 32) ∧ 1 ≤ 11 ∧ 11 ≤ symbols.length ∧
      ∃ cursor, over? symbols 1 11 = some cursor ∧
        ∃ last, cursor.answerAll calls = (answers, last) ∧
          (1 ≤ last.position ∧ last.position ≤ 11) ∧
          answers.flatMap Answer.taken = (symbols.take last.position).drop 1 ∧
          (symbols.set 11 17).take 11 = symbols.take 11 ∧
          ∃ cursorToo lastToo, over? (symbols.set 11 17) 1 11 = some cursorToo ∧
            cursorToo.answerAll calls = (answers, lastToo) ∧ lastToo.position = last.position := by
  intro symbols calls answers
  have small : ∀ symbol ∈ symbols, symbol < 32 := by decide
  have same : (symbols.set 11 17).take 11 = symbols.take 11 := by decide
  obtain ⟨cursor, placed, runs⟩ := answerAll_inside small (show 1 ≤ 11 by decide)
    (show 11 ≤ symbols.length by decide)
  obtain rfl : ⟨symbols, 1, 11⟩ = cursor := Option.some.inj placed
  have writable : Runtime.writes ((6 : Nat) : Int) = true :=
    Runtime.writes_of_few (by decide : 1 ≤ 640) (by decide)
  have worded : (Fault.malformed (.cutData 6)).worded = .malformed (.cutData 6) :=
    Fault.worded_of_isWritable writable
  have answered : ((Cursor.mk symbols 1 11).answerAll calls).1 = answers := by
    simp only [answers]
    rw [← worded]
    rfl
  have run : (Cursor.mk symbols 1 11).answerAll calls =
      (answers, ((Cursor.mk symbols 1 11).answerAll calls).2) := Prod.ext answered rfl
  obtain ⟨between, taken, -, elsewhere, -⟩ := runs calls _ _ run
  exact ⟨small, by decide, by decide, _, placed, _, run, between, taken, same, elsewhere _ same⟩

end Cursor

end Bolt11
