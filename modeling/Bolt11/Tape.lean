/-
This file reads integers off a tape, from a place up to a stop.

A tape is the cursor over symbols in its general form. The integers may be of any size and sign,
and a count may be below zero, which reads nothing or what lies further on and moves the place
back. A place below zero counts from the end of the tape.
-/

import Bolt11.Bech32.Integers
import Bolt11.Field

namespace Bolt11

/-- Integers, a place among them, and the place where reading has to stop. -/
structure Tape where
  values : List Int
  position : Int
  stop : Int
  deriving Repr

namespace Tape

/-- A tape to read from one place to another. The places have to be in order and on the tape. -/
def over? (values : List Int) (start stop : Int) : Option Tape :=
  if 0 ≤ start ∧ start ≤ stop ∧ stop ≤ values.length then some ⟨values, start, stop⟩ else none

/-- The number of integers left to read. -/
def remaining (tape : Tape) : Int := tape.stop - tape.position

/-- A place as a distance from the head of the tape; what lies before the head is the head. -/
def distance (tape : Tape) (place : Int) : Nat :=
  (if place < 0 then place + tape.values.length else place).toNat

/-- The integers from one place to another. -/
def between (tape : Tape) (start stop : Int) : List Int :=
  (tape.values.drop (tape.distance start)).take (tape.distance stop - tape.distance start)

/-- The next `count` integers and the tape behind them. -/
def read [Runtime] (tape : Tape) (count : Int) : Except Fault (List Int × Tape) :=
  if tape.remaining < count then .error (Fault.malformed (.cutData count.toNat)).worded
  else .ok (tape.between tape.position (tape.position + count),
    { tape with position := tape.position + count })

/-- The next field, or what is wrong with it, and the tape afterwards. The tape stays where it is
if there is no room for a tag and a length; it stands behind them if the rest fails. -/
def readField [Runtime] (tape : Tape) : Except Fault (Char × List Int) × Tape :=
  if tape.remaining < 3 then (.error (.malformed .cutHeader), tape)
  else
    let behind : Tape := { tape with position := tape.position + 3 }
    match tape.between tape.position behind.position with
    | [tag, high, low] =>
      match Bech32.letterOf? tag with
      | none => (.error .noSuchPlace, behind)
      | some letter =>
        let length := 32 * high + low
        match behind.read length with
        | .error _ =>
          (.error (Fault.malformed (.cutPayload letter length.toNat)).worded, behind)
        | .ok (payload, after) => (.ok (letter, payload), after)
    | values => (.error (.badValue (.tooFewValues values.length)), behind)

/-! ### Agreement with the cursor -/

/-- The tape of a cursor. -/
def ofCursor (cursor : Cursor) : Tape :=
  ⟨cursor.symbols.map Int.ofNat, cursor.position, cursor.stop⟩

theorem between_natCast (cursor : Cursor) (start count : Nat) :
    (ofCursor cursor).between start (start + count) =
      ((cursor.symbols.drop start).take count).map Int.ofNat := by
  have near : (ofCursor cursor).distance start = start := by
    simp only [distance, if_neg (Int.not_lt.mpr (Int.natCast_nonneg start)), Int.toNat_natCast]
  have far : (ofCursor cursor).distance ((start : Int) + count) = start + count := by
    rw [← Int.natCast_add]
    simp only [distance, if_neg (Int.not_lt.mpr (Int.natCast_nonneg (start + count))),
      Int.toNat_natCast]
  rw [between, near, far, Nat.add_sub_cancel_left]
  simp only [ofCursor, List.map_take, List.map_drop]

/-- As long as the cursor is not behind its stop, the tape reads what the cursor reads. -/
theorem read_natCast [Runtime] {cursor : Cursor} (inside : cursor.position ≤ cursor.stop)
    (count : Nat) :
    (ofCursor cursor).read count =
      (cursor.read count).map fun (symbols, behind) => (symbols.map Int.ofNat, ofCursor behind) := by
  have room : (ofCursor cursor).remaining < count ↔ cursor.remaining < count := by
    simp only [remaining, ofCursor, Cursor.remaining]
    omega
  by_cases short : cursor.remaining < count
  · simp only [read, Cursor.read, if_pos short, if_pos (room.mpr short), Int.toNat_natCast,
      Except.map]
  · have enough : ¬ (ofCursor cursor).remaining < count := fun less => short (room.mp less)
    have taken := between_natCast cursor cursor.position count
    simp only [read, Cursor.read, if_neg short, if_neg enough, Except.map]
    refine congrArg Except.ok (Prod.ext taken ?_)
    simp only [ofCursor, Int.natCast_add]

end Tape

end Bolt11
