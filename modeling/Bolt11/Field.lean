/-
This file frames the tagged fields of a payment request.

A field is a tag symbol, two symbols that give the length of the payload, and the payload. The
fields stand one after another between the timestamp and the signature. A cursor walks over
that section; what lies behind its end is never read.
-/

import Bolt11.Bech32
import Bolt11.Symbols

namespace Bolt11

/-- A tagged field: its tag as a character of the alphabet, and its payload. -/
structure Field where
  tag : Char
  payload : List Nat
  deriving DecidableEq, Repr

/-! ### Writing -/

namespace Field

/-- The tag and length symbols of a field with a payload of the given length. The tag is given as
a text and has to be one character of the alphabet; a payload has fewer than 1024 symbols. -/
def header (tag : String) (length : Nat) : Except Fault (List Nat) :=
  if 1024 ≤ length then .error (.unencodable (.fieldLength tag length))
  else
    let symbol := match tag.toList with
      | [c] => Bech32.symbol? c
      | _ => none
    match symbol with
    | none => .error (.missingKey (.text tag))
    | some symbol => .ok [symbol, length / 32, length % 32]

/-- The symbols of a field. -/
def write (tag : String) (payload : List Nat) : Except Fault (List Nat) :=
  match header tag payload.length with
  | .error fault => .error fault
  | .ok symbols => .ok (symbols ++ payload)

/-- The symbols of a field with a byte string for payload. -/
def writeBytes (tag : String) (payload : Bytes) : Except Fault (List Nat) :=
  write tag (Symbols.ofBytes payload)

/-- The symbols of a field with a number for payload. -/
def writeInt [Runtime] (tag : String) (value : Int) : Except Fault (List Nat) :=
  match Symbols.ofInt value with
  | .error fault => .error fault
  | .ok payload => write tag payload

end Field

/-! ### Reading -/

/-- A place in a list of symbols, and the place where reading has to stop. -/
structure Cursor where
  symbols : List Nat
  position : Nat
  stop : Nat
  deriving Repr

namespace Cursor

/-- A cursor from one place to another. The places have to be in order and within the list. -/
def over? (symbols : List Nat) (start stop : Int) : Option Cursor :=
  if 0 ≤ start ∧ start ≤ stop ∧ stop ≤ symbols.length then
    some ⟨symbols, start.toNat, stop.toNat⟩
  else none

/-- The number of symbols left to read. -/
def remaining (cursor : Cursor) : Nat := cursor.stop - cursor.position

/-- The next `count` symbols and the cursor behind them. -/
def read [Runtime] (cursor : Cursor) (count : Nat) : Except Fault (List Nat × Cursor) :=
  if cursor.remaining < count then .error (Fault.malformed (.cutData count)).worded
  else .ok ((cursor.symbols.drop cursor.position).take count,
    { cursor with position := cursor.position + count })

/-- The next field, or what is wrong with it, and the cursor afterwards. The cursor stays where
it is if there is no room for a tag and a length; it stands behind them if the payload is cut. -/
def readField (cursor : Cursor) : Except Malformed Field × Cursor :=
  if cursor.remaining < 3 then (.error .cutHeader, cursor)
  else
    match (cursor.symbols.drop cursor.position).take 3 with
    | [tag, high, low] =>
      let behind : Cursor := { cursor with position := cursor.position + 3 }
      let length := 32 * high + low
      if behind.remaining < length then
        (.error (.cutPayload (Bech32.letter tag) length), behind)
      else
        (.ok ⟨Bech32.letter tag, (cursor.symbols.drop behind.position).take length⟩,
          { behind with position := behind.position + length })
    | _ => (.error .cutHeader, cursor)

theorem remaining_readField_lt {cursor : Cursor} {field : Field}
    (succeeded : cursor.readField.1 = .ok field) :
    cursor.readField.2.remaining < cursor.remaining := by
  unfold readField at succeeded ⊢
  split at succeeded
  · simp at succeeded
  · rename_i room
    split at succeeded
    · rename_i tag high low header
      simp only at succeeded
      split at succeeded
      · simp at succeeded
      · rename_i fits
        simp only [if_neg room, if_neg fits]
        simp only [remaining] at room fits ⊢
        omega
    · simp at succeeded

/-- The fields from a cursor to its end, and what is wrong with the first one that cannot be
read. -/
def fields (cursor : Cursor) : List Field × Option Malformed :=
  if cursor.remaining = 0 then ([], none)
  else
    match _read : cursor.readField with
    | (.error cause, _) => ([], some cause)
    | (.ok field, behind) =>
      let (others, trouble) := behind.fields
      (field :: others, trouble)
  termination_by cursor.remaining
  decreasing_by
    have shorter := @remaining_readField_lt cursor field (by rw [_read])
    rw [_read] at shorter
    exact shorter

end Cursor

end Bolt11
