/-
This file encodes text as UTF-8 and decodes it again.

Only the shortest form of a character is well formed, and no surrogate and nothing past
U+10FFFF has one; this shows in the range the second octet of a sequence is held to. Decoding
stops at the first octet that rules the text out and says which octets are to blame: the lead
octet and the continuation octets that were still acceptable.
-/

import Bolt11.Bytes
import Bolt11.Text.Quoted

namespace Bolt11.Text.Utf8

/-! ### Encoding -/

/-- A continuation octet with the lowest six bits of a number. -/
def continuation (value : Nat) : UInt8 := UInt8.ofNat (0x80 + value % 64)

/-- The octets of one character. -/
def encodeChar (c : Char) : Bytes :=
  let code := c.toNat
  if code < 0x80 then [UInt8.ofNat code]
  else if code < 0x800 then [UInt8.ofNat (0xC0 + code / 64), continuation code]
  else if code < 0x10000 then
    [UInt8.ofNat (0xE0 + code / 4096), continuation (code / 64), continuation code]
  else
    [UInt8.ofNat (0xF0 + code / 262144), continuation (code / 4096), continuation (code / 64),
      continuation code]

/-- The octets of a text. -/
def encode (text : String) : Bytes := text.toList.flatMap encodeChar

/-! ### Decoding -/

/-- What is wrong with a sequence of octets. -/
inductive Reason where
  | badLead
  | badContinuation
  | cutShort
  deriving DecidableEq, Repr

/-- A sequence of octets that is no character: where it begins, its lead octet, how many octets
are to blame and why. -/
structure Fault where
  position : Nat
  lead : UInt8
  length : Nat
  reason : Reason
  deriving DecidableEq, Repr

/-- What a lead octet announces: the number of continuation octets, the range of the first of
them, and the bits it contributes itself. -/
structure Lead where
  following : Nat
  lowest : Nat
  highest : Nat
  bits : Nat

/-- The announcement of a lead octet, if it is one. -/
def lead? (octet : Nat) : Option Lead :=
  if octet < 0x80 then some ⟨0, 0x80, 0xBF, octet⟩
  else if octet < 0xC2 then none
  else if octet < 0xE0 then some ⟨1, 0x80, 0xBF, octet - 0xC0⟩
  else if octet < 0xF0 then
    some ⟨2, if octet = 0xE0 then 0xA0 else 0x80, if octet = 0xED then 0x9F else 0xBF,
      octet - 0xE0⟩
  else if octet < 0xF5 then
    some ⟨3, if octet = 0xF0 then 0x90 else 0x80, if octet = 0xF4 then 0x8F else 0xBF,
      octet - 0xF0⟩
  else none

/-- Reads the `count` continuation octets that are due, the first one held to the given range.
`length` counts the octets read so far. Gives the code point and the octets left over, or the
number of octets to blame. -/
def follow (length lowest highest code : Nat) :
    Nat → Bytes → Except (Nat × Reason) (Nat × Nat × Bytes)
  | 0, rest => .ok (code, length, rest)
  | _ + 1, [] => .error (length, .cutShort)
  | count + 1, octet :: rest =>
    if lowest ≤ octet.toNat ∧ octet.toNat ≤ highest then
      follow (length + 1) 0x80 0xBF (64 * code + octet.toNat % 64) count rest
    else .error (length, .badContinuation)

theorem follow_length_le {length lowest highest code count : Nat} {octets : Bytes}
    {result : Nat × Nat × Bytes} (read : follow length lowest highest code count octets = .ok result) :
    result.2.2.length ≤ octets.length := by
  induction count generalizing length lowest highest code octets with
  | zero => cases octets <;> simp only [follow, Except.ok.injEq] at read <;> simp [← read]
  | succ count inductionHypothesis =>
    cases octets with
    | nil => simp [follow] at read
    | cons octet rest =>
      rw [follow] at read
      split at read
      · exact Nat.le_succ_of_le (inductionHypothesis read)
      · simp at read

/-- The characters of the octets from `position` on. -/
def decodeFrom (position : Nat) : Bytes → Except Fault (List Char)
  | [] => .ok []
  | octet :: rest =>
    match lead? octet.toNat with
    | none => .error ⟨position, octet, 1, .badLead⟩
    | some lead =>
      match _followed : follow 1 lead.lowest lead.highest lead.bits lead.following rest with
      | .error (length, reason) => .error ⟨position, octet, length, reason⟩
      | .ok (code, length, left) =>
        match decodeFrom (position + length) left with
        | .ok characters => .ok (Char.ofNat code :: characters)
        | .error fault => .error fault
  termination_by octets => octets.length
  decreasing_by
    have shorter := follow_length_le _followed
    simp only [List.length_cons] at shorter ⊢
    omega

/-- The text of a byte string. -/
def decode (octets : Bytes) : Except Fault String :=
  match decodeFrom 0 octets with
  | .ok characters => .ok (String.ofList characters)
  | .error fault => .error fault

/-! ### Wording -/

/-- The wording of a reason. -/
def Reason.message : Reason → String
  | badLead => "invalid start byte"
  | badContinuation => "invalid continuation byte"
  | cutShort => "unexpected end of data"

/-- The wording of a fault: one octet is named by its value, several by their positions. -/
def Fault.message (fault : Fault) : String :=
  let blamed :=
    if fault.length ≤ 1 then
      "byte 0x" ++ String.ofList (hexDigits 2 fault.lead.toNat) ++ " in position " ++
        toString fault.position
    else
      "bytes in position " ++ toString fault.position ++ "-" ++
        toString (fault.position + fault.length - 1)
  "'utf-8' codec can't decode " ++ blamed ++ ": " ++ fault.reason.message

end Bolt11.Text.Utf8
