/-
This file writes byte strings in hexadecimal and reads them back.

Writing gives two lower-case digits for each octet. Reading takes digits of either case, skips
ASCII white space between two octets but not inside one, and names the position of the first
character that does not fit. A text with a character beyond ASCII is refused at the first of
those, whatever stands before it.
-/

import Bolt11.Bytes
import Bolt11.Text.Quoted

namespace Bolt11.Text

/-- A byte string in hexadecimal. -/
def hexOf (octets : Bytes) : String :=
  String.ofList (octets.flatMap fun octet => [hexDigit (octet.toNat / 16), hexDigit (octet.toNat % 16)])

/-- The value of a hexadecimal digit of either case. -/
def hexValue? (c : Char) : Option Nat :=
  let code := c.toNat
  if 48 ≤ code && code ≤ 57 then some (code - 48)
  else if 97 ≤ code && code ≤ 102 then some (code - 87)
  else if 65 ≤ code && code ≤ 70 then some (code - 55)
  else none

/-- Whether a character may stand between two octets. -/
def isHexGap (c : Char) : Bool :=
  c == ' ' || (0x09 ≤ c.toNat && c.toNat ≤ 0x0D)

/-- The octets of a text of which `position` characters are read already, or the position of the
first misfit. -/
def readHexFrom (position : Nat) : List Char → Except Nat Bytes
  | [] => .ok []
  | c :: rest =>
    if isHexGap c then readHexFrom (position + 1) rest
    else match hexValue? c with
      | none => .error position
      | some high =>
        match rest with
        | [] => .error (position + 1)
        | d :: rest =>
          match hexValue? d with
          | none => .error (position + 1)
          | some low =>
            match readHexFrom (position + 2) rest with
            | .ok octets => .ok (UInt8.ofNat (16 * high + low) :: octets)
            | .error misfit => .error misfit

/-- The byte string that a hexadecimal text stands for, or the position of the first misfit. -/
def readHex (text : String) : Except Nat Bytes :=
  match text.toList.findIdx? fun c => 0x80 ≤ c.toNat with
  | some position => .error position
  | none => readHexFrom 0 text.toList

end Bolt11.Text
