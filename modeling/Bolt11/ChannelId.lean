/-
This file holds short channel ids: the place of a channel's funding output in the chain.

An id is eight octets: three for the block, three for the transaction in the block, two for the
output of the transaction. It is written as the three numbers with the letter x between them, as
one number, or in hexadecimal.
-/

import Bolt11.Datum.Reading
import Bolt11.Text.Split

namespace Bolt11

/-- A short channel id by its octets. -/
structure ChannelId where
  octets : Bytes
  deriving DecidableEq, Repr

namespace ChannelId

/-! ### Making -/

/-- The id with the given block, transaction and output. -/
def ofComponents (block transaction output : Int) : Except Overflow ChannelId := do
  let block ← Bytes.ofInt 3 block
  let transaction ← Bytes.ofInt 3 transaction
  let output ← Bytes.ofInt 2 output
  return ⟨block ++ transaction ++ output⟩

/-- The id with the given number. -/
def ofInt [Runtime] (number : Int) : Except BadValue ChannelId :=
  if 0 ≤ number ∧ number < Nat.pow 2 64 then .ok ⟨Bytes.ofNat 8 number.toNat⟩
  else .error (BadValue.channelRange number).worded

/-- The id written as three numbers. -/
def ofText [Runtime] (text : String) : Except Fault ChannelId :=
  match (Text.splitAll 'x' text.toList).map (fun part => Text.readInt (String.ofList part)) with
  | [.ok block, .ok transaction, .ok output] =>
    match ofComponents block transaction output with
    | .ok id => .ok id
    | .error cause => .error (.overflow cause)
  | _ => .error (.badValue (.channelText text))

/-- The id of a byte string, which has to have eight octets. -/
def ofBytes (octets : Bytes) : Except BadValue ChannelId :=
  if octets.length = 8 then .ok ⟨octets⟩ else .error (.channelLength octets.length)

/-- The id of a text: three numbers if there is an x in it, else sixteen characters in
hexadecimal. -/
def ofNotation [Runtime] (text : String) : Except Fault ChannelId :=
  if text.toList.contains 'x' then ofText text
  else if text.length ≠ 16 then .error (.badValue (.channelHexLength text))
  else match Text.readHex text with
    | .ok octets => .ok ⟨octets⟩
    | .error position => .error (.badValue (.notHex position))

/-- The id of a value: a number or a text. Null is the id of no channel. -/
def ofDatum [Runtime] : Datum → Except Fault (Option ChannelId)
  | .null => .ok none
  | .text text => (ofNotation text).map some
  | value =>
    match value.asInt? with
    | some number =>
      match ofInt number with
      | .ok id => .ok (some id)
      | .error cause => .error (.badValue cause)
    | none => .error .wrongKind

/-- What an id can be made from. -/
inductive Source where
  | value (value : Datum)
  | octets (octets : Bytes)
  /-- An id that is there already. -/
  | id (id : ChannelId)

/-- The id of whatever it is to be made from. What is an id already is not looked at again. -/
def normalize [Runtime] : Source → Except Fault (Option ChannelId)
  | .value value => ofDatum value
  | .octets octets =>
    match ofBytes octets with
    | .ok id => .ok (some id)
    | .error cause => .error (.badValue cause)
  | .id id => .ok (some id)

/-! ### Views -/

/-- The number of an id. -/
def toNat (id : ChannelId) : Nat := Bytes.toNat id.octets

/-- The height of the block. -/
def blockHeight (id : ChannelId) : Nat := Bytes.toNat (id.octets.take 3)

/-- The place of the transaction in the block. -/
def transactionIndex (id : ChannelId) : Nat := Bytes.toNat ((id.octets.drop 3).take 3)

/-- The place of the output in the transaction. -/
def outputIndex (id : ChannelId) : Nat := Bytes.toNat ((id.octets.drop 6).take 2)

/-- A byte string as three numbers with the letter x between them. The numbers of one that is not
much longer than an id can be written on every runtime. -/
def formatOctets (octets : Bytes) : String :=
  if octets.isEmpty then "None"
  else toString (Bytes.toNat (octets.take 3)) ++ "x" ++
    toString (Bytes.toNat ((octets.drop 3).take 3)) ++ "x" ++ toString (Bytes.toNat (octets.drop 6))

/-- An id as three numbers with the letter x between them. -/
def format (id : ChannelId) : String := formatOctets id.octets

/-- An id as messages show it. -/
def display (id : ChannelId) : String := "<ShortChannelID: " ++ id.format ++ ">"

end ChannelId

end Bolt11
