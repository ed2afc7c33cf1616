/-
This file holds route hints: ways to the payee over channels that are not public.

A hop names the node that forwards, the channel it forwards over, and what it charges. On the
wire a hop is fifty-one octets: thirty-three for the node, eight for the channel, four for each
of the two fees, and two for the time-lock difference. A hint is one or more hops towards the
payee. The limits on a forwarded payment are not part of the wire form and are only carried
along.
-/

import Bolt11.ChannelId
import Bolt11.Text.LetterCase

namespace Bolt11

/-- One channel of a route hint. The node id is hexadecimal in lower case; the numbers are not
held to any range until the hop is written. -/
structure RouteHop where
  nodeId : String
  channel : Int
  baseFee : Int
  proportionalFee : Int
  cltvDelta : Int
  htlcMinimum : Datum
  htlcMaximum : Datum
  deriving BEq, Repr

/-- A route hint: its hops in the order in which a payment takes them. -/
structure RouteHint where
  hops : List RouteHop
  deriving BEq, Repr

namespace RouteHop

/-- The number of octets of a hop on the wire. -/
def wireLength : Nat := 51

/-- A hop whose node id may be in upper case. -/
def make (nodeId : String) (channel baseFee proportionalFee cltvDelta : Int)
    (htlcMinimum htlcMaximum : Datum) : RouteHop where
  nodeId := String.ofList (Text.lower nodeId.toList)
  channel := channel
  baseFee := baseFee
  proportionalFee := proportionalFee
  cltvDelta := cltvDelta
  htlcMinimum := htlcMinimum
  htlcMaximum := htlcMaximum

/-- The octets of the node id. -/
def nodeOctets (hop : RouteHop) : Except BadValue Bytes :=
  match Text.readHex hop.nodeId with
  | .ok octets => .ok octets
  | .error position => .error (.notHex position)

/-! ### Wire form -/

/-- A number in a field of the wire form. -/
def numberOctets (width : Nat) (number : Int) : Except Fault Bytes :=
  match Bytes.ofInt width number with
  | .ok octets => .ok octets
  | .error cause => .error (.overflow cause)

/-- A hop on the wire. -/
def toBytes (hop : RouteHop) : Except Fault Bytes :=
  match hop.nodeOctets with
  | .error cause => .error (.badValue cause)
  | .ok node =>
    if node.length ≠ 33 then .error (.badValue (.nodeIdLength node.length))
    else do
      let channel ← numberOctets 8 hop.channel
      let baseFee ← numberOctets 4 hop.baseFee
      let proportionalFee ← numberOctets 4 hop.proportionalFee
      let cltvDelta ← numberOctets 2 hop.cltvDelta
      return node ++ channel ++ baseFee ++ proportionalFee ++ cltvDelta

/-- The hop of fifty-one octets. -/
def ofOctets (octets : Bytes) : RouteHop where
  nodeId := Text.hexOf (octets.take 33)
  channel := Bytes.toNat ((octets.drop 33).take 8)
  baseFee := Bytes.toNat ((octets.drop 41).take 4)
  proportionalFee := Bytes.toNat ((octets.drop 45).take 4)
  cltvDelta := Bytes.toNat ((octets.drop 49).take 2)
  htlcMinimum := .null
  htlcMaximum := .null

/-- The hop of a byte string. Callers see to it that it has the length of one hop. -/
def ofBytes (octets : Bytes) : Except Fault RouteHop :=
  if octets.length = wireLength then .ok (ofOctets octets) else .error .unmetCondition

/-! ### Stored form -/

/-- A hop as a document. The channel is given as a number and in its written form. -/
def toDatum [Runtime] (hop : RouteHop) : Except Fault Datum :=
  match ChannelId.ofInt hop.channel with
  | .error cause => .error (.badValue cause)
  | .ok id => .ok (.object [
      ("src_node_id", .text hop.nodeId),
      ("short_channel_id", .int hop.channel),
      ("short_channel_id_str", .text id.format),
      ("fees_base_msat", .int hop.baseFee),
      ("fees_proportional_millionths", .int hop.proportionalFee),
      ("cltv_expiry_delta", .int hop.cltvDelta),
      ("htlc_minimum_msat", hop.htlcMinimum),
      ("htlc_maximum_msat", hop.htlcMaximum)])

/-- The number of the channel of a stored hop. -/
def channelNumber [Runtime] (value : Datum) : Except Fault Int :=
  match ChannelId.ofDatum value with
  | .error fault => .error fault
  | .ok none => .error .noSuchOperation
  | .ok (some id) => .ok id.toNat

/-- The hop of a document. -/
def ofDatum [Runtime] (document : Datum) : Except Fault RouteHop := do
  let nodeId ← document.require "src_node_id"
  let channel ← channelNumber (← document.require "short_channel_id")
  let baseFee ← (← document.require "fees_base_msat").toInt
  let proportionalFee ← (← document.require "fees_proportional_millionths").toInt
  let cltvDelta ← (← document.require "cltv_expiry_delta").toInt
  let htlcMinimum ← document.optional "htlc_minimum_msat"
  let htlcMaximum ← document.optional "htlc_maximum_msat"
  match nodeId with
  | .text nodeId =>
    return make nodeId channel baseFee proportionalFee cltvDelta htlcMinimum htlcMaximum
  | _ => .error .noSuchOperation

end RouteHop

namespace RouteHint

/-- The ids of the nodes that forward, one for each hop. -/
def nodeIds (hint : RouteHint) : List String := hint.hops.map RouteHop.nodeId

/-- Texts in rising order, each once. -/
def sortedOnce (texts : List String) : List String :=
  (texts.mergeSort fun left right => decide (left ≤ right)).eraseDups

/-! ### Wire form -/

/-- A hint on the wire. -/
def toBytes (hint : RouteHint) : Except Fault Bytes := do
  return (← hint.hops.mapM RouteHop.toBytes).flatten

/-- The hops of `count` records. -/
def hopsOf : Nat → Bytes → List RouteHop
  | 0, _ => []
  | count + 1, octets =>
    RouteHop.ofOctets (octets.take RouteHop.wireLength) ::
      hopsOf count (octets.drop RouteHop.wireLength)

/-- The hint of a byte string. Callers see to it that it is made of whole hops. -/
def ofBytes (octets : Bytes) : Except Fault RouteHint :=
  if octets.length % RouteHop.wireLength = 0 then
    .ok ⟨hopsOf (octets.length / RouteHop.wireLength) octets⟩
  else .error .unmetCondition

/-! ### Stored form -/

/-- A hint as a document. -/
def toDatum [Runtime] (hint : RouteHint) : Except Fault Datum := do
  return .object [("hops", .list (← hint.hops.mapM RouteHop.toDatum))]

/-- The hint of a document. -/
def ofDatum [Runtime] (document : Datum) : Except Fault RouteHint := do
  let hops ← (← document.require "hops").items
  return ⟨← hops.mapM RouteHop.ofDatum⟩

end RouteHint

end Bolt11
