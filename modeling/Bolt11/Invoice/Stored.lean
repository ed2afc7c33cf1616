/-
This file stores invoices as documents and reads them back.

A document does not hold the signature nor the fields that were set aside. The features are
stored as the list of the bits that are set.
-/

import Bolt11.Invoice

namespace Bolt11

/-- The places of the bits that are set in a number, the lowest first. -/
def setBits (value : Nat) : List Nat :=
  (List.range (Symbols.bitLength value)).filter fun place => value.testBit place

/-- The network of a name, which has to be known. -/
def Network.require (name : Datum) : Except Fault Network :=
  let network := match name with
    | .text name => Network.ofName? name
    | _ => none
  match network with
  | some network => .ok network
  | none => .error (.missingKey name)

namespace Invoice

/-! ### Storing -/

/-- A payment secret that is there. -/
def requireSecret : Option Bytes → Except Fault Bytes
  | some secret => .ok secret
  | none => .error .noSuchOperation

/-- An invoice as a document. -/
def toDatum [Runtime] (invoice : Invoice) : Except Fault Datum := do
  let hints ← invoice.routeHints.mapM RouteHint.toDatum
  let paymentSecret ← requireSecret invoice.paymentSecret
  return .object [
    ("bolt11", invoice.text),
    ("network", .text invoice.network.name),
    ("payee_pubkey", invoice.payeeKey),
    ("payment_hash", invoice.paymentHash),
    ("description", Description.text invoice.description),
    ("description_hash", Description.digest invoice.description),
    ("amount_msat", invoice.amount),
    ("timestamp", .int invoice.timestamp),
    ("expiry", .int invoice.expiry),
    ("routing_hints", .list hints),
    ("payment_secret", .text (Text.hexOf paymentSecret)),
    ("min_final_cltv_expiry_delta", .int invoice.minFinalCltvDelta),
    ("features", .list ((setBits invoice.features).map fun place : Nat => .int place))]

/-! ### Reading -/

/-- The highest place that a bit of a number can have at all. -/
def highestPlace : Nat := 69175290276410818320

/-- The number of bits that there is room for. -/
def roomInBits : Nat := Nat.pow 2 40

/-- The number in which one bit is set. -/
def bitOf (place : Datum) : Except Fault Nat :=
  match place.asInt? with
  | none => .error .wrongKind
  | some place =>
    if place < 0 then .error (.badValue .negativeShift)
    else if place < roomInBits then .ok (Nat.pow 2 place.toNat)
    else if place ≤ highestPlace then .error .noRoom
    else .error (.overflow .tooManyDigits)

/-- The number in which the given bits are set besides those of `features`. -/
def addBits (features : Nat) : List Datum → Except Fault Nat
  | [] => .ok features
  | place :: rest => do addBits (features ||| (← bitOf place)) rest

/-- The payment secret of a document, if it is not null. -/
def secretOf (value : Datum) : Except Fault (Option Bytes) :=
  if value.isNull then .ok none else value.toBytes.map some

/-- The invoice of a document. No signature is checked. -/
def ofDatum [Runtime] (document : Datum) : Except Fault Invoice := do
  let features ← addBits 0 (← (← document.optionalOr "features" (.list [])).items)
  let text ← document.require "bolt11"
  let network ← Network.require (← document.require "network")
  let payeeKey ← document.require "payee_pubkey"
  let paymentHash ← document.require "payment_hash"
  let description ← Description.ofDatum document
  let amount ← document.optional "amount_msat"
  let timestamp ← (← document.require "timestamp").toInt
  let expiry ← (← document.require "expiry").toInt
  let hints ← (← document.optionalOr "routing_hints" (.list [])).items
  let routeHints ← hints.mapM RouteHint.ofDatum
  let paymentSecret ← document.require "payment_secret"
  let minFinalCltvDelta ← (← document.require "min_final_cltv_expiry_delta").toInt
  let paymentSecret ← secretOf paymentSecret
  return {
    text := text
    network := network
    payeeKey := payeeKey
    paymentHash := paymentHash
    description := description
    amount := amount
    timestamp := timestamp
    expiry := expiry
    routeHints := routeHints
    paymentSecret := paymentSecret
    minFinalCltvDelta := minFinalCltvDelta
    features := features
    signature := none
    setAside := [] }

end Invoice

end Bolt11
