/-
This file decodes a payment request and checks its signature.

The data part of a request is a timestamp of seven symbols, tagged fields, and a signature of
one hundred and four symbols. Fields of unknown type, and fields of a known type whose length is
not the one that type has, are set aside and do no harm. Of repeated fields the first one counts,
of repeated feature fields the last one. A description counts only if it is the only one.
-/

import Bolt11.Description
import Bolt11.Field
import Bolt11.HumanPart
import Bolt11.RouteHint
import Bolt11.Signature

namespace Bolt11

/-- A decoded request with a good signature, close to its wire form. -/
structure WireInvoice where
  humanPart : String
  network : Network
  amount : Option Nat
  timestamp : Nat
  paymentHash : Bytes
  paymentSecret : Bytes
  description : Option Description
  expiry : Option Nat
  minFinalCltvDelta : Option Nat
  routeHints : List RouteHint
  features : Nat
  namedKey : Option Bytes
  payeeKey : Bytes
  signature : Bytes
  setAside : List Field
  deriving BEq, Repr

namespace WireInvoice

/-- The number of symbols of the timestamp. -/
def timestampLength : Nat := 7

/-- The journal of decoding. -/
def journal : String := "lninvoice.lnaddr"

/-- Seconds until a request expires that does not say so. -/
def defaultExpiry : Nat := 3600

/-- The time-lock difference of a request that does not state one. -/
def defaultCltvDelta : Nat := 18

/-! ### Fields -/

/-- What the fields read so far say. -/
structure Contents where
  paymentHash : Option Bytes
  paymentSecret : Option Bytes
  descriptions : List Description
  expiry : Option Nat
  minFinalCltvDelta : Option Nat
  routeHints : List RouteHint
  features : Nat
  namedKey : Option Bytes
  setAside : List Field

namespace Contents

/-- What no field says. -/
def empty : Contents := ⟨none, none, [], none, none, [], 0, none, []⟩

/-- A field is set aside. -/
def leave (contents : Contents) (field : Field) : Contents :=
  { contents with setAside := contents.setAside ++ [field] }

end Contents

/-- The octets of a payload. -/
def octetsOf (payload : List Nat) : Except Fault Bytes :=
  match Symbols.toBytes payload with
  | .ok octets => .ok octets
  | .error cause => .error (.malformed cause)

/-- The route hint of a payload, which has to be one or more whole hops. -/
def routeOf (payload : List Nat) : Except Fault RouteHint :=
  match octetsOf payload with
  | .error fault => .error fault
  | .ok octets =>
    if octets.isEmpty ∨ octets.length % RouteHop.wireLength ≠ 0 then
      .error (.malformed (.routeLength octets.length))
    else RouteHint.ofBytes octets

/-- The description in the clear of a payload. -/
def plainOf (payload : List Nat) : Except Fault Description :=
  match octetsOf payload with
  | .error fault => .error fault
  | .ok octets =>
    match Text.Utf8.decode octets with
    | .ok text => .ok (.plain text)
    | .error fault => .error (.malformed (.description fault))

/-- The hashed description of a payload. -/
def hashedOf (payload : List Nat) : Except Fault Description :=
  match octetsOf payload with
  | .error fault => .error fault
  | .ok octets =>
    match Description.ofDigest octets with
    | .ok description => .ok description
    | .error cause => .error (.badValue cause)

/-- Reads a payload of octets for a place where the first field counts. -/
def firstOctets (current : Option Bytes) (payload : List Nat) : Except Fault (Option Bytes) :=
  match current with
  | some octets => .ok (some octets)
  | none => (octetsOf payload).map some

/-- A payload as a number for a place where the first field counts. -/
def firstNumber (current : Option Nat) (payload : List Nat) : Option Nat :=
  current.or (some (Symbols.toNat payload))

/-- What the fields say after one more. -/
def Contents.add (signer : Signer) (contents : Contents) (field : Field) : Traced Contents := do
  let payload := field.payload
  match field.tag with
  | 'r' =>
    let route ← routeOf payload
    return { contents with routeHints := contents.routeHints ++ [route] }
  | 'd' =>
    let description ← plainOf payload
    return { contents with descriptions := contents.descriptions ++ [description] }
  | 'h' =>
    if payload.length ≠ 52 then return contents.leave field
    else
      let description ← hashedOf payload
      return { contents with descriptions := contents.descriptions ++ [description] }
  | 'x' => return { contents with expiry := firstNumber contents.expiry payload }
  | 'c' =>
    return { contents with minFinalCltvDelta := firstNumber contents.minFinalCltvDelta payload }
  | 'p' =>
    if payload.length ≠ 52 then return contents.leave field
    else
      let octets ← firstOctets contents.paymentHash payload
      return { contents with paymentHash := octets }
  | 's' =>
    if payload.length ≠ 52 then return contents.leave field
    else
      let octets ← firstOctets contents.paymentSecret payload
      return { contents with paymentSecret := octets }
  | 'n' =>
    if payload.length ≠ 53 then return contents.leave field
    else
      let key ← octetsOf payload
      if ← signer.askIsPubkey key then
        return { contents with namedKey := contents.namedKey.or (some key) }
      else Traced.fail (.invalid (.payeeKey key))
  | '9' => return { contents with features := Symbols.toNat payload }
  | _ => return contents.leave field

/-- What a list of fields says. -/
def Contents.addAll (signer : Signer) (contents : Contents) : List Field → Traced Contents
  | [] => pure contents
  | field :: rest => do
    let contents ← contents.add signer field
    contents.addAll signer rest

/-- What the fields between two places say. The fields before a cut one are read first. -/
def Contents.ofSection (signer : Signer) (symbols : List Nat) (start stop : Nat) :
    Traced Contents := do
  let (fields, trouble) := (Cursor.mk symbols start stop).fields
  let contents ← empty.addAll signer fields
  match trouble with
  | some cause => Traced.fail (.malformed cause)
  | none => return contents

/-! ### Decoding -/

/-- The description of a request: the only one there is. -/
def soleDescription (strict : Bool) (descriptions : List Description) :
    Traced (Option Description) :=
  match descriptions with
  | [description] => pure (some description)
  | _ =>
    if strict then Traced.fail (.invalid (.descriptionCount descriptions.length))
    else do
      Traced.note .debug journal ("invoice has " ++ toString descriptions.length ++
        " description fields, leaving description unset")
      return none

/-- Notes the fields that were set aside, if there are any. -/
def noteSetAside (setAside : List Field) : Traced Unit :=
  if setAside.isEmpty then pure ()
  else Traced.note .debug journal ("skipped unknown tagged fields: " ++
    Text.quotedList (setAside.map fun field => field.tag.toString))

/-- A part that a request has to have. -/
def demand {α : Type} (cause : Invalid) : Option α → Except Fault α
  | some value => .ok value
  | none => .error (.invalid cause)

/-- The human readable part and the symbols of a request, and what the former says. -/
def openText (text : String) : Except Fault (String × List Nat × Network × Option Nat) :=
  match Bech32.decode text with
  | .error cause => .error (.malformed cause)
  | .ok (humanPart, symbols) =>
    match HumanPart.read humanPart with
    | .error cause => .error (.invalid cause)
    | .ok (network, amount) =>
      if symbols.length < timestampLength + Signature.symbolCount then
        .error (.malformed .tooShort)
      else .ok (humanPart, symbols, network, amount)

/-- Decodes a request. If it is to be strict, a request without exactly one description is
refused. -/
def decode (signer : Signer) (strict : Bool) (text : String) : Traced WireInvoice := do
  let (humanPart, symbols, network, amount) ← openText text
  let signatureStart := symbols.length - Signature.symbolCount
  let contents ← Contents.ofSection signer symbols timestampLength signatureStart
  noteSetAside contents.setAside
  let paymentHash ← demand .noPaymentHash contents.paymentHash
  let paymentSecret ← demand .noPaymentSecret contents.paymentSecret
  let description ← soleDescription strict contents.descriptions
  let signature ← octetsOf (symbols.drop signatureStart)
  let payeeKey ←
    Signature.check signer humanPart (symbols.take signatureStart) signature contents.namedKey
  return {
    humanPart := humanPart
    network := network
    amount := amount
    timestamp := Symbols.toNat (symbols.take timestampLength)
    paymentHash := paymentHash
    paymentSecret := paymentSecret
    description := description
    expiry := contents.expiry
    minFinalCltvDelta := contents.minFinalCltvDelta
    routeHints := contents.routeHints
    features := contents.features
    namedKey := contents.namedKey
    payeeKey := payeeKey
    signature := signature
    setAside := contents.setAside }

/-- Seconds until the request expires. -/
def expiryOrDefault (invoice : WireInvoice) : Nat := invoice.expiry.getD defaultExpiry

/-- The time-lock difference of the last hop. -/
def cltvDeltaOrDefault (invoice : WireInvoice) : Nat :=
  invoice.minFinalCltvDelta.getD defaultCltvDelta

end WireInvoice

end Bolt11
