/-
This file encodes a payment request that has every field but its signature.

The owner of the payee's key signs the digest; the text of the request is then put together from
the request and the signature. The fields are written in a fixed order: payment hash, payment
secret, description, payee key, expiry, time-lock difference, route hints, features.
-/

import Bolt11.Description
import Bolt11.Field
import Bolt11.HumanPart
import Bolt11.RouteHint
import Bolt11.Signature

namespace Bolt11

/-- A request without a signature. Nothing is checked before it is encoded. -/
structure UnsignedInvoice where
  network : Network
  amount : Option Int
  timestamp : Int
  paymentHash : Bytes
  paymentSecret : Bytes
  description : Option Description
  expiry : Option Int
  minFinalCltvDelta : Option Int
  routeHints : List RouteHint
  features : Int
  payeeKey : Option Bytes
  deriving BEq, Repr

namespace UnsignedInvoice

/-- The most octets that a description in the clear may have. -/
def maxDescriptionLength : Nat := 639

/-! ### Fields -/

/-- Fails unless a condition holds. -/
def ensure (condition : Bool) (cause : Unencodable) : Except Fault Unit :=
  if condition then .ok () else .error (.unencodable cause)

/-- Refuses an amount that is not positive. -/
def checkAmount [Runtime] : Option Int → Except Fault Unit
  | none => .ok ()
  | some amount => if 0 < amount then .ok () else .error (Fault.unencodable (.amount amount)).worded

/-- The field of a description. -/
def descriptionField : Option Description → Except Fault (List Nat)
  | some (.plain text) =>
    let octets := Text.Utf8.encode text
    if octets.length ≤ maxDescriptionLength then Field.writeBytes "d" octets
    else .error (.unencodable (.descriptionLength octets.length))
  | some (.hashed digest) => Field.writeBytes "h" digest.octets
  | some (.unread _) => .error .noSuchOperation
  | none => .error (.unencodable .noDescription)

/-- The field of a payee key, if there is one. -/
def payeeKeyField : Option Bytes → Except Fault (List Nat)
  | none => .ok []
  | some key =>
    if key.length = Signature.keyLength then Field.writeBytes "n" key
    else .error (.unencodable .payeeKey)

/-- The field of a number, if there is one. -/
def numberField [Runtime] (tag : String) : Option Int → Except Fault (List Nat)
  | none => .ok []
  | some number => Field.writeInt tag number

/-- A fault in the wire form of a route hint as a missing encoding. -/
def routeFault : Fault → Fault
  | .badValue cause => .unencodable (.routeValue cause)
  | .overflow cause => .unencodable (.routeNumber cause)
  | fault => fault

/-- The field of a route hint, which has to have a hop. -/
def routeField (hint : RouteHint) : Except Fault (List Nat) :=
  if hint.hops.isEmpty then .error (.unencodable .emptyRoute)
  else match hint.toBytes with
    | .error fault => .error (routeFault fault)
    | .ok octets => Field.writeBytes "r" octets

/-- The field of the features; there is none if no feature is set. -/
def featuresField [Runtime] (features : Int) : Except Fault (List Nat) :=
  if features = 0 then .ok [] else Field.writeInt "9" features

/-- The timestamp and the fields. -/
def symbols [Runtime] (invoice : UnsignedInvoice) : Except Fault (List Nat) := do
  checkAmount invoice.amount
  ensure (invoice.paymentHash.length == 32) .paymentHash
  ensure (invoice.paymentSecret.length == 32) .paymentSecret
  let timestamp ← Symbols.ofIntFixed 35 invoice.timestamp
  let paymentHash ← Field.writeBytes "p" invoice.paymentHash
  let paymentSecret ← Field.writeBytes "s" invoice.paymentSecret
  let description ← descriptionField invoice.description
  let payeeKey ← payeeKeyField invoice.payeeKey
  let expiry ← numberField "x" invoice.expiry
  let minFinalCltvDelta ← numberField "c" invoice.minFinalCltvDelta
  let routeHints ← invoice.routeHints.mapM routeField
  let features ← featuresField invoice.features
  return timestamp ++ paymentHash ++ paymentSecret ++ description ++ payeeKey ++ expiry ++
    minFinalCltvDelta ++ routeHints.flatten ++ features

/-! ### Signing -/

/-- The human readable part. -/
def humanPart [Runtime] (invoice : UnsignedInvoice) : Except Fault String :=
  match HumanPart.write invoice.network invoice.amount with
  | .ok humanPart => .ok humanPart
  | .error cause => .error (.badValue cause)

/-- The digest that the payee signs. -/
def signingDigest [Runtime] (invoice : UnsignedInvoice) : Except Fault Bytes := do
  let humanPart ← invoice.humanPart
  let symbols ← invoice.symbols
  Signature.digest humanPart symbols

/-- The text of the request with a signature of sixty-five octets, the last of which is the
recovery number. -/
def sign [Runtime] (invoice : UnsignedInvoice) (signature : Bytes) : Except Fault String :=
  let number := (signature.getD 64 0).toNat
  if signature.length ≠ Signature.length then
    .error (.badValue (.signatureLength signature.length))
  else if 3 < number then .error (.badValue (.recoveryByte number))
  else do
    let humanPart ← invoice.humanPart
    let symbols ← invoice.symbols
    match Bech32.encode humanPart ((symbols ++ Symbols.ofBytes signature).map Int.ofNat) with
    | .ok text => .ok text
    | .error cause => .error (.badValue cause)

end UnsignedInvoice

end Bolt11
