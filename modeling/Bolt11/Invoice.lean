/-
This file holds invoices: payment requests as an application sees them.

An invoice comes from the text of a request, with its signature checked, or from a stored
document, where nothing is checked. What a document says is kept as it is wherever the invoice
only carries it along; numbers, the payment secret, the features and the route hints are read.
A document may leave the payment secret null; such an invoice can neither be stored again nor
rebuilt.
-/

import Bolt11.Invoice.Wire
import Bolt11.Settings

namespace Bolt11

/-- An invoice. -/
structure Invoice where
  text : Datum
  network : Network
  payeeKey : Datum
  paymentHash : Datum
  description : Option Description
  amount : Datum
  timestamp : Int
  expiry : Int
  routeHints : List RouteHint
  paymentSecret : Option Bytes
  minFinalCltvDelta : Int
  features : Nat
  signature : Option Bytes
  setAside : List Field
  deriving BEq, Repr

namespace Invoice

/-- The journal of invoices. -/
def journal : String := "lninvoice.invoice"

/-! ### From the text of a request -/

/-- Whether a character is the given lower-case letter when case does not matter. The dotted and
the dotless i count as an i. -/
def isLetter (letter c : Char) : Bool :=
  c.toLower == letter || (letter == 'i' && (c.toNat == 0x130 || c.toNat == 0x131))

/-- A text without the scheme of a link, if it begins with one. -/
def dropScheme (text : List Char) : List Char :=
  let scheme := "lightning:".toList
  let head := text.take scheme.length
  if head.length == scheme.length && (scheme.zip head).all (fun pair => isLetter pair.1 pair.2) then
    text.drop scheme.length
  else text

/-- The text of a request without blanks around it and without the scheme of a link. A text that
is missing or blank is refused; what is left of another may be empty. -/
def normalize : Option String → Except Fault String
  | none => .error .emptyInput
  | some text =>
    let trimmed := Text.trim text.toList
    if trimmed.isEmpty then .error .emptyInput
    else .ok (String.ofList (Text.trim (dropScheme trimmed)))

/-- The invoice of a decoded request. -/
def ofWire (wire : WireInvoice) (text : String) : Invoice where
  text := .text text
  network := wire.network
  payeeKey := .text (Text.hexOf wire.payeeKey)
  paymentHash := .text (Text.hexOf wire.paymentHash)
  description := wire.description
  amount := Datum.ofOption (wire.amount.map fun amount => .int amount)
  timestamp := wire.timestamp
  expiry := wire.expiryOrDefault
  routeHints := wire.routeHints
  paymentSecret := some wire.paymentSecret
  minFinalCltvDelta := wire.cltvDeltaOrDefault
  features := wire.features
  signature := some wire.signature
  setAside := wire.setAside

/-- The note that a parsed invoice leaves. -/
def parseNote (invoice : Invoice) : String :=
  "parsed invoice: net=" ++ invoice.network.name ++ " payment_hash=" ++
    invoice.paymentHash.toText ++ " amount_msat=" ++ invoice.amount.toText ++
    " num_route_hints=" ++ toString invoice.routeHints.length

/-- Whether the settings, if there are any, ask for exactly one description. -/
def strictness [Runtime] (inUse : Network) : Option Settings → Except Fault Bool
  | some settings => settings.isStrict inUse
  | none => .ok false

/-- The invoice of a text. The settings, if there are any, say whether it has to have exactly
one description. -/
def parse [Runtime] (signer : Signer) (inUse : Network) (settings : Option Settings)
    (text : Option String) : Traced Invoice := do
  let text ← normalize text
  if text = "" then Traced.fail .emptyInput
  else
    let strict ← strictness inUse settings
    let wire ← WireInvoice.decode signer strict text
    let invoice := ofWire wire text
    Traced.note .debug journal invoice.parseNote
    return invoice

/-! ### Expiry -/

/-- The second at which the invoice expires. -/
def expiresAt (invoice : Invoice) : Int := invoice.timestamp + invoice.expiry

/-- Whether the invoice has expired by a moment, given as `digits` divided by ten to the
`places`. An expiry of zero seconds is an expiry and not its absence. -/
def isExpired (invoice : Invoice) (digits : Int) (places : Nat) : Bool :=
  decide (invoice.expiresAt * Nat.pow 10 places < digits)

/-! ### Network -/

/-- How a caller says which network an invoice has to be of. -/
inductive Demand where
  /-- The one that settings or the network in use decide. -/
  | decided
  | named (name : String)
  | given (network : Network)
  deriving DecidableEq, Repr

/-- The network that a demand stands for. -/
def Demand.network [Runtime] (inUse : Network) (settings : Option Settings) :
    Demand → Except Fault Network
  | decided =>
    match settings with
    | some settings => settings.expectedNetwork inUse
    | none => .ok inUse
  | named name =>
    match Network.ofName? name with
    | some network => .ok network
    | none => .error (.wrongNetwork (.unknownName name))
  | given network => .ok network

/-- Refuses an invoice that is not of the network it has to be of. -/
def validateNetwork [Runtime] (invoice : Invoice) (inUse : Network) (settings : Option Settings)
    (demand : Demand) : Except Fault Unit :=
  match demand.network inUse settings with
  | .error fault => .error fault
  | .ok expected =>
    if invoice.network = expected then .ok ()
    else .error (.wrongNetwork (.mismatch invoice.network expected))

end Invoice

end Bolt11
