/-
This file rebuilds an invoice as a request without a signature, with another amount and other
route hints.

Everything else stays as it is. Whoever rebuilds an invoice does not hold the payee's key, so
the result has to be signed by the one who does.
-/

import Bolt11.Invoice
import Bolt11.Invoice.Unsigned
import Bolt11.RouteHint.Merging

namespace Bolt11.Invoice

/-- The journal of rebuilding. -/
def rebuildJournal : String := "lninvoice.reconstruct"

/-- The amount of a rebuilt request: a positive integer. -/
def rebuiltAmount [Runtime] (value : Datum) : Except Fault Int :=
  let refused := (Fault.unbuildable (.amount value)).worded
  match value.asInt? with
  | some amount => if 0 < amount then .ok amount else .error refused
  | none => .error refused

/-- Refuses a hop that does not start at a node with a public key. -/
def checkHop (signer : Signer) (hop : RouteHop) : Traced Unit :=
  match hop.nodeOctets with
  | .error _ => Traced.fail (.unbuildable (.malformedNode hop.nodeId))
  | .ok key => do
    if ← signer.askIsPubkey key then pure ()
    else Traced.fail (.unbuildable (.invalidNode hop.nodeId))

/-- Refuses the first hop that does not start at a node with a public key. -/
def checkHops (signer : Signer) : List RouteHop → Traced Unit
  | [] => pure ()
  | hop :: rest => do
    checkHop signer hop
    checkHops signer rest

/-- A fault of the encoding as a reason why a request cannot be rebuilt. -/
def rebuildFault : Fault → Fault
  | .unencodable cause => .unbuildable (.encoding cause)
  | fault => fault

/-- The payment secret of a rebuilt request. A length is asked of it, which it has only if it is
there, after the length of the payment hash. -/
def rebuiltSecret (invoice : Invoice) (paymentHash : Bytes) : Except Fault Bytes :=
  match invoice.paymentSecret with
  | some secret => .ok secret
  | none =>
    if paymentHash.length = 32 then .error .wrongKind
    else .error (.unbuildable (.encoding .paymentHash))

/-- The request rebuilt from an invoice with the given amount and route hints. -/
def rebuild [Runtime] (signer : Signer) (invoice : Invoice) (amount : Datum)
    (hints : List RouteHint) : Traced UnsignedInvoice := do
  if invoice.description.isNone then
    Traced.fail (.unbuildable .noDescription)
  else
    let amount ← rebuiltAmount amount
    checkHops signer (hints.flatMap RouteHint.hops)
    let paymentHash ← invoice.paymentHash.toBytes
    let paymentSecret ← invoice.rebuiltSecret paymentHash
    let request : UnsignedInvoice := {
      network := invoice.network
      amount := some amount
      timestamp := invoice.timestamp
      paymentHash := paymentHash
      paymentSecret := paymentSecret
      description := invoice.description
      expiry := some invoice.expiry
      minFinalCltvDelta := some invoice.minFinalCltvDelta
      routeHints := hints
      features := invoice.features
      payeeKey := none }
    match request.symbols with
    | .error fault => Traced.fail (rebuildFault fault)
    | .ok _ => return request

/-- The note that merged hints leave. -/
def mergeNote (invoice : Invoice) (merged : List RouteHint) (provider : Option RouteHint)
    (includeExisting : Bool) : String :=
  "merged route hints for " ++ invoice.paymentHash.toText ++ ": " ++
    toString invoice.routeHints.length ++ " existing -> " ++ toString merged.length ++
    " (lsp_hint=" ++ (if provider.isSome then "yes" else "no") ++ ", include_existing=" ++
    (if includeExisting then "True" else "False") ++ ")"

/-- The request rebuilt from a text so that it can be paid through a service provider. -/
def mergeAndRebuild [Runtime] (signer : Signer) (inUse : Network) (settings : Option Settings)
    (text : Option String) (includeExisting : Bool) (provider : Option RouteHint)
    (amount : Datum) : Traced UnsignedInvoice := do
  let invoice ← parse signer inUse settings text
  let merged ← RouteHint.merge invoice.routeHints provider includeExisting
  Traced.note .debug rebuildJournal (mergeNote invoice merged provider includeExisting)
  rebuild signer invoice amount merged

end Bolt11.Invoice
