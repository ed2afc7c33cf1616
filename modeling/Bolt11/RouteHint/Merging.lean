/-
This file merges the route hints of an invoice with the hint of a service provider.

The provider's hint comes last and owns its nodes: a hint of the invoice that starts a hop at one
of them is dropped, and a note says so. If the invoice's hints are not wanted, the provider's
hint stands alone; if there is no provider's hint, the invoice's hints stay as they are.
-/

import Bolt11.RouteHint
import Bolt11.Trace

namespace Bolt11.RouteHint

/-- The journal of merging. -/
def mergeJournal : String := "lninvoice.route_hints"

/-- The nodes at which both hints start a hop, in rising order. -/
def sharedNodes (hint other : RouteHint) : List String :=
  sortedOnce (hint.nodeIds.filter other.nodeIds.contains)

/-- The hints that share no node with the provider's hint, in their order. -/
def keepApart (provider : RouteHint) : List RouteHint → Traced (List RouteHint)
  | [] => pure []
  | hint :: rest => do
    let shared := hint.sharedNodes provider
    if shared.isEmpty then
      return hint :: (← keepApart provider rest)
    else
      Traced.note .info mergeJournal
        ("dropping route hint that conflicts with LSP hint at nodes " ++ Text.quotedList shared)
      keepApart provider rest

/-- The hints of an invoice merged with the provider's hint. -/
def merge (existing : List RouteHint) (provider : Option RouteHint) (includeExisting : Bool) :
    Traced (List RouteHint) :=
  match provider with
  | none => pure existing
  | some provider =>
    if includeExisting then do
      return (← keepApart provider existing) ++ [provider]
    else pure [provider]

end Bolt11.RouteHint
