/-
This file proves which hints of an invoice are kept beside the hint of a service provider.

Merging compares the ids of the nodes as texts, but what counts on the wire are the octets that the
ids stand for. The ids of an invoice's hints are written the one way the reader writes them. An id
of the provider's hint has been put in lower case, so it is written that way too, unless there is
white space in it, which is skipped when the octets are read. An id with white space therefore
equals no id of the invoice, and a hint of the invoice that starts a hop at its node is kept.
-/

import Bolt11.Proofs.LetterCase
import Bolt11.Proofs.Rebuildable

namespace Bolt11

/-! ### The node of a hop on the wire -/

namespace RouteHop

/-- Two hops start at the same node: the octets of a node are the first thirty-three of the wire
form. -/
def SharesNode (hop other : RouteHop) : Prop :=
  ∃ octets others, hop.toBytes = .ok octets ∧ other.toBytes = .ok others ∧
    octets.take 33 = others.take 33

/-- The id of the node is in lower case, as it is for every hop that is made. -/
def IsLowered (hop : RouteHop) : Prop :=
  ∃ written : String, hop.nodeId = String.ofList (Text.lower written.toList)

/-- The id of the node is written without white space. -/
def IsSolid (hop : RouteHop) : Prop := ∀ c ∈ hop.nodeId.toList, Text.isHexGap c = false

theorem isLowered_make (nodeId : String) (channel baseFee proportionalFee cltvDelta : Int)
    (htlcMinimum htlcMaximum : Datum) :
    (make nodeId channel baseFee proportionalFee cltvDelta htlcMinimum htlcMaximum).IsLowered :=
  ⟨nodeId, rfl⟩

/-- The octets of the node come first on the wire. -/
theorem nodeOctets_of_toBytes {hop : RouteHop} {octets : Bytes}
    (written : hop.toBytes = .ok octets) : hop.nodeOctets = .ok (octets.take 33) := by
  obtain ⟨node, channel, baseFee, proportionalFee, cltvDelta, parts, ⟨nodeRead, sized⟩, -⟩ :=
    toBytes_eq_ok written
  rw [nodeRead, parts]
  simp only [List.append_assoc]
  rw [List.take_left' sized]

/-- Hops with a wire form start at the same node exactly if their ids stand for the same octets. -/
theorem sharesNode_iff {hop other : RouteHop} (fits : hop.Fits) (fitsToo : other.Fits) :
    hop.SharesNode other ↔ hop.nodeOctets = other.nodeOctets := by
  obtain ⟨octets, written⟩ := exists_toBytes_iff.mpr fits
  obtain ⟨others, writtenToo⟩ := exists_toBytes_iff.mpr fitsToo
  rw [nodeOctets_of_toBytes written, nodeOctets_of_toBytes writtenToo, Except.ok.injEq]
  constructor
  · rintro ⟨own, ownToo, made, madeToo, same⟩
    obtain rfl := Except.ok.inj (written.symm.trans made)
    obtain rfl := Except.ok.inj (writtenToo.symm.trans madeToo)
    exact same
  · intro same
    exact ⟨octets, others, written, writtenToo, same⟩

/-- The id of a hop in lower case is what is written for its octets exactly if there is no white
space in it. -/
theorem nodeId_eq_iff {hop : RouteHop} (lowered : hop.IsLowered) {node : Bytes}
    (read : hop.nodeOctets = .ok node) : hop.nodeId = Text.hexOf node ↔ hop.IsSolid := by
  constructor
  · intro written
    rw [IsSolid, written]
    exact Text.solid_hexOf node
  · intro solid
    obtain ⟨written, isLower⟩ := lowered
    have digits := nodeOctets_eq_ok_iff.mp read
    have ascii := Text.ascii_of_readHex digits
    rw [isLower, String.toList_ofList] at ascii
    have small := Text.lowered_of_ascii ascii
    rw [← String.toList_ofList (l := Text.lower written.toList), ← isLower] at small
    exact (Text.hexOf_of_readHex small solid digits).symm

/-- The id of a hop in lower case is that of a hop in canonical form exactly if both start at the
same node and there is no white space in the id. -/
theorem nodeId_eq_iff_sharesNode {own hop : RouteHop} (lowered : own.IsLowered) (fits : own.Fits)
    (fitsToo : hop.Fits) (canonical : hop.canonical = hop) :
    own.nodeId = hop.nodeId ↔ own.SharesNode hop ∧ own.IsSolid := by
  obtain ⟨ownNode, ownRead, -⟩ := fits.node
  obtain ⟨node, nodeRead, -⟩ := fitsToo.node
  have written := nodeId_of_canonical canonical nodeRead
  rw [sharesNode_iff fits fitsToo]
  constructor
  · intro same
    have octetsSame : own.nodeOctets = hop.nodeOctets := by rw [nodeOctets, nodeOctets, same]
    rw [written] at same
    rw [← nodeId_eq_iff lowered (octetsSame.trans nodeRead)]
    exact ⟨octetsSame, same⟩
  · rintro ⟨octetsSame, solid⟩
    rw [written]
    exact (nodeId_eq_iff lowered (octetsSame.trans nodeRead)).mpr solid

end RouteHop

/-! ### Hints that are kept -/

namespace RouteHint

/-- Two hints have no text in common among the ids of their nodes. -/
theorem isEmpty_sharedNodes_iff {hint other : RouteHint} :
    (hint.sharedNodes other).isEmpty = true ↔
      ∀ hop ∈ hint.hops, ∀ own ∈ other.hops, own.nodeId ≠ hop.nodeId := by
  have member (id : String) :
      id ∈ hint.sharedNodes other ↔ id ∈ hint.nodeIds ∧ id ∈ other.nodeIds := by
    rw [sharedNodes, sortedOnce, List.mem_eraseDups, List.mem_mergeSort, List.mem_filter,
      List.contains_iff_mem]
  rw [List.isEmpty_iff, List.eq_nil_iff_forall_not_mem]
  constructor
  · intro none_shared hop among own amongOther same
    exact none_shared hop.nodeId ((member _).mpr ⟨List.mem_map_of_mem among,
      same ▸ List.mem_map_of_mem amongOther⟩)
  · intro apart id shared
    obtain ⟨inHint, inOther⟩ := (member id).mp shared
    obtain ⟨hop, among, rfl⟩ := List.mem_map.mp inHint
    obtain ⟨own, amongOther, same⟩ := List.mem_map.mp inOther
    exact apart hop among own amongOther same

/-- What is looked at when a hint in canonical form is merged with a provider's hint that has a wire
form: not whether a hop of the provider's hint starts at one of its nodes, but whether one does
whose id has no white space in it. -/
theorem isEmpty_sharedNodes_iff_sharesNode {hint provider : RouteHint}
    (made : ∀ own ∈ provider.hops, own.IsLowered) (fits : ∀ own ∈ provider.hops, own.Fits)
    (read : ∀ hop ∈ hint.hops, hop.Fits ∧ hop.canonical = hop) :
    (hint.sharedNodes provider).isEmpty = true ↔
      ∀ hop ∈ hint.hops, ∀ own ∈ provider.hops, own.SharesNode hop → ¬ own.IsSolid := by
  rw [isEmpty_sharedNodes_iff]
  refine forall₂_congr fun hop among => forall₂_congr fun own amongOwn => ?_
  obtain ⟨hopFits, canonical⟩ := read hop among
  rw [Ne, RouteHop.nodeId_eq_iff_sharesNode (made own amongOwn) (fits own amongOwn) hopFits
    canonical, not_and]

end RouteHint

namespace Invoice

variable {signer : Signer} {inUse : Network} {settings : Option Settings} {text : Option String}

/-- The hops of the hints of an invoice that comes from a text have a wire form and are in canonical
form. -/
theorem fits_of_parse [Runtime] {invoice : Invoice}
    (parsed : (parse signer inUse settings text).outcome = .ok invoice) :
    ∀ hint ∈ invoice.routeHints, ∀ hop ∈ hint.hops, hop.Fits ∧ hop.canonical = hop := by
  obtain ⟨normalized, strict, wire, -, -, -, decoded, rfl⟩ := parse_eq_ok_iff.mp parsed
  obtain ⟨symbols, contents, parts, -⟩ := WireInvoice.isDecoding_of_decode decoded
  obtain ⟨-, fields, -, -, means⟩ := WireInvoice.means_of_isDecoding parts
  intro hint member
  obtain ⟨field, -, leads⟩ := means.exists_leads hint member
  exact RouteHint.fits_of_leads leads

/-- The request that a text is rebuilt as ends with the provider's hint. Before it come, in their
order, the hints of the text that share a node with no hop of the provider's hint but for hops
whose id has white space in it. -/
theorem mergeAndRebuild_routeHints [Runtime] {provider : RouteHint}
    (made : ∀ own ∈ provider.hops, own.IsLowered) {amount : Datum} {request : UnsignedInvoice}
    (rebuilt : (mergeAndRebuild signer inUse settings text true (some provider) amount).outcome =
      .ok request) :
    ∃ invoice isApart, (parse signer inUse settings text).outcome = .ok invoice ∧
      request.routeHints = invoice.routeHints.filter isApart ++ [provider] ∧
      ∀ hint ∈ invoice.routeHints, isApart hint = true ↔
        ∀ hop ∈ hint.hops, ∀ own ∈ provider.hops, own.SharesNode hop → ¬ own.IsSolid := by
  obtain ⟨invoice, parsed, rebuilt⟩ := Traced.bind_outcome_ok_iff.mp rebuilt
  obtain ⟨merged, isMerged, rebuilt⟩ := Traced.bind_outcome_ok_iff.mp rebuilt
  obtain ⟨-, -, rebuilt⟩ := Traced.bind_outcome_ok_iff.mp rebuilt
  obtain ⟨-, -, msat, hash, secret, symbols, -, -, -, written, isRequest⟩ :=
    rebuild_eq_ok_iff.mp rebuilt
  have hints : request.routeHints = merged := by rw [isRequest]; rfl
  obtain ⟨kept, isKept, isWhole⟩ := Traced.bind_outcome_ok_iff.mp isMerged
  obtain rfl := Except.ok.inj ((RouteHint.keepApart_eq_ok _ _).symm.trans isKept)
  obtain rfl := Except.ok.inj isWhole
  have encodable := UnsignedInvoice.exists_symbols_iff.mp ⟨symbols, written⟩
  have fits := (encodable.routeHints provider (by rw [hints]; simp)).hops
  exact ⟨invoice, _, parsed, hints, fun hint member =>
    RouteHint.isEmpty_sharedNodes_iff_sharesNode made fits (fits_of_parse parsed hint member)⟩

/-- A text with a hint over one node, rebuilt for a provider whose hint starts at that node too, its
id with a blank in front: both hints are in the request. -/
theorem mergeAndRebuild_routeHints_blank :
    let signer : Signer := ⟨fun _ _ _ => .ok false, fun _ _ _ => .ok [1, 2, 3], fun _ => .ok true⟩
    let node : Bytes := List.replicate 33 2
    let fields : List Field := [⟨'p', List.replicate 52 0⟩, ⟨'s', List.replicate 52 0⟩, ⟨'d', []⟩,
      ⟨'r', Symbols.ofBytes (node ++ List.replicate 18 0)⟩]
    let symbols := List.replicate 7 1 ++ fields.flatMap Field.spelling ++ List.replicate 104 0
    let text := String.ofList (Bech32.write .bech32 "lnbc".toList symbols)
    let own := RouteHop.make (" " ++ Text.hexOf node) 1 0 0 0 .null .null
    ∃ request hop, (mergeAndRebuild signer .mainnet none (some text) true (some ⟨[own]⟩)
        (.int 1)).outcome = .ok request ∧
      request.routeHints = [⟨[hop]⟩, ⟨[own]⟩] ∧ own.SharesNode hop := by
  intro signer node fields symbols text own
  have small : ∀ symbol ∈ symbols, symbol < 32 := by decide +kernel
  have opened : WireInvoice.openText text = .ok ("lnbc", symbols, .mainnet, none) :=
    WireInvoice.openText_without_amount small (by decide +kernel)
  have accepted : (WireInvoice.decode signer false text).outcome.toOption.map (fun wire =>
      (wire.routeHints.map RouteHint.nodeIds, (do
        let merged ← RouteHint.merge wire.routeHints (some ⟨[own]⟩) true
        rebuild signer (ofWire wire text) (.int 1) merged : Traced _).outcome.isOk)) =
      some ([[Text.hexOf node]], true) := by
    rw [WireInvoice.decode, opened]
    decide +kernel
  obtain ⟨wire, decoded, seen⟩ := exists_of_map_toOption accepted
  obtain ⟨ids, isRebuilt⟩ := Prod.mk.inj seen
  have parsed : (parse signer .mainnet none (some text)).outcome = .ok (ofWire wire text) :=
    parse_write (HumanPart.isHumanPart_form .mainnet none) small decoded
  obtain ⟨request, rebuilt⟩ := exists_of_isOk isRebuilt
  obtain ⟨merged, isMerged, rebuilt⟩ := Traced.bind_outcome_ok_iff.mp rebuilt
  have result : (mergeAndRebuild signer .mainnet none (some text) true (some ⟨[own]⟩)
      (.int 1)).outcome = .ok request :=
    Traced.bind_outcome_ok_iff.mpr ⟨_, parsed, Traced.bind_outcome_ok_iff.mpr
      ⟨merged, isMerged, Traced.bind_outcome_ok_iff.mpr ⟨(), rfl, rebuilt⟩⟩⟩
  obtain ⟨invoice, isApart, isInvoice, hints, apart⟩ := mergeAndRebuild_routeHints
    (List.forall_mem_singleton.mpr (RouteHop.isLowered_make _ _ _ _ _ _ _)) result
  obtain rfl := Except.ok.inj (parsed.symm.trans isInvoice)
  -- the hint of the text is over one hop
  obtain ⟨⟨hops⟩, hintsRead, hopIds⟩ := List.map_eq_singleton_iff.mp ids
  obtain ⟨hop, rfl, hopId⟩ := List.map_eq_singleton_iff.mp hopIds
  have fits := fits_of_parse parsed
  simp only [show (ofWire wire text).routeHints = [⟨[hop]⟩] from hintsRead,
    List.forall_mem_singleton] at hints apart fits
  have gap : ¬ own.IsSolid := by
    intro solid
    have blank : ' ' ∈ own.nodeId.toList := by decide +kernel
    exact absurd (solid ' ' blank) (by decide)
  have isNode : own.nodeOctets = .ok node := RouteHop.nodeOctets_eq_ok_iff.mpr (by decide +kernel)
  have ownFits : own.Fits := ⟨⟨node, isNode, rfl⟩, by decide, by decide, by decide, by decide⟩
  refine ⟨request, hop, result, ?_, (RouteHop.sharesNode_iff ownFits fits.1).mpr ?_⟩
  · rw [hints, List.filter_singleton, apart.mpr fun _ => gap]
    rfl
  · rw [isNode, RouteHop.nodeOctets, hopId, Text.readHex_hexOf]

end Invoice

end Bolt11
