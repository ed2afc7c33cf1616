/-
This file proves that a rebuilt request, once it is signed, is the invoice it was rebuilt from but
for the amount, the route hints and the key.

The text of the signed request needs no normalization, so what is read again is what was written.
An invoice whose expiry or time-lock difference was left to the default is rebuilt with the default
written out, and that reads the same. It does not matter which signer, which network in use and
which settings the text is read with the second time: a rebuilt request has exactly one
description.
-/

import Bolt11.Proofs.RebuildingFaults
import Bolt11.Proofs.RoundTrip

namespace Bolt11

namespace Invoice

/-- The text of a signed request is in its normal form. -/
theorem normalize_signedText {request : UnsignedInvoice} {symbols : List Nat}
    (encoded : request.IsEncoded symbols) (signature : Bytes) :
    normalize (some (request.signedText symbols signature)) =
        .ok (request.signedText symbols signature) ∧
      request.signedText symbols signature ≠ "" := by
  obtain ⟨tail, head⟩ : ∃ tail, request.part.toList = 'l' :: 'n' :: tail := by
    unfold UnsignedInvoice.part HumanPart.form
    cases request.amount with
    | none => exact ⟨request.network.currency.toList, by simp⟩
    | some msat => exact ⟨(request.network.currency ++ Amount.shortForm msat).toList, by simp⟩
  have writable := UnsignedInvoice.isHumanPart encoded
  unfold UnsignedInvoice.signedText
  rw [head] at writable ⊢
  exact normalize_write writable (UnsignedInvoice.append_signature_lt encoded signature)

/-! ### Rebuilding -/

/-- A secret is taken if it is there. -/
theorem rebuiltSecret_eq_ok_iff {invoice : Invoice} {hash secret : Bytes} :
    invoice.rebuiltSecret hash = .ok secret ↔ invoice.paymentSecret = some secret := by
  unfold rebuiltSecret
  cases invoice.paymentSecret with
  | some own => rw [Except.ok.injEq, Option.some.injEq]
  | none =>
    refine iff_of_false ?_ ?_
    · intro made
      simp only at made
      split at made
      · cases made
      · cases made
    · intro there
      cases there

/-- The request that says what an invoice says, with another amount, other hints and no key. Both
numbers that have a default are written out. -/
def requestWith (invoice : Invoice) (msat : Int) (hash secret : Bytes) (hints : List RouteHint) :
    UnsignedInvoice where
  network := invoice.network
  amount := some msat
  timestamp := invoice.timestamp
  paymentHash := hash
  paymentSecret := secret
  description := invoice.description
  expiry := some invoice.expiry
  minFinalCltvDelta := some invoice.minFinalCltvDelta
  routeHints := hints
  features := invoice.features
  payeeKey := none

/-- A request is rebuilt if there is a description, every argument passes its check, the hash and
the secret are there, and what is put together from all of them can be encoded. -/
theorem rebuild_eq_ok_iff [Runtime] {signer : Signer} {invoice : Invoice} {amount : Datum}
    {hints : List RouteHint} {request : UnsignedInvoice} :
    (rebuild signer invoice amount hints).outcome = .ok request ↔
      invoice.description.isSome = true ∧
        (checkHops signer (hints.flatMap RouteHint.hops)).outcome = .ok () ∧
        ∃ msat hash secret symbols, (amount.asInt? = some msat ∧ 0 < msat) ∧
          invoice.paymentHash.toBytes = .ok hash ∧ invoice.paymentSecret = some secret ∧
          request.symbols = .ok symbols ∧ request = invoice.requestWith msat hash secret hints := by
  unfold rebuild
  cases described : invoice.description.isSome with
  | false =>
    rw [if_pos (by rw [← Option.not_isSome, described]; rfl)]
    refine iff_of_false ?_ ?_
    · intro rebuilt
      cases rebuilt
    · rintro ⟨there, -⟩
      cases there
  | true =>
    rw [if_neg (by rw [← Option.not_isSome, described]; exact Bool.false_ne_true)]
    simp only [Traced.bind_outcome_ok_iff, true_and]
    constructor
    · rintro ⟨msat, amountTaken, ⟨⟩, checked, hash, hashRead, secret, secretTaken, rebuilt⟩
      split at rebuilt
      · cases rebuilt
      rename_i symbols written
      obtain rfl := Except.ok.inj rebuilt
      exact ⟨checked, msat, hash, secret, symbols, rebuiltAmount_eq_ok_iff.mp amountTaken,
        hashRead, rebuiltSecret_eq_ok_iff.mp secretTaken, written, rfl⟩
    · rintro ⟨checked, msat, hash, secret, symbols, amountIs, hashRead, secretThere, written, rfl⟩
      refine ⟨msat, rebuiltAmount_eq_ok_iff.mpr amountIs, (), checked, hash, hashRead, secret,
        rebuiltSecret_eq_ok_iff.mpr secretThere, ?_⟩
      unfold requestWith at written ⊢
      rw [written]
      rfl

/-- A rebuilt request says what the invoice says but for what has been replaced, and it can be
encoded. -/
theorem rebuild_eq_ok [Runtime] {signer : Signer} {invoice : Invoice} {amount : Datum}
    {hints : List RouteHint} {request : UnsignedInvoice}
    (rebuilt : (rebuild signer invoice amount hints).outcome = .ok request) :
    ∃ msat hash secret symbols, amount.asInt? = some msat ∧
      invoice.paymentHash.toBytes = .ok hash ∧ invoice.paymentSecret = some secret ∧
      request.symbols = .ok symbols ∧ request = invoice.requestWith msat hash secret hints := by
  obtain ⟨-, -, msat, hash, secret, symbols, ⟨amountIs, -⟩, others⟩ := rebuild_eq_ok_iff.mp rebuilt
  exact ⟨msat, hash, secret, symbols, amountIs, others⟩

/-- What a rebuilt and signed invoice is: everything as in the original but the amount, the hints,
the key and the signature, with nothing set aside. -/
structure IsRebuilt (original : Invoice) (msat : Int) (hints : List RouteHint)
    (signature key : Bytes) (rebuilt : Invoice) : Prop where
  network : rebuilt.network = original.network
  paymentHash : rebuilt.paymentHash = original.paymentHash
  paymentSecret : rebuilt.paymentSecret = original.paymentSecret
  description : rebuilt.description = original.description
  timestamp : rebuilt.timestamp = original.timestamp
  expiry : rebuilt.expiry = original.expiry
  minFinalCltvDelta : rebuilt.minFinalCltvDelta = original.minFinalCltvDelta
  features : rebuilt.features = original.features
  amount : rebuilt.amount = .int msat
  payeeKey : rebuilt.payeeKey = .text (Text.hexOf key)
  routeHints : rebuilt.routeHints = hints.map RouteHint.canonical
  signature : rebuilt.signature = some signature
  setAside : rebuilt.setAside = []

/-- A decoded request with the parts of a rebuilt one is a rebuilt invoice. -/
theorem isRebuilt_ofWire [Runtime] {original : Invoice} (read : original.IsRead) {msat : Int}
    {hints : List RouteHint} {hash secret : Bytes}
    (hashRead : original.paymentHash.toBytes = .ok hash)
    (secretThere : original.paymentSecret = some secret)
    {signature key : Bytes} {wire : WireInvoice}
    (isRead : (original.requestWith msat hash secret hints).IsReadAs signature key wire)
    (text : String) : IsRebuilt original msat hints signature key (ofWire wire text) := by
  obtain ⟨octets, octetsRead, written⟩ := read.paymentHash
  obtain rfl := Except.ok.inj (octetsRead.symm.trans hashRead)
  obtain ⟨natural, amountIs, amountSame⟩ := Option.map_eq_some_iff.mp isRead.amount
  obtain ⟨seconds, expiryIs, expirySame⟩ := Option.map_eq_some_iff.mp isRead.expiry
  obtain ⟨blocks, blocksAre, blocksSame⟩ := Option.map_eq_some_iff.mp isRead.minFinalCltvDelta
  exact {
    network := isRead.network
    paymentHash := by rw [written, ← show wire.paymentHash = octets from isRead.paymentHash]; rfl
    paymentSecret := by rw [secretThere, ← show wire.paymentSecret = secret from
      isRead.paymentSecret]; rfl
    description := isRead.description
    timestamp := isRead.timestamp
    expiry := by
      show (wire.expiryOrDefault : Int) = original.expiry
      rw [WireInvoice.expiryOrDefault, expiryIs]
      exact expirySame
    minFinalCltvDelta := by
      show (wire.cltvDeltaOrDefault : Int) = original.minFinalCltvDelta
      rw [WireInvoice.cltvDeltaOrDefault, blocksAre]
      exact blocksSame
    features := Int.ofNat.inj isRead.features
    amount := by
      show Datum.ofOption (wire.amount.map fun amount => .int amount) = .int msat
      rw [amountIs, ← amountSame]
      rfl
    payeeKey := by rw [← isRead.payeeKey]; rfl
    routeHints := isRead.routeHints
    signature := congrArg some isRead.signature
    setAside := isRead.setAside }

/-- Whatever text is rebuilt: the request has a digest and, with every signature of the right form,
a text. If some signer recovers a key from the signature and owns to it, that text is parsed to
the original invoice with the new amount and the merged hints. -/
theorem parse_rebuilt [Runtime] {signer : Signer} {inUse : Network} {settings : Option Settings}
    {text : Option String} {includeExisting : Bool} {provider : Option RouteHint} {amount : Datum}
    {request : UnsignedInvoice}
    (rebuilt : (mergeAndRebuild signer inUse settings text includeExisting provider
      amount).outcome = .ok request)
    (bounded : ∀ msat ∈ amount.asInt?, msat ≤ Amount.supplyInMsat) {signature : Bytes}
    (sized : signature.length = Signature.length) (recovery : (signature.getD 64 0).toNat ≤ 3) :
    ∃ original merged msat digest newText,
      (parse signer inUse settings text).outcome = .ok original ∧
      (RouteHint.merge original.routeHints provider includeExisting).outcome = .ok merged ∧
      amount.asInt? = some msat ∧
      request.signingDigest = .ok digest ∧ request.sign signature = .ok newText ∧
      ∀ (other : Signer) (otherInUse : Network) (otherSettings : Option Settings) (key : Bytes),
        other.recover digest (signature.take 64) (signature.getD 64 0).toNat = .ok key →
        other.isPubkey key = .ok true →
        ∃ reparsed, (parse other otherInUse otherSettings (some newText)).outcome = .ok reparsed ∧
          IsRebuilt original msat merged signature key reparsed := by
  unfold mergeAndRebuild at rebuilt
  obtain ⟨original, parsed, rebuilt⟩ := Traced.bind_outcome_ok_iff.mp rebuilt
  obtain ⟨merged, isMerged, rebuilt⟩ := Traced.bind_outcome_ok_iff.mp rebuilt
  obtain ⟨_, -, rebuilt⟩ := Traced.bind_outcome_ok_iff.mp rebuilt
  obtain ⟨msat, hash, secret, symbols, amountIs, hashRead, secretThere, written, rfl⟩ :=
    rebuild_eq_ok rebuilt
  let request := original.requestWith msat hash secret merged
  have withinSupply : ∀ own ∈ request.amount, own ≤ Amount.supplyInMsat := by
    intro own member
    obtain rfl := Option.some.inj member
    exact bounded msat amountIs
  have encoded := UnsignedInvoice.isEncoded_of_symbols written
  have headed := UnsignedInvoice.humanPart_of_le encoded.amount withinSupply
  obtain ⟨digest, signed⟩ := UnsignedInvoice.signingDigest_eq_ok headed written
  refine ⟨original, merged, msat, digest, _, parsed, isMerged, amountIs, signed,
    UnsignedInvoice.sign_eq_ok headed written sized recovery, ?_⟩
  intro other otherInUse otherSettings key found isKey
  obtain ⟨strict, known⟩ := strictness_eq_ok otherInUse otherSettings
  have unnamed : ∀ named ∈ request.payeeKey, other.isPubkey named = .ok true := by
    intro named member
    cases member
  obtain ⟨wire, decoded, isRead⟩ := UnsignedInvoice.decode_signedText written withinSupply sized
    signed (Signature.Endorses.recovered found isKey) unnamed strict
  obtain ⟨isNormal, nonempty⟩ := normalize_signedText encoded signature
  refine ⟨ofWire wire _, parse_eq_ok_iff.mpr ⟨_, strict, wire, isNormal, nonempty, known, decoded,
    rfl⟩, ?_⟩
  exact isRebuilt_ofWire (isRead_of_parse parsed) hashRead secretThere isRead _

/-- A text rebuilt for a provider, and parsed again under settings that ask for exactly one
description. -/
theorem parse_rebuilt_for_provider :
    let signer : Signer := ⟨fun _ _ _ => .ok false, fun _ _ _ => .ok [1, 2, 3], fun _ => .ok true⟩
    let text := "lnbc1ps9zprzpp5qqqsyqcyq5rqwzqfqqqsyqcyq5rqwzqfqqqsyqcyq5rqwzqfqypqsp5zyg3zyg3zyg3" ++
      "zyg3zyg3zyg3zyg3zyg3zyg3zyg3zyg3zyg3zygsdqq9qypqszpyrpe4tym8d3q87d43cgdhhlsrt78epu7u99mkzttmt2" ++
      "wtsx0304rrw50addkryfrd3vn3zy467vxwlmf4uz7yvntuwjr2hqjl9lw5cqwtp2dy"
    let provider : RouteHint := ⟨[RouteHop.make
      "0281AB81AB81AB81AB81AB81AB81AB81AB81AB81AB81AB81AB81AB81AB81AB81AB" 1 0 0 144 .null .null]⟩
    let signature : Bytes := List.replicate 64 9 ++ [1]
    let strict : Settings := ⟨[("bolt11_strict_description", .bool true)]⟩
    ∃ request newText reparsed,
      (mergeAndRebuild signer .mainnet none (some text) true (some provider)
        (.int 1000)).outcome = .ok request ∧
      request.sign signature = .ok newText ∧
      (parse signer .regtest (some strict) (some newText)).outcome = .ok reparsed ∧
      reparsed.amount = .int 1000 ∧ reparsed.payeeKey = .text "010203" := by
  intro signer text provider signature strict
  have accepted : (mergeAndRebuild signer .mainnet none (some text) true (some provider)
      (.int 1000)).outcome.isOk = true := by decide +kernel
  obtain ⟨request, rebuilt⟩ := exists_of_isOk accepted
  obtain ⟨original, merged, msat, digest, newText, -, -, amountIs, -, signed, parses⟩ :=
    parse_rebuilt rebuilt (by decide) (show signature.length = Signature.length by decide)
      (by decide)
  obtain ⟨reparsed, parsed, same⟩ := parses signer .regtest (some strict) [1, 2, 3] rfl rfl
  obtain rfl := Option.some.inj amountIs
  refine ⟨request, newText, reparsed, rebuilt, signed, parsed, same.amount, ?_⟩
  rw [same.payeeKey]
  rfl

end Invoice

end Bolt11
