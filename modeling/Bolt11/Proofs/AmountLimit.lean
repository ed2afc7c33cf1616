/-
This file proves that a rebuilt request is readable again just if its amount is not above the limit.

No reader takes more than all bitcoin there can be, but a request is rebuilt for every positive
amount. Above the limit the reader refuses the human readable part of each of them, and with it
every text that the request is signed to. An amount with more digits than the runtime writes does
not get that far: it has no human readable part.
-/

import Bolt11.Proofs.Rebuilding

namespace Bolt11

namespace Invoice

/-- The text of a signed request whose human readable part is refused is refused for the same
reason, whoever parses it. -/
theorem parse_signedText_of_read_error [Runtime] {request : UnsignedInvoice} {symbols : List Nat}
    (encoded : request.IsEncoded symbols) {cause : Invalid}
    (refused : HumanPart.read request.part = .error cause) (signature : Bytes)
    (signer : Signer) (inUse : Network) (settings : Option Settings) :
    (parse signer inUse settings (some (request.signedText symbols signature))).outcome =
      .error (.invalid cause) := by
  obtain ⟨isNormal, nonempty⟩ := normalize_signedText encoded signature
  obtain ⟨strict, known⟩ := strictness_eq_ok inUse settings
  have decoded : Bech32.decode (request.signedText symbols signature) =
      .ok (request.part, symbols ++ Symbols.ofBytes signature) :=
    (Bech32.decode_encode (UnsignedInvoice.isHumanPart encoded)
      (UnsignedInvoice.append_signature_lt encoded signature)).2
  have unopened : WireInvoice.openText (request.signedText symbols signature) =
      .error (.invalid cause) := by
    simp only [WireInvoice.openText, decoded, refused]
  have undecoded : (WireInvoice.decode signer strict
      (request.signedText symbols signature)).outcome = .error (.invalid cause) := by
    rw [WireInvoice.decode, unopened]
    rfl
  rw [parse, isNormal, Traced.bind_of_ok _ rfl, if_neg nonempty, known, Traced.bind_of_ok _ rfl,
    Traced.bind_of_error _ undecoded]

/-- The human readable part of a rebuilt request says the network of the invoice and the new amount
if that is not above the limit. Above it, if the amount has a short form, the part is refused, and
so is every text that the request is signed to. If it has none, which is only so above the limit and
on a runtime that does not write so many digits, there is no part and no such text. -/
theorem read_rebuilt [Runtime] {signer : Signer} {invoice : Invoice} {amount : Datum}
    {hints : List RouteHint} {request : UnsignedInvoice}
    (rebuilt : (rebuild signer invoice amount hints).outcome = .ok request) :
    ∃ msat : Nat, amount.asInt? = some (msat : Int) ∧ 0 < msat ∧
      (msat ≤ Amount.supplyInMsat → ∃ part, request.humanPart = .ok part ∧
        HumanPart.read part = .ok (invoice.network, some msat)) ∧
      (∀ short, Amount.supplyInMsat < msat → Amount.shorten msat = .ok short →
        (∃ part, request.humanPart = .ok part ∧
          HumanPart.read part = .error (.amountRange short)) ∧
        ∀ signature : Bytes, signature.length = Signature.length →
          (signature.getD 64 0).toNat ≤ 3 →
          ∃ text, request.sign signature = .ok text ∧
            ∀ (other : Signer) (inUse : Network) (settings : Option Settings),
              (parse other inUse settings (some text)).outcome =
                .error (.invalid (.amountRange short))) ∧
      ∀ cause, Amount.shorten msat = .error cause →
        Amount.supplyInMsat < msat ∧ (Fault.badValue cause).IsUnwritten ∧
          request.humanPart = .error (.badValue cause) ∧
          ∀ signature : Bytes, signature.length = Signature.length →
            (signature.getD 64 0).toNat ≤ 3 →
            request.sign signature = .error (.badValue cause) := by
  obtain ⟨number, hash, secret, symbols, amountIs, -, -, written, rfl⟩ := rebuild_eq_ok rebuilt
  have encoded := UnsignedInvoice.isEncoded_of_symbols written
  have positive : 0 < number := encoded.amount number rfl
  obtain ⟨msat, rfl⟩ := Int.eq_ofNat_of_zero_le (Int.le_of_lt positive)
  let request := invoice.requestWith msat hash secret hints
  have amount : request.amount = some (msat : Int) := rfl
  have part : request.part = HumanPart.form invoice.network (some (Int.ofNat msat)) := rfl
  refine ⟨msat, amountIs, Int.natCast_pos.mp positive, fun within => ?_, fun short above made => ?_,
    fun cause failed => ?_⟩
  · refine ⟨_, UnsignedInvoice.humanPart_of_shorten_eq_ok amount (Amount.shorten_of_le within), ?_⟩
    rw [part, HumanPart.read_form_some, Amount.unshorten_shortForm within]
    rfl
  · rcases Amount.shorten_cases msat with shortened | ⟨limit, -, unwritten⟩
    · obtain rfl := Except.ok.inj (made.symm.trans shortened)
      have headed := UnsignedInvoice.humanPart_of_shorten_eq_ok amount shortened
      have refused : HumanPart.read request.part =
          .error (.amountRange (Amount.shortForm msat)) := by
        rw [part, HumanPart.read_form_some, Amount.unshorten_shortForm_of_lt above]
        rfl
      refine ⟨⟨_, headed, refused⟩, fun signature sized recovery => ?_⟩
      exact ⟨_, UnsignedInvoice.sign_eq_ok headed written sized recovery,
        parse_signedText_of_read_error encoded refused signature⟩
    · cases made.symm.trans unwritten
  · rcases Amount.shorten_cases msat with shortened | ⟨limit, known, unwritten⟩
    · cases failed.symm.trans shortened
    obtain rfl := Except.error.inj (failed.symm.trans unwritten)
    have unheaded := UnsignedInvoice.humanPart_of_shorten_eq_error amount failed
    have above : Amount.supplyInMsat < msat := by
      by_contra within
      cases failed.symm.trans (Amount.shorten_of_le (Nat.not_lt.mp within))
    exact ⟨above, .beyond known, unheaded, fun signature sized recovery =>
      UnsignedInvoice.sign_eq_error unheaded sized recovery⟩

/-- An invoice over a coffee, for one thousandth of a satoshi more than all bitcoin. -/
theorem read_rebuilt_above_supply :
    let signer : Signer := ⟨fun _ _ _ => .ok true, fun _ _ _ => .error .noKey, fun _ => .ok true⟩
    let invoice : Invoice := {
      text := .null, network := .mainnet, payeeKey := .null
      paymentHash := .text (Text.hexOf (List.replicate 32 1)), description := some (.plain "coffee")
      amount := .null, timestamp := 1700000000, expiry := 3600, routeHints := []
      paymentSecret := some (List.replicate 32 2), minFinalCltvDelta := 18, features := 0
      signature := none, setAside := [] }
    ∃ request part, (rebuild signer invoice (.int 2100000000000000001) []).outcome = .ok request ∧
      request.humanPart = .ok part ∧
      HumanPart.read part = .error (.amountRange "21000000000000000010p") := by
  intro signer invoice
  have accepted : (rebuild signer invoice (.int 2100000000000000001) []).outcome.isOk = true := by
    decide +kernel
  obtain ⟨request, rebuilt⟩ := exists_of_isOk accepted
  obtain ⟨msat, amountIs, -, -, above, -⟩ := read_rebuilt rebuilt
  obtain rfl : msat = 2100000000000000001 := Int.ofNat.inj (Option.some.inj amountIs).symm
  have writable : Runtime.writes (Amount.shortParts 2100000000000000001).1 = true :=
    Runtime.writes_of_few (by decide : 20 ≤ 640) (by decide +kernel)
  have short : Amount.shorten 2100000000000000001 = .ok "21000000000000000010p" :=
    (Amount.shorten_eq_ok writable).trans (congrArg Except.ok (by decide +kernel))
  obtain ⟨⟨part, headed, refused⟩, -⟩ := above _ (by decide) short
  exact ⟨request, part, rebuilt, headed, refused⟩

end Invoice

end Bolt11
