/-
This file proves exactly when an invoice that comes from a text can be rebuilt.

Whatever such an invoice says was read from a field, and what fits into a field when it is read
fits again when it is written. The invoice itself therefore stands in the way only if it has no
description. All else is up to the arguments: the amount has to be positive, and every hint has to
have a wire form of limited length whose hops start at nodes with a key. If anything is missing the
request is refused as one that cannot be built, never in another way.
-/

import Bolt11.Proofs.Encodable
import Bolt11.Proofs.Rebuilding
import Bolt11.Proofs.WellFormed

namespace Bolt11

/-! ### Hops -/

/-- Whether a signer owns to the key of the node that a hop starts at. -/
def RouteHop.HasKey (signer : Signer) (hop : RouteHop) : Prop :=
  ∃ node, hop.nodeOctets = .ok node ∧ signer.isPubkey node = .ok true

namespace Invoice

theorem checkHop_eq_ok_iff {signer : Signer} {hop : RouteHop} :
    (checkHop signer hop).outcome = .ok () ↔ hop.HasKey signer := by
  unfold checkHop RouteHop.HasKey
  cases hop.nodeOctets with
  | error cause =>
    refine iff_of_false ?_ ?_
    · intro checked
      cases checked
    · rintro ⟨node, known, -⟩
      cases known
  | ok node =>
    simp only [Traced.bind_outcome_ok_iff, Except.ok.injEq, exists_eq_left']
    constructor
    · rintro ⟨answer, asked, checked⟩
      cases answer with
      | true => exact Signer.answer_eq_ok_iff.mp asked
      | false => cases checked
    · intro isKey
      exact ⟨true, Signer.answer_eq_ok_iff.mpr isKey, rfl⟩

theorem checkHops_eq_ok_iff {signer : Signer} {hops : List RouteHop} :
    (checkHops signer hops).outcome = .ok () ↔ ∀ hop ∈ hops, hop.HasKey signer := by
  induction hops with
  | nil => exact iff_of_true rfl (List.forall_mem_nil _)
  | cons hop rest inductionHypothesis =>
    rw [checkHops, Traced.bind_outcome_ok_iff, List.forall_mem_cons, ← checkHop_eq_ok_iff,
      ← inductionHypothesis]
    constructor
    · rintro ⟨⟨⟩, first, others⟩
      exact ⟨first, others⟩
    · rintro ⟨first, others⟩
      exact ⟨(), first, others⟩

/-! ### Invoices -/

/-- A description that was read can be written again. -/
theorem isEncodable_of_isRead {invoice : Invoice} (wellFormed : invoice.IsWellFormed)
    (read : invoice.IsRead) {description : Description}
    (said : invoice.description = some description) : description.IsEncodable := by
  have isRead := read.description description said
  have limited := wellFormed.description
  rw [said] at limited
  cases description with
  | plain text =>
    rcases limited with none_said | ⟨own, same, short⟩
    · cases none_said
    · obtain rfl := Datum.text.inj same
      exact short
  | hashed digest => trivial
  | unread value => exact isRead.elim

/-- The payment hash of an invoice that was read is thirty-two octets. -/
theorem length_paymentHash {invoice : Invoice} (wellFormed : invoice.IsWellFormed)
    (read : invoice.IsRead) {hash : Bytes} (hashRead : invoice.paymentHash.toBytes = .ok hash) :
    hash.length = 32 := by
  obtain ⟨octets, octetsRead, written⟩ := read.paymentHash
  obtain rfl := Except.ok.inj (octetsRead.symm.trans hashRead)
  obtain ⟨digits, same, sized⟩ := wellFormed.paymentHash
  obtain rfl := Datum.text.inj (same.symm.trans written)
  have twice := (Text.isLowerHex_hexOf octets).1.symm.trans sized.1
  omega

/-- Of what a text says everything can be encoded again, and so a request made of it with an amount
and hints can be encoded if these two can. -/
theorem isEncodable_requestWith_iff {invoice : Invoice} (wellFormed : invoice.IsWellFormed)
    (read : invoice.IsRead) (described : invoice.description.isSome = true) {msat : Int}
    {hash secret : Bytes} (hashRead : invoice.paymentHash.toBytes = .ok hash)
    (secretThere : invoice.paymentSecret = some secret) {hints : List RouteHint} :
    (invoice.requestWith msat hash secret hints).IsEncodable ↔
      0 < msat ∧ ∀ hint ∈ hints, hint.Fits := by
  constructor
  · intro encodable
    exact ⟨encodable.amount msat rfl, encodable.routeHints⟩
  · rintro ⟨positive, hintsFit⟩
    obtain ⟨description, said⟩ := Option.isSome_iff_exists.mp described
    obtain ⟨own, ownThere, ownSized⟩ := wellFormed.paymentSecret
    obtain rfl := Option.some.inj (ownThere.symm.trans secretThere)
    exact {
      amount := fun own same => Option.some.inj same ▸ positive
      timestamp := wellFormed.timestamp
      paymentHash := length_paymentHash wellFormed read hashRead
      paymentSecret := ownSized
      description := ⟨description, said, isEncodable_of_isRead wellFormed read said⟩
      payeeKey := by
        intro key named
        cases named
      expiry := fun own same => Option.some.inj same ▸ wellFormed.expiry
      minFinalCltvDelta := fun own same => Option.some.inj same ▸ wellFormed.minFinalCltvDelta
      routeHints := hintsFit
      features := by
        refine ⟨Int.natCast_nonneg _, ?_⟩
        exact (natCast_in_range invoice.features wellFormed.features).2 }

/-! ### Rebuilding -/

/-- When an invoice that was read is rebuilt. -/
theorem exists_rebuild_iff [Runtime] {signer : Signer} {invoice : Invoice}
    (wellFormed : invoice.IsWellFormed) (read : invoice.IsRead) {amount : Datum} {msat : Int}
    (integer : amount.asInt? = some msat) {hints : List RouteHint} :
    (∃ request, (rebuild signer invoice amount hints).outcome = .ok request) ↔
      invoice.description.isSome = true ∧ 0 < msat ∧
        ∀ hint ∈ hints, hint.Fits ∧ ∀ hop ∈ hint.hops, hop.HasKey signer := by
  constructor
  · rintro ⟨request, rebuilt⟩
    obtain ⟨described, checked, own, hash, secret, symbols, ⟨same, positive⟩, hashRead,
      secretThere, written, rfl⟩ := rebuild_eq_ok_iff.mp rebuilt
    obtain rfl := Option.some.inj (same.symm.trans integer)
    have encodable := UnsignedInvoice.exists_symbols_iff.mp ⟨symbols, written⟩
    refine ⟨described, positive, fun hint member => ⟨encodable.routeHints hint member, ?_⟩⟩
    intro hop among
    exact checkHops_eq_ok_iff.mp checked hop (List.mem_flatMap.mpr ⟨hint, member, among⟩)
  · rintro ⟨described, positive, usable⟩
    obtain ⟨hash, hashRead, -⟩ := read.paymentHash
    obtain ⟨secret, secretThere⟩ := Option.isSome_iff_exists.mp read.paymentSecret
    obtain ⟨symbols, written⟩ := UnsignedInvoice.exists_symbols_iff.mpr
      ((isEncodable_requestWith_iff wellFormed read described hashRead secretThere).mpr
        ⟨positive, fun hint member => (usable hint member).1⟩)
    refine ⟨_, rebuild_eq_ok_iff.mpr ⟨described, ?_, msat, hash, secret, symbols,
      ⟨integer, positive⟩, hashRead, secretThere, written, rfl⟩⟩
    -- the hops of all hints are checked in one go
    refine checkHops_eq_ok_iff.mpr fun hop member => ?_
    obtain ⟨hint, own, among⟩ := List.mem_flatMap.mp member
    exact (usable hint own).2 hop among

end Invoice

end Bolt11
