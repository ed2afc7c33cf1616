/-
This file proves in which ways rebuilding an invoice that comes from a document can fail.

A document is not checked when it is read, and rebuilding checks what it says at different points.
What is encoded is checked by the encoder, whose faults are reasons why there is no such request.
Three values of a document are taken for what they should be before that, or where the encoder does
not look: the payment hash, which is read as hexadecimal first, the payment secret, whose length is
asked, and a description in the clear, which is encoded as a text. If one of them is something
else, the fault is that of the failed step, provided that every check before that step is passed.
The same holds for a number that is refused, by its name, and that the runtime does not write.

The texts of a document are taken to be texts of characters. A document can also hold halves of
surrogate pairs on their own, which are no characters and have no encoding; such texts are left out.
-/

import Bolt11.Proofs.Rebuildable
import Bolt11.Invoice.Stored

namespace Bolt11

open Fault (IsOfEncoding IsOfBuilding)

/-- A hash that is read from hexadecimal is a hash. -/
theorem Description.exists_digest_of_ofHex {value : Datum} {description : Description}
    (read : ofHex value = .ok description) : ∃ digest, description = .hashed digest := by
  unfold ofHex at read
  split at read
  · cases read
  split at read
  · rename_i digest _ own isDigest
    obtain rfl := Except.ok.inj read
    unfold ofDigest at isDigest
    split at isDigest
    · exact ⟨_, (Except.ok.inj isDigest).symm⟩
    · cases isDigest
  · cases read

/-! ### Encoding -/

namespace UnsignedInvoice

/-- What a request can hold that its encoding is not prepared for is no reason why it cannot be
built. -/
theorem Derails.not_isOfBuilding [Runtime] {request : UnsignedInvoice} {fault : Fault}
    (derails : request.Derails fault) : ¬ fault.IsOfBuilding := by
  have apart {other : Fault} (unwritten : other.IsUnwritten) : ¬ other.IsOfBuilding := by
    obtain ⟨-⟩ := unwritten
    rintro ⟨⟩
  cases derails with
  | amount _ _ _ limit => exact apart limit
  | timestamp _ _ _ limit => exact apart limit
  | description _ _ => rintro ⟨⟩
  | expiry _ _ _ _ limit => exact apart limit
  | minFinalCltvDelta _ _ _ _ _ limit => exact apart limit
  | features _ _ _ _ _ _ limit => exact apart limit

end UnsignedInvoice

/-! ### Rebuilding -/

namespace Invoice

/-- What an invoice can hold that its encoding is not prepared for, and the fault that it then ends
with. -/
inductive MisleadsEncoder [Runtime] (invoice : Invoice) : Fault → Prop
  | timestamp {fault : Fault} (refused : ¬ (0 ≤ invoice.timestamp ∧ invoice.timestamp < 2 ^ 35))
      (unwritten : Runtime.writes invoice.timestamp = false) (limit : fault.IsUnwritten) :
      MisleadsEncoder invoice fault
  | description {value : Datum} (timestamp : 0 ≤ invoice.timestamp ∧ invoice.timestamp < 2 ^ 35)
      (unread : invoice.description = some (.unread value)) :
      MisleadsEncoder invoice .noSuchOperation
  | expiry {fault : Fault} (timestamp : 0 ≤ invoice.timestamp ∧ invoice.timestamp < 2 ^ 35)
      (description : ∃ only, invoice.description = some only ∧ only.IsEncodable)
      (refused : invoice.expiry < 0) (unwritten : Runtime.writes invoice.expiry = false)
      (limit : fault.IsUnwritten) : MisleadsEncoder invoice fault
  | minFinalCltvDelta {fault : Fault}
      (timestamp : 0 ≤ invoice.timestamp ∧ invoice.timestamp < 2 ^ 35)
      (description : ∃ only, invoice.description = some only ∧ only.IsEncodable)
      (expiry : 0 ≤ invoice.expiry ∧ invoice.expiry < 32 ^ Field.maxLength)
      (refused : invoice.minFinalCltvDelta < 0)
      (unwritten : Runtime.writes invoice.minFinalCltvDelta = false)
      (limit : fault.IsUnwritten) : MisleadsEncoder invoice fault

/-- What an invoice can hold that rebuilding finds out too late, and the fault that it then ends
with. -/
inductive Misleads [Runtime] (invoice : Invoice) : Fault → Prop
  | paymentHash {fault : Fault} (unread : invoice.paymentHash.toBytes = .error fault) :
      Misleads invoice fault
  | paymentSecret {hash : Bytes} (hashRead : invoice.paymentHash.toBytes = .ok hash)
      (hashSized : hash.length = 32) (missing : invoice.paymentSecret = none) :
      Misleads invoice .wrongKind
  | encoder {hash secret : Bytes} {fault : Fault}
      (hashRead : invoice.paymentHash.toBytes = .ok hash) (hashSized : hash.length = 32)
      (secretThere : invoice.paymentSecret = some secret) (secretSized : secret.length = 32)
      (misleads : invoice.MisleadsEncoder fault) : Misleads invoice fault

variable {signer : Signer} {invoice : Invoice} {fault : Fault}

/-- The arguments of rebuilding pass the checks that come first: there is a description, the amount
is a positive integer, and every hop starts at a node with a key. -/
structure Admits (signer : Signer) (invoice : Invoice) (amount : Datum) (hints : List RouteHint) :
    Prop where
  description : invoice.description.isSome = true
  amount : ∃ msat, amount.asInt? = some msat ∧ 0 < msat
  hops : ∀ hop ∈ hints.flatMap RouteHint.hops, hop.HasKey signer

/-- A text that is not hexadecimal is another kind of fault. -/
theorem failsBeyond_toBytes_iff {value : Datum} :
    FailsBeyond IsOfBuilding value.toBytes fault ↔ value.toBytes = .error fault := by
  refine and_iff_left_of_imp fun failed => ?_
  unfold Datum.toBytes at failed
  split at failed
  · split at failed
    · cases failed
    · obtain rfl := Except.error.inj failed
      rintro ⟨⟩
  · obtain rfl := Except.error.inj failed
    rintro ⟨⟩

/-- The length of a secret that is not there is asked once the hash has its own. -/
theorem failsBeyond_rebuiltSecret_iff {hash : Bytes} :
    FailsBeyond IsOfBuilding (invoice.rebuiltSecret hash) fault ↔
      hash.length = 32 ∧ invoice.paymentSecret = none ∧ fault = .wrongKind := by
  unfold rebuiltSecret
  cases invoice.paymentSecret with
  | some secret =>
    refine iff_of_false (not_failsBeyond (failsOnlyWith_ok secret)) ?_
    rintro ⟨-, ⟨⟩, -⟩
  | none =>
    by_cases sized : hash.length = 32
    · simp only [if_pos sized]
      constructor
      · rintro ⟨⟨⟩, -⟩
        exact ⟨sized, trivial, rfl⟩
      · rintro ⟨-, -, rfl⟩
        exact ⟨rfl, by rintro ⟨⟩⟩
    · simp only [if_neg sized]
      exact iff_of_false (not_failsBeyond (failsOnlyWith_error (.unbuildable _)))
        fun others => sized others.1

/-- What the encoding of the request is not prepared for is what the invoice holds. -/
theorem derails_requestWith_iff [Runtime] {msat : Int} (positive : 0 < msat) {hash secret : Bytes}
    {hints : List RouteHint} :
    (invoice.requestWith msat hash secret hints).Derails fault ↔
      hash.length = 32 ∧ secret.length = 32 ∧ invoice.MisleadsEncoder fault := by
  constructor
  · intro derails
    cases derails with
    | amount own refused _ _ =>
      obtain rfl := Option.some.inj own
      exact absurd positive (Int.not_lt.mpr refused)
    | timestamp reached refused unwritten limit =>
      exact ⟨reached.paymentHash, reached.paymentSecret, .timestamp refused unwritten limit⟩
    | description reached unread =>
      exact ⟨reached.paymentHash, reached.paymentSecret, .description reached.timestamp unread⟩
    | expiry reached own refused unwritten limit =>
      obtain rfl := Option.some.inj own
      exact ⟨reached.paymentHash, reached.paymentSecret,
        .expiry reached.timestamp reached.description refused unwritten limit⟩
    | minFinalCltvDelta reached expiry own refused unwritten limit =>
      obtain rfl := Option.some.inj own
      exact ⟨reached.paymentHash, reached.paymentSecret, .minFinalCltvDelta reached.timestamp
        reached.description (expiry _ rfl) refused unwritten limit⟩
    | features _ _ _ _ refused _ _ =>
      exact absurd refused (Int.not_lt.mpr (Int.natCast_nonneg _))
  · rintro ⟨hashSized, secretSized, misleads⟩
    have first : (invoice.requestWith msat hash secret hints).ReachesTimestamp :=
      ⟨fun own same => Option.some.inj same ▸ positive, hashSized, secretSized⟩
    cases misleads with
    | timestamp refused unwritten limit => exact .timestamp first refused unwritten limit
    | description timestamp unread => exact .description ⟨first, timestamp⟩ unread
    | expiry timestamp description refused unwritten limit =>
      exact .expiry ⟨⟨first, timestamp⟩, description, by rintro _ ⟨⟩⟩ rfl refused unwritten limit
    | minFinalCltvDelta timestamp description expiry refused unwritten limit =>
      exact .minFinalCltvDelta ⟨⟨first, timestamp⟩, description, by rintro _ ⟨⟩⟩
        (fun own same => Option.some.inj same ▸ expiry) rfl refused unwritten limit

/-- A fault of the encoder is told as a reason why there is no such request, or is passed on. -/
theorem failsBeyond_encoded_iff [Runtime] {request : UnsignedInvoice} :
    FailsBeyond IsOfBuilding (match request.symbols with
        | .error own => Traced.fail (rebuildFault own)
        | .ok _ => (pure request : Traced UnsignedInvoice)).outcome fault ↔
      request.Derails fault := by
  rw [← UnsignedInvoice.failsBeyond_symbols_iff]
  cases encoded : request.symbols with
  | ok symbols =>
    exact iff_of_false (not_failsBeyond (failsOnlyWith_ok request))
      (not_failsBeyond (failsOnlyWith_ok symbols))
  | error own =>
    constructor
    · rintro ⟨failed, other⟩
      cases own with
      | unencodable cause =>
        obtain rfl := Except.error.inj failed
        exact absurd (.unbuildable _) other
      | _ =>
        obtain rfl := Except.error.inj failed
        exact ⟨rfl, by rintro ⟨⟩⟩
    · rintro ⟨⟨⟩, other⟩
      have derails := UnsignedInvoice.failsBeyond_symbols_iff.mp ⟨encoded, other⟩
      cases fault with
      | unencodable cause => exact absurd (.unencodable cause) other
      | _ => exact ⟨rfl, derails.not_isOfBuilding⟩

/-- Behind the checks of the arguments, what goes wrong in another way is what the invoice holds. -/
theorem failsBeyond_checked_iff [Runtime] {msat : Int} (positive : 0 < msat)
    {hints : List RouteHint} :
    FailsBeyond IsOfBuilding
        (do
          let hash ← invoice.paymentHash.toBytes
          let secret ← invoice.rebuiltSecret hash
          match (invoice.requestWith msat hash secret hints).symbols with
          | .error own => Traced.fail (rebuildFault own)
          | .ok _ => pure (invoice.requestWith msat hash secret hints) :
            Traced UnsignedInvoice).outcome fault ↔
      invoice.Misleads fault := by
  constructor
  · intro beyond
    rcases Traced.failsBeyond_bind_iff.mp beyond with unread | ⟨hash, hashRead, beyond⟩
    · exact .paymentHash unread.1
    rcases Traced.failsBeyond_bind_iff.mp beyond with missing | ⟨secret, secretTaken, beyond⟩
    · obtain ⟨sized, noneThere, rfl⟩ := failsBeyond_rebuiltSecret_iff.mp missing
      exact .paymentSecret hashRead sized noneThere
    obtain ⟨hashSized, secretSized, misleads⟩ :=
      (derails_requestWith_iff positive).mp (failsBeyond_encoded_iff.mp beyond)
    exact .encoder hashRead hashSized (rebuiltSecret_eq_ok_iff.mp secretTaken) secretSized misleads
  · intro misleads
    cases misleads with
    | paymentHash unread =>
      exact Traced.failsBeyond_bind_iff.mpr (.inl (failsBeyond_toBytes_iff.mpr unread))
    | paymentSecret hashRead hashSized missing =>
      refine Traced.failsBeyond_bind_iff.mpr (.inr ⟨_, hashRead, ?_⟩)
      exact Traced.failsBeyond_bind_iff.mpr (.inl (failsBeyond_rebuiltSecret_iff.mpr
        ⟨hashSized, missing, rfl⟩))
    | encoder hashRead hashSized secretThere secretSized misleads =>
      refine Traced.failsBeyond_bind_iff.mpr (.inr ⟨_, hashRead, ?_⟩)
      refine Traced.failsBeyond_bind_iff.mpr (.inr ⟨_,
        rebuiltSecret_eq_ok_iff.mpr secretThere, ?_⟩)
      exact failsBeyond_encoded_iff.mpr
        ((derails_requestWith_iff positive).mpr ⟨hashSized, secretSized, misleads⟩)

/-- Rebuilding fails in another way than for want of such a request exactly if the amount is refused
and not written, or if its arguments pass their checks and the invoice holds something that is found
out too late. -/
theorem failsBeyond_rebuild_iff [Runtime]
    (answers : ∀ key, ∃ answer, signer.isPubkey key = .ok answer) {amount : Datum}
    {hints : List RouteHint} :
    FailsBeyond IsOfBuilding (rebuild signer invoice amount hints).outcome fault ↔
      (invoice.description.isSome = true ∧ fault.IsOfAmount amount) ∨
        (Admits signer invoice amount hints ∧ invoice.Misleads fault) := by
  cases there : invoice.description.isSome with
  | false =>
    rw [rebuild_of_not_described there]
    refine iff_of_false (not_failsBeyond (failsOnlyWith_error (.unbuildable _))) ?_
    rintro (⟨⟨⟩, -⟩ | ⟨admits, -⟩)
    cases there.symm.trans admits.description
  | true =>
    unfold rebuild
    rw [if_neg (by rw [← Option.not_isSome, there]; exact Bool.false_ne_true)]
    constructor
    · intro beyond
      rcases Traced.failsBeyond_bind_iff.mp beyond with refused | ⟨msat, amountTaken, beyond⟩
      · exact .inl ⟨rfl, failsBeyond_rebuiltAmount_iff.mp refused⟩
      have ⟨integer, positive⟩ := rebuiltAmount_eq_ok_iff.mp amountTaken
      obtain ⟨⟨⟩, checked, beyond⟩ :=
        (Traced.failsBeyond_second_iff (failsOnlyWith_checkHops answers _)).mp beyond
      exact .inr ⟨⟨there, ⟨msat, integer, positive⟩, checkHops_eq_ok_iff.mp checked⟩,
        (failsBeyond_checked_iff positive).mp beyond⟩
    · rintro (⟨-, unwritten⟩ | ⟨⟨-, ⟨msat, integer, positive⟩, hops⟩, misleads⟩)
      · exact Traced.failsBeyond_bind_iff.mpr (.inl (failsBeyond_rebuiltAmount_iff.mpr unwritten))
      refine Traced.failsBeyond_bind_iff.mpr (.inr ⟨msat,
        rebuiltAmount_eq_ok_iff.mpr ⟨integer, positive⟩, ?_⟩)
      exact Traced.failsBeyond_bind_iff.mpr (.inr ⟨(), checkHops_eq_ok_iff.mpr hops,
        (failsBeyond_checked_iff positive).mpr misleads⟩)

/-! ### Documents -/

/-- What of a document stands in the invoice that is read from it, as far as rebuilding can be led
astray by it. -/
structure IsRestored (document : Datum) (invoice : Invoice) : Prop where
  paymentHash : document.require "payment_hash" = .ok invoice.paymentHash
  paymentSecret : ∃ stored, document.require "payment_secret" = .ok stored ∧
    secretOf stored = .ok invoice.paymentSecret
  description : Description.ofDatum document = .ok invoice.description

theorem isRestored_of_ofDatum [Runtime] {document : Datum}
    (restored : ofDatum document = .ok invoice) : IsRestored document invoice := by
  rw [ofDatum] at restored
  obtain ⟨_, -, restored⟩ := bind_eq_ok_iff.mp restored
  obtain ⟨_, -, restored⟩ := bind_eq_ok_iff.mp restored
  obtain ⟨features, -, restored⟩ := bind_eq_ok_iff.mp restored
  obtain ⟨text, -, restored⟩ := bind_eq_ok_iff.mp restored
  obtain ⟨_, -, restored⟩ := bind_eq_ok_iff.mp restored
  obtain ⟨network, -, restored⟩ := bind_eq_ok_iff.mp restored
  obtain ⟨payeeKey, -, restored⟩ := bind_eq_ok_iff.mp restored
  obtain ⟨paymentHash, hashSaid, restored⟩ := bind_eq_ok_iff.mp restored
  obtain ⟨description, descriptionSaid, restored⟩ := bind_eq_ok_iff.mp restored
  obtain ⟨amount, -, restored⟩ := bind_eq_ok_iff.mp restored
  obtain ⟨_, -, restored⟩ := bind_eq_ok_iff.mp restored
  obtain ⟨timestamp, -, restored⟩ := bind_eq_ok_iff.mp restored
  obtain ⟨_, -, restored⟩ := bind_eq_ok_iff.mp restored
  obtain ⟨expiry, -, restored⟩ := bind_eq_ok_iff.mp restored
  obtain ⟨_, -, restored⟩ := bind_eq_ok_iff.mp restored
  obtain ⟨_, -, restored⟩ := bind_eq_ok_iff.mp restored
  obtain ⟨routeHints, -, restored⟩ := bind_eq_ok_iff.mp restored
  obtain ⟨stored, secretSaid, restored⟩ := bind_eq_ok_iff.mp restored
  obtain ⟨_, -, restored⟩ := bind_eq_ok_iff.mp restored
  obtain ⟨minFinalCltvDelta, -, restored⟩ := bind_eq_ok_iff.mp restored
  obtain ⟨secret, secretRead, restored⟩ := bind_eq_ok_iff.mp restored
  obtain rfl := Except.ok.inj restored
  exact ⟨hashSaid, ⟨stored, secretSaid, secretRead⟩, descriptionSaid⟩

theorem secretOf_eq_ok_none_iff {value : Datum} : secretOf value = .ok none ↔ value = .null := by
  cases value with
  | null => exact iff_of_true rfl rfl
  | text text =>
    refine iff_of_false ?_ (by rintro ⟨⟩)
    rw [secretOf, if_neg (by exact Bool.false_ne_true)]
    cases (Datum.text text).toBytes with
    | error fault => rintro ⟨⟩
    | ok octets => rintro ⟨⟩
  | _ => exact iff_of_false (by rintro ⟨⟩) (by rintro ⟨⟩)

/-- A document leaves the payment secret out by a null. -/
theorem IsRestored.paymentSecret_eq_none_iff {document : Datum}
    (restored : IsRestored document invoice) :
    invoice.paymentSecret = none ↔ document.require "payment_secret" = .ok .null := by
  obtain ⟨stored, said, read⟩ := restored.paymentSecret
  rw [said, Except.ok.injEq, ← secretOf_eq_ok_none_iff, read, Except.ok.injEq]

/-- A document has a description that was never read if it holds something else than a text. -/
theorem IsRestored.exists_unread_iff {document : Datum} (restored : IsRestored document invoice) :
    (∃ value, invoice.description = some (.unread value)) ↔
      ∃ value, document.optional "description" = .ok value ∧ value ≠ .null ∧
        ∀ text, value ≠ .text text := by
  obtain ⟨stored, asked, read⟩ := bind_eq_ok_iff.mp restored.description
  rw [asked]
  simp only [Except.ok.injEq, exists_eq_left']
  cases stored with
  | null =>
    refine iff_of_false ?_ (fun other => other.1 rfl)
    rintro ⟨value, said⟩
    obtain ⟨hashStored, -, read⟩ := bind_eq_ok_iff.mp read
    split at read
    · cases said.symm.trans (Except.ok.inj read).symm
    · obtain ⟨hashed, hashedRead, read⟩ := bind_eq_ok_iff.mp read
      obtain ⟨digest, rfl⟩ := Description.exists_digest_of_ofHex hashedRead
      cases said.symm.trans (Except.ok.inj read).symm
  | text text =>
    refine iff_of_false ?_ (fun other => other.2 text rfl)
    rintro ⟨value, said⟩
    cases said.symm.trans (Except.ok.inj read).symm
  | _ => exact iff_of_true ⟨_, (Except.ok.inj read).symm⟩ ⟨by rintro ⟨⟩, by rintro _ ⟨⟩⟩

/-- Whatever a document says in texts of characters, rebuilding the invoice that is read from it
succeeds, fails for want of such a request, or fails in another way. It fails in another way exactly
in two cases. In the first there is a description, and the amount is no positive integer and has a
number in it that the runtime does not write. In the second there is a description, the amount is a
positive integer and every hop starts at a node with a key, and the document holds as its payment
hash something else than hexadecimal text; or, with a hash of its length, no payment secret; or,
with a secret of its length as well, a timestamp that is out of range and not written; or, with a
timestamp in range, a description that is no text; or, with a description that can be encoded, an
expiry or, with an expiry in range, a time-lock difference that is negative and not written. -/
theorem rebuild_restored [Runtime] {document : Datum} (restored : ofDatum document = .ok invoice)
    (answers : ∀ key, ∃ answer, signer.isPubkey key = .ok answer) (amount : Datum)
    (hints : List RouteHint) :
    document.require "payment_hash" = .ok invoice.paymentHash ∧
      (invoice.paymentSecret = none ↔ document.require "payment_secret" = .ok .null) ∧
      ((∃ value, invoice.description = some (.unread value)) ↔
        ∃ value, document.optional "description" = .ok value ∧ value ≠ .null ∧
          ∀ text, value ≠ .text text) ∧
      ∀ fault, (rebuild signer invoice amount hints).outcome = .error fault ∧
          ¬ fault.IsOfBuilding ↔
        (invoice.description.isSome = true ∧ fault.IsOfAmount amount) ∨
          (Admits signer invoice amount hints ∧ invoice.Misleads fault) := by
  have parts := isRestored_of_ofDatum restored
  exact ⟨parts.paymentHash, parts.paymentSecret_eq_none_iff, parts.exists_unread_iff,
    fun fault => failsBeyond_rebuild_iff answers⟩

/-- A document whose payment hash is no hexadecimal text, and one whose description is a number. -/
theorem rebuild_restored_odd_values :
    let zeros := Text.hexOf (List.replicate 32 0)
    let document (hash description : Datum) : Datum := .object [("bolt11", .text ""),
      ("network", .text "regtest"), ("payee_pubkey", .text ""), ("payment_hash", hash),
      ("description", description), ("timestamp", .int 0), ("expiry", .int 0),
      ("payment_secret", .text zeros), ("min_final_cltv_expiry_delta", .int 0)]
    (∃ invoice, ofDatum (document (.text "zz") (.text "")) = .ok invoice ∧
        (rebuild .onCurve invoice (.int 1) []).outcome = .error (.badValue (.notHex 0))) ∧
      ∃ invoice, ofDatum (document (.text zeros) (.int 5)) = .ok invoice ∧
        (rebuild .onCurve invoice (.int 1) []).outcome = .error .noSuchOperation := by
  intro zeros document
  have answers : ∀ key, ∃ answer, Signer.onCurve.isPubkey key = .ok answer := fun key => ⟨_, rfl⟩
  have passes {invoice : Invoice} (described : invoice.description.isSome = true) :
      Admits .onCurve invoice (.int 1) [] :=
    ⟨described, ⟨1, rfl, by decide⟩, List.forall_mem_nil _⟩
  constructor
  · have read : (ofDatum (document (.text "zz") (.text ""))).toOption.map
        (fun invoice => invoice.description.isSome) = some true := by decide +kernel
    obtain ⟨invoice, restored, described⟩ := exists_of_map_toOption read
    obtain ⟨hash, -, -, escapes⟩ := rebuild_restored restored answers (.int 1) []
    have unread : invoice.paymentHash.toBytes = .error (.badValue (.notHex 0)) := by
      rw [← Except.ok.inj hash]
      rfl
    exact ⟨invoice, restored, ((escapes _).mpr (.inr ⟨passes described,
      .paymentHash unread⟩)).1⟩
  · have read : (ofDatum (document (.text zeros) (.int 5))).toOption.map
        (fun invoice => (invoice.paymentSecret, invoice.timestamp)) =
          some (some (List.replicate 32 0), 0) := by decide +kernel
    obtain ⟨invoice, restored, seen⟩ := exists_of_map_toOption read
    obtain ⟨secret, timestamp⟩ := Prod.mk.inj seen
    obtain ⟨hash, -, description, escapes⟩ := rebuild_restored restored answers (.int 1) []
    obtain ⟨value, said⟩ := description.mpr ⟨.int 5, rfl, by rintro ⟨⟩, by rintro _ ⟨⟩⟩
    have hashRead : invoice.paymentHash.toBytes = .ok (List.replicate 32 0) := by
      rw [← Except.ok.inj hash, Datum.toBytes, Text.readHex_hexOf]
    refine ⟨invoice, restored, ((escapes _).mpr (.inr ⟨passes (by rw [said]; rfl),
      .encoder hashRead rfl secret rfl (.description ?_ said)⟩)).1⟩
    rw [timestamp]
    decide

end Invoice

end Bolt11
