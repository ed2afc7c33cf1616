/-
This file proves that an invoice that comes from a text comes back from the document it is stored
as, and that rebuilding makes no difference between the two.

Each part of an invoice takes its own way through a document. Octets go through hexadecimal, the
features through the list of their bits, and the channel of a hop through its number alone, since
its written form is not read back. Nothing is lost on these ways if the parts are in the ranges that
an invoice from a text keeps; the signature and the fields that were set aside have no way at all.
-/

import Bolt11.Invoice.Rebuilt
import Bolt11.Invoice.Stored
import Bolt11.Proofs.ChannelId
import Bolt11.Proofs.LetterCase
import Bolt11.Proofs.WellFormed

namespace Bolt11

/-! ### Bits -/

theorem mem_setBits {value place : Nat} : place ∈ setBits value ↔ value.testBit place = true := by
  rw [setBits, List.mem_filter, List.mem_range, and_iff_right_iff_imp]
  intro isSet
  by_contra beyond
  have below := Symbols.bitLength_le_iff.mp (Nat.not_lt.mp beyond)
  rw [Nat.testBit_lt_two_pow below] at isSet
  cases isSet

namespace Invoice

/-- Bits that there is room for are set besides those that are set already. -/
theorem addBits_eq_ok {features : Nat} {places : List Nat}
    (room : ∀ place ∈ places, place < roomInBits) :
    ∃ result, addBits features (places.map fun place : Nat => .int place) = .ok result ∧
      ∀ place, result.testBit place = (features.testBit place || decide (place ∈ places)) := by
  induction places generalizing features with
  | nil => exact ⟨features, rfl, fun place => by simp⟩
  | cons first rest inductionHypothesis =>
    obtain ⟨firstRoom, restRoom⟩ := List.forall_mem_cons.mp room
    have bit : bitOf (.int first) = .ok (2 ^ first) := by
      rw [bitOf]
      simp only [Datum.asInt?]
      rw [if_neg (Int.not_lt.mpr (Int.natCast_nonneg first)), if_pos (Int.ofNat_lt.mpr firstRoom),
        Int.toNat_natCast, Nat.pow_eq]
    obtain ⟨result, added, bits⟩ := inductionHypothesis restRoom
    refine ⟨result, ?_, fun place => ?_⟩
    · rw [List.map_cons, addBits]
      exact bind_eq_ok_iff.mpr ⟨_, bit, added⟩
    · rw [bits, Nat.testBit_or, Nat.testBit_two_pow, Bool.or_assoc, ← Bool.decide_or]
      refine congrArg _ (decide_eq_decide.mpr ?_)
      rw [List.mem_cons, eq_comm]

/-- A number is the number of its bits, if there is room for them. -/
theorem addBits_setBits {value : Nat} (room : Symbols.bitLength value ≤ roomInBits) :
    addBits 0 ((setBits value).map fun place : Nat => .int place) = .ok value := by
  have inside : ∀ place ∈ setBits value, place < roomInBits := fun place member =>
    (List.mem_range.mp (List.mem_filter.mp member).1).trans_le room
  obtain ⟨result, added, bits⟩ := addBits_eq_ok inside
  rw [added]
  refine congrArg Except.ok (Nat.eq_of_testBit_eq fun place => ?_)
  rw [bits, Nat.zero_testBit, Bool.false_or, Bool.eq_iff_iff, decide_eq_true_iff, mem_setBits]

end Invoice

/-! ### Route hints -/

/-- The case of hexadecimal digits is the one that is kept. -/
theorem Text.lower_of_isLowerHex {digits : Nat} {text : String}
    (lowered : IsLowerHex digits text) : String.ofList (lower text.toList) = text := by
  have ofDigit {c : Char} (digit : ('0' ≤ c ∧ c ≤ '9') ∨ ('a' ≤ c ∧ c ≤ 'f')) :
      c.toNat < 0x80 ∧ c.toLower = c := by
    have ascii : c.toNat < 0x80 := by
      rcases digit with ⟨-, most⟩ | ⟨-, most⟩
      · exact (UInt32.le_iff_toNat_le.mp most).trans_lt (by decide)
      · exact (UInt32.le_iff_toNat_le.mp most).trans_lt (by decide)
    have own : ∀ c : Char, c.toNat < 0x80 → ('0' ≤ c ∧ c ≤ '9') ∨ ('a' ≤ c ∧ c ≤ 'f') →
        c.toLower = c := forall_ascii (by decide)
    exact ⟨ascii, own c ascii digit⟩
  rw [lower_of_lowered fun c member => ofDigit (lowered.2 c member), String.ofList_toList]

namespace RouteHop

/-- A hop that comes back from a document: its node id is in lower case, and its channel is in
range. -/
structure IsStorable (hop : RouteHop) : Prop where
  nodeId : String.ofList (Text.lower hop.nodeId.toList) = hop.nodeId
  channel : 0 ≤ hop.channel ∧ hop.channel < 2 ^ 64

theorem ofInt_eq_ok [Runtime] {number : Int} (inRange : 0 ≤ number ∧ number < 2 ^ 64) :
    ChannelId.ofInt number = .ok ⟨Bytes.ofNat 8 number.toNat⟩ := by
  rw [ChannelId.ofInt]
  exact if_pos inRange

/-- The number of a channel comes back from itself. -/
theorem channelNumber_int [Runtime] {number : Int} (inRange : 0 ≤ number ∧ number < 2 ^ 64) :
    channelNumber (.int number) = .ok number := by
  have made := ofInt_eq_ok inRange
  have taken : ChannelId.ofDatum (.int number) = .ok (some ⟨Bytes.ofNat 8 number.toNat⟩) :=
    ChannelId.ofDatum_eq_some_iff.mpr (.inr ⟨number, rfl, made⟩)
  obtain ⟨-, isNumber⟩ := ChannelId.ofInt_eq_ok_iff.mp made
  exact channelNumber_eq_ok_iff.mpr ⟨_, taken, isNumber.symm⟩

/-- A hop comes back from its document. -/
theorem ofDatum_toDatum [Runtime] {hop : RouteHop} (storable : hop.IsStorable) :
    ∃ document, hop.toDatum = .ok document ∧ ofDatum document = .ok hop := by
  rw [toDatum, ofInt_eq_ok storable.channel]
  refine ⟨_, rfl, ?_⟩
  rw [ofDatum]
  refine bind_eq_ok_iff.mpr ⟨.text hop.nodeId, rfl, ?_⟩
  refine bind_eq_ok_iff.mpr ⟨.int hop.channel, rfl, ?_⟩
  refine bind_eq_ok_iff.mpr ⟨hop.channel, channelNumber_int storable.channel, ?_⟩
  refine bind_eq_ok_iff.mpr ⟨.int hop.baseFee, rfl, ?_⟩
  refine bind_eq_ok_iff.mpr ⟨hop.baseFee, rfl, ?_⟩
  refine bind_eq_ok_iff.mpr ⟨.int hop.proportionalFee, rfl, ?_⟩
  refine bind_eq_ok_iff.mpr ⟨hop.proportionalFee, rfl, ?_⟩
  refine bind_eq_ok_iff.mpr ⟨.int hop.cltvDelta, rfl, ?_⟩
  refine bind_eq_ok_iff.mpr ⟨hop.cltvDelta, rfl, ?_⟩
  refine bind_eq_ok_iff.mpr ⟨hop.htlcMinimum, rfl, ?_⟩
  refine bind_eq_ok_iff.mpr ⟨hop.htlcMaximum, rfl, ?_⟩
  refine congrArg Except.ok ?_
  rw [make, storable.nodeId]

end RouteHop

/-- Items that come back one by one come back together. -/
theorem exists_mapM_inverse {α β ε : Type} {store : α → Except ε β} {restore : β → Except ε α}
    {items : List α}
    (each : ∀ item ∈ items, ∃ stored, store item = .ok stored ∧ restore stored = .ok item) :
    ∃ results, items.mapM store = .ok results ∧ results.mapM restore = .ok items := by
  induction items with
  | nil => exact ⟨[], mapM_nil_eq_ok_iff.mpr rfl, mapM_nil_eq_ok_iff.mpr rfl⟩
  | cons item rest inductionHypothesis =>
    obtain ⟨⟨head, stored, restored⟩, others⟩ := List.forall_mem_cons.mp each
    obtain ⟨tail, storedTail, restoredTail⟩ := inductionHypothesis others
    exact ⟨head :: tail, mapM_cons_eq_ok_iff.mpr ⟨head, tail, stored, storedTail, rfl⟩,
      mapM_cons_eq_ok_iff.mpr ⟨item, rest, restored, restoredTail, rfl⟩⟩

/-- A hint comes back from its document. -/
theorem RouteHint.ofDatum_toDatum [Runtime] {hint : RouteHint}
    (storable : ∀ hop ∈ hint.hops, hop.IsStorable) :
    ∃ document, hint.toDatum = .ok document ∧ ofDatum document = .ok hint := by
  obtain ⟨hops, stored, restored⟩ :=
    exists_mapM_inverse fun hop member => RouteHop.ofDatum_toDatum (storable hop member)
  refine ⟨.object [("hops", .list hops)], bind_eq_ok_iff.mpr ⟨hops, stored, rfl⟩, ?_⟩
  refine bind_eq_ok_iff.mpr ⟨.list hops, rfl, ?_⟩
  refine bind_eq_ok_iff.mpr ⟨hops, rfl, ?_⟩
  exact bind_eq_ok_iff.mpr ⟨hint.hops, restored, rfl⟩

/-! ### Descriptions -/

/-- A description comes back from its text or its hash, whatever else a document holds. -/
theorem Description.ofDatum_of_lookup {description : Option Description}
    (readable : ∀ own ∈ description, own.IsRead) {entries : List (String × Datum)}
    (plain : Datum.lookup "description" entries = some (text description))
    (hashed : Datum.lookup "description_hash" entries = some (digest description)) :
    ofDatum (.object entries) = .ok description := by
  have first : Datum.optional (.object entries) "description" = .ok (text description) := by
    rw [Datum.optional, plain]
    rfl
  have second : Datum.optional (.object entries) "description_hash" = .ok (digest description) := by
    rw [Datum.optional, hashed]
    rfl
  refine bind_eq_ok_iff.mpr ⟨_, first, ?_⟩
  cases description with
  | none => exact bind_eq_ok_iff.mpr ⟨_, second, rfl⟩
  | some own =>
    cases own with
    | plain text => rfl
    | hashed digest =>
      refine bind_eq_ok_iff.mpr ⟨_, second, ?_⟩
      have read : ofHex (.text (Text.hexOf digest.octets)) = .ok (.hashed digest) := by
        simp only [ofHex, Datum.toBytes, Text.readHex_hexOf, ofDigest, dif_pos digest.sized]
      exact bind_eq_ok_iff.mpr ⟨_, read, rfl⟩
    | unread value => exact (readable _ rfl).elim

/-! ### Invoices -/

namespace Invoice

/-- What a document holds of an invoice. -/
def withoutSignature (invoice : Invoice) : Invoice :=
  { invoice with signature := none, setAside := [] }

/-- An invoice that comes back from a document. -/
structure IsStorable (invoice : Invoice) : Prop where
  paymentSecret : invoice.paymentSecret.isSome
  features : Symbols.bitLength invoice.features ≤ roomInBits
  description : ∀ description ∈ invoice.description, description.IsRead
  routeHints : ∀ hint ∈ invoice.routeHints, ∀ hop ∈ hint.hops, hop.IsStorable

theorem require_name (network : Network) : Network.require (.text network.name) = .ok network := by
  cases network <;> rfl

/-- An invoice comes back from its document without its signature and the fields that were set
aside. -/
theorem ofDatum_toDatum [Runtime] {invoice : Invoice} (storable : invoice.IsStorable) :
    ∃ document, invoice.toDatum = .ok document ∧
      ofDatum document = .ok invoice.withoutSignature := by
  obtain ⟨secret, hasSecret⟩ := Option.isSome_iff_exists.mp storable.paymentSecret
  obtain ⟨hints, stored, restored⟩ := exists_mapM_inverse fun hint member =>
    RouteHint.ofDatum_toDatum (storable.routeHints hint member)
  have required : requireSecret invoice.paymentSecret = .ok secret := by
    rw [hasSecret]
    rfl
  refine ⟨_, bind_eq_ok_iff.mpr ⟨hints, stored, bind_eq_ok_iff.mpr ⟨secret, required, rfl⟩⟩, ?_⟩
  have secretRead : secretOf (.text (Text.hexOf secret)) = .ok (some secret) := by
    simp only [secretOf, Datum.isNull, Datum.toBytes, Text.readHex_hexOf, Except.map,
      Bool.false_eq_true, if_false]
  rw [ofDatum]
  refine bind_eq_ok_iff.mpr ⟨_, rfl, ?_⟩
  refine bind_eq_ok_iff.mpr ⟨_, rfl, ?_⟩
  refine bind_eq_ok_iff.mpr ⟨_, addBits_setBits storable.features, ?_⟩
  refine bind_eq_ok_iff.mpr ⟨invoice.text, rfl, ?_⟩
  refine bind_eq_ok_iff.mpr ⟨.text invoice.network.name, rfl, ?_⟩
  refine bind_eq_ok_iff.mpr ⟨_, require_name invoice.network, ?_⟩
  refine bind_eq_ok_iff.mpr ⟨invoice.payeeKey, rfl, ?_⟩
  refine bind_eq_ok_iff.mpr ⟨invoice.paymentHash, rfl, ?_⟩
  refine bind_eq_ok_iff.mpr ⟨_, Description.ofDatum_of_lookup storable.description rfl rfl, ?_⟩
  refine bind_eq_ok_iff.mpr ⟨invoice.amount, rfl, ?_⟩
  refine bind_eq_ok_iff.mpr ⟨.int invoice.timestamp, rfl, ?_⟩
  refine bind_eq_ok_iff.mpr ⟨invoice.timestamp, rfl, ?_⟩
  refine bind_eq_ok_iff.mpr ⟨.int invoice.expiry, rfl, ?_⟩
  refine bind_eq_ok_iff.mpr ⟨invoice.expiry, rfl, ?_⟩
  refine bind_eq_ok_iff.mpr ⟨.list hints, rfl, ?_⟩
  refine bind_eq_ok_iff.mpr ⟨hints, rfl, ?_⟩
  refine bind_eq_ok_iff.mpr ⟨invoice.routeHints, restored, ?_⟩
  refine bind_eq_ok_iff.mpr ⟨.text (Text.hexOf secret), rfl, ?_⟩
  refine bind_eq_ok_iff.mpr ⟨.int invoice.minFinalCltvDelta, rfl, ?_⟩
  refine bind_eq_ok_iff.mpr ⟨invoice.minFinalCltvDelta, rfl, ?_⟩
  refine bind_eq_ok_iff.mpr ⟨some secret, secretRead, ?_⟩
  rw [withoutSignature, hasSecret]
  rfl

/-- Every invoice that comes from a text can be stored. -/
theorem isStorable_of_parse [Runtime] {signer : Signer} {inUse : Network}
    {settings : Option Settings} {text : Option String} {invoice : Invoice}
    (parsed : (parse signer inUse settings text).outcome = .ok invoice) : invoice.IsStorable := by
  have isRead := isRead_of_parse parsed
  have wellFormed := isWellFormed_of_parse parsed
  refine ⟨isRead.paymentSecret, ?_, isRead.description, fun hint among hop member => ?_⟩
  · -- five bits for each symbol of a field
    have bounded := wellFormed.features
    rw [show 32 = 2 ^ 5 from rfl, ← pow_mul] at bounded
    exact (Symbols.bitLength_le_iff.mpr bounded).trans (by decide)
  · have hopWellFormed := (wellFormed.routeHints hint among).hops hop member
    exact ⟨Text.lower_of_isLowerHex hopWellFormed.nodeId, hopWellFormed.channel⟩

/-- Whatever text is parsed: the invoice can be stored, and what is read from the document is the
invoice without its signature and the fields that were set aside. Whatever is then rebuilt from the
one, with any signer, amount and hints, is rebuilt from the other, to the same request or the same
fault, and with the same questions and notes on the way. -/
theorem restore_parsed [Runtime] {signer : Signer} {inUse : Network} {settings : Option Settings}
    {text : Option String} {invoice : Invoice}
    (parsed : (parse signer inUse settings text).outcome = .ok invoice) :
    ∃ document copy, invoice.toDatum = .ok document ∧ ofDatum document = .ok copy ∧
      copy = { invoice with signature := none, setAside := [] } ∧
      ∀ other amount hints, rebuild other copy amount hints = rebuild other invoice amount hints := by
  obtain ⟨document, stored, restored⟩ := ofDatum_toDatum (isStorable_of_parse parsed)
  exact ⟨document, invoice.withoutSignature, stored, restored, rfl, fun _ _ _ => rfl⟩

/-- A request with an empty description, a feature far up, a hop over the last channel of all, no
amount, and a field that is set aside. -/
theorem restore_parsed_hop :
    let fields : List Field := [⟨'p', List.replicate 52 0⟩, ⟨'s', List.replicate 52 0⟩, ⟨'d', []⟩,
      ⟨'9', 1 :: List.replicate 200 0⟩, ⟨'r', List.replicate 80 31 ++ [31, 28]⟩, ⟨'q', [3]⟩]
    let symbols := List.replicate 7 1 ++ fields.flatMap Field.spelling ++ List.replicate 104 0
    let text := String.ofList (Bech32.write .bech32 "lnbc".toList symbols)
    let signer : Signer := ⟨fun _ _ _ => .ok false, fun _ _ _ => .ok [1, 2, 3], fun _ => .ok true⟩
    ∃ invoice document copy, (parse signer .mainnet none (some text)).outcome = .ok invoice ∧
      invoice.toDatum = .ok document ∧ ofDatum document = .ok copy ∧
      invoice.signature.isSome ∧ copy.signature = none ∧
      copy.routeHints.length = 1 ∧ copy.features.testBit 1000 = true ∧
      (rebuild signer copy (.int 1) copy.routeHints).outcome =
        (rebuild signer invoice (.int 1) copy.routeHints).outcome := by
  intro fields symbols text signer
  have small : ∀ symbol ∈ symbols, symbol < 32 := by decide +kernel
  have opened : WireInvoice.openText text = .ok ("lnbc", symbols, .mainnet, none) :=
    WireInvoice.openText_without_amount small (by decide +kernel)
  have accepted : (WireInvoice.decode signer false text).outcome.toOption.map
      (fun wire => (wire.routeHints.length, wire.features.testBit 1000)) = some (1, true) := by
    rw [WireInvoice.decode, opened]
    decide +kernel
  obtain ⟨wire, decoded, seen⟩ := exists_of_map_toOption accepted
  obtain ⟨hints, feature⟩ := Prod.mk.inj seen
  have parsed : (parse signer .mainnet none (some text)).outcome = .ok (ofWire wire text) :=
    parse_write (HumanPart.isHumanPart_form .mainnet none) small decoded
  obtain ⟨document, copy, stored, restored, rfl, rebuilt⟩ := restore_parsed parsed
  exact ⟨_, document, _, parsed, stored, restored, rfl, rfl, hints, feature,
    congrArg Traced.outcome (rebuilt signer (.int 1) _)⟩

end Invoice

end Bolt11
