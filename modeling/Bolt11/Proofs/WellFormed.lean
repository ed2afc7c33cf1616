/-
This file proves that every part of an invoice that comes from a text is in range.

Nothing checks most of these ranges as such. They follow from the form of a request: a field has
fewer than 1024 symbols, a symbol is five bits, some fields have one length only, and what is cut
into octets of a fixed width is below a power of 256. The amount is in range because it has been
compared with all bitcoin there can be, and the payee's key is a key because the signer says so.
Whoever stores an invoice or encodes it again relies on these ranges.
-/

import Bolt11.Proofs.Meaning
import Bolt11.Proofs.Parsing
import Bolt11.Proofs.ReadingFaults

namespace Bolt11

open Bolt11.Field (Role ofRole)

/-! ### Fields -/

namespace Field

variable {field : Field}

theorem length_of_holds {octets : Bytes} (holds : field.Holds octets) :
    octets.length = 5 * field.payload.length / 8 :=
  Symbols.length_of_standFor holds

/-- No field holds more octets than a description may have. -/
theorem length_le_of_holds (fits : field.Fits) {octets : Bytes} (holds : field.Holds octets) :
    octets.length ≤ 639 := by
  have short := fits.short
  rw [length_of_holds holds]
  omega

/-- A field of octets of fixed width has its length. -/
theorem length_payload_of_role (sized : field.role = .paymentHash ∨ field.role = .paymentSecret) :
    field.payload.length = 52 := by
  unfold role at sized
  split at sized <;> grind

theorem length_of_sized (sized : field.role = .paymentHash ∨ field.role = .paymentSecret)
    {octets : Bytes} (holds : field.Holds octets) : octets.length = 32 := by
  rw [length_of_holds holds, length_payload_of_role sized]

theorem number_lt (fits : field.Fits) (small : ∀ symbol ∈ field.payload, symbol < 32) :
    field.number < 32 ^ maxLength := by
  have below := Symbols.toNat_lt small
  rw [Symbols.toNat_eq_ofDigits] at below
  exact below.trans_le (Nat.pow_le_pow_right (by decide) (Nat.le_of_lt_succ fits.short))

end Field

/-! ### Route hints -/

/-- A hop that was read: its node id is in lower-case hexadecimal, its numbers are in the range of
their widths, and it has no limits on what it forwards. -/
structure RouteHop.IsWellFormed (hop : RouteHop) : Prop where
  nodeId : Text.IsLowerHex 66 hop.nodeId
  channel : 0 ≤ hop.channel ∧ hop.channel < 2 ^ 64
  baseFee : 0 ≤ hop.baseFee ∧ hop.baseFee < 2 ^ 32
  proportionalFee : 0 ≤ hop.proportionalFee ∧ hop.proportionalFee < 2 ^ 32
  cltvDelta : 0 ≤ hop.cltvDelta ∧ hop.cltvDelta < 2 ^ 16
  htlcMinimum : hop.htlcMinimum = .null
  htlcMaximum : hop.htlcMaximum = .null

/-- A hop that has a wire form and is in canonical form is well formed. -/
theorem RouteHop.isWellFormed_of_fits {hop : RouteHop} (fits : hop.Fits)
    (canonical : hop.canonical = hop) : hop.IsWellFormed := by
  obtain ⟨node, nodeRead, sized⟩ := fits.node
  have written := nodeId_of_canonical canonical nodeRead
  exact {
    nodeId := by
      have digits := Text.isLowerHex_hexOf node
      rwa [← written, sized] at digits
    channel := fits.channel
    baseFee := fits.baseFee
    proportionalFee := fits.proportionalFee
    cltvDelta := fits.cltvDelta
    htlcMinimum := by rw [← canonical]; rfl
    htlcMaximum := by rw [← canonical]; rfl }

/-- A hint that was read: it has between one and twelve hops, and each is well formed. -/
structure RouteHint.IsWellFormed (hint : RouteHint) : Prop where
  nonempty : 1 ≤ hint.hops.length
  short : hint.hops.length ≤ 12
  hops : ∀ hop ∈ hint.hops, hop.IsWellFormed

/-- The hops of a hint that was read have a wire form and are in canonical form. -/
theorem RouteHint.fits_of_leads {field : Field} {hint : RouteHint} (leads : field.Leads hint) :
    ∀ hop ∈ hint.hops, hop.Fits ∧ hop.canonical = hop := by
  obtain ⟨octets, -, -, written, canonical⟩ := leads
  obtain ⟨pieces, made, -⟩ := bind_eq_ok_iff.mp written
  have hopsCanonical : hint.hops.map RouteHop.canonical = hint.hops :=
    congrArg RouteHint.hops canonical
  intro hop member
  exact ⟨RouteHop.exists_toBytes_iff.mp (exists_mapM_iff.mp ⟨pieces, made⟩ hop member),
    List.map_inj_left.mp (hopsCanonical.trans (List.map_id _).symm) hop member⟩

theorem RouteHint.isWellFormed_of_leads {field : Field} (fits : field.Fits) {hint : RouteHint}
    (leads : field.Leads hint) : hint.IsWellFormed := by
  have hops := RouteHint.fits_of_leads leads
  obtain ⟨octets, holds, nonempty, written, -⟩ := leads
  have sized := (RouteHint.ofBytes_toBytes written).1
  have some_octets := List.length_pos_of_ne_nil nonempty
  have few := Field.length_le_of_holds fits holds
  rw [sized, RouteHop.wireLength] at some_octets few
  refine ⟨by omega, by omega, fun hop member => ?_⟩
  obtain ⟨hopFits, canonical⟩ := hops hop member
  exact RouteHop.isWellFormed_of_fits hopFits canonical

namespace Invoice

/-! ### Invoices -/

/-- What an invoice that comes from a text is like, the payee's key apart. -/
structure IsWellFormed (invoice : Invoice) : Prop where
  paymentHash : ∃ hash, invoice.paymentHash = .text hash ∧ Text.IsLowerHex 64 hash
  paymentSecret : ∃ secret, invoice.paymentSecret = some secret ∧ secret.length = 32
  signature : ∃ signature, invoice.signature = some signature ∧ signature.length = 65
  timestamp : 0 ≤ invoice.timestamp ∧ invoice.timestamp < 2 ^ 35
  amount : invoice.amount = .null ∨
    ∃ msat, invoice.amount = .int msat ∧ 0 ≤ msat ∧ msat ≤ 2100000000000000000
  expiry : 0 ≤ invoice.expiry ∧ invoice.expiry < 32 ^ Field.maxLength
  minFinalCltvDelta :
    0 ≤ invoice.minFinalCltvDelta ∧ invoice.minFinalCltvDelta < 32 ^ Field.maxLength
  features : invoice.features < 32 ^ Field.maxLength
  oneDescription : Description.text invoice.description = .null ∨
    Description.digest invoice.description = .null
  description : Description.text invoice.description = .null ∨
    ∃ text, Description.text invoice.description = .text text ∧
      (Text.Utf8.encode text).length ≤ 639
  descriptionHash : Description.digest invoice.description = .null ∨
    ∃ hash : Bytes, Description.digest invoice.description = .text (Text.hexOf hash) ∧
      hash.length = 32
  routeHints : ∀ hint ∈ invoice.routeHints, hint.IsWellFormed
  setAside : ∀ field ∈ invoice.setAside, field.payload.length < 1024

/-- The first octets of a role of fixed length have that length. -/
theorem length_of_rel_head {role : Role} {fields : List Field} {octets : Bytes}
    (sized : role = .paymentHash ∨ role = .paymentSecret)
    (held : Option.Rel Field.Holds (ofRole role fields).head? (some octets)) :
    octets.length = 32 := by
  obtain ⟨field, first, holds⟩ := exists_left_of_rel held
  have own := (Field.mem_ofRole.mp (List.mem_of_head? first)).2
  exact Field.length_of_sized (own ▸ sized) holds

/-- A number that a field says, or the default if none does. -/
theorem number_getD_lt {field : Option Field} {fallback : Nat}
    (bounded : ∀ own ∈ field, own.number < 32 ^ Field.maxLength)
    (small : fallback < 32 ^ 3) :
    (field.map Field.number).getD fallback < 32 ^ Field.maxLength := by
  cases field with
  | none => exact small.trans_le (Nat.pow_le_pow_right (by decide) (by decide))
  | some field => exact bounded field rfl

theorem natCast_in_range (value : Nat) (below : value < 32 ^ Field.maxLength) :
    0 ≤ (value : Int) ∧ (value : Int) < 32 ^ Field.maxLength := by
  refine ⟨Int.natCast_nonneg _, ?_⟩
  simpa only [Nat.cast_pow, Nat.cast_ofNat] using Int.ofNat_lt.mpr below

/-- A description that was read is a text of limited length or a hash. -/
theorem description_of_describes {field : Field} (fits : field.Fits) {description : Description}
    (describes : field.Describes description) :
    (∃ text, description = .plain text ∧ (Text.Utf8.encode text).length ≤ 639) ∨
      ∃ digest, description = .hashed digest := by
  cases description with
  | plain text => exact .inl ⟨text, rfl, Field.length_le_of_holds fits describes.2⟩
  | hashed digest => exact .inr ⟨digest, rfl⟩
  | unread value => exact describes.elim

/-- Every invoice that comes from a text is well formed, whoever the signer is. -/
theorem isWellFormed_of_parse [Runtime] {signer : Signer} {inUse : Network}
    {settings : Option Settings} {text : Option String} {invoice : Invoice}
    (parsed : (parse signer inUse settings text).outcome = .ok invoice) :
    invoice.IsWellFormed := by
  obtain ⟨normalized, strict, wire, -, -, -, decoded, rfl⟩ := parse_eq_ok_iff.mp parsed
  obtain ⟨symbols, contents, parts, -⟩ := WireInvoice.isDecoding_of_decode decoded
  obtain ⟨small, fields, cut, -, means⟩ := WireInvoice.means_of_isDecoding parts
  obtain ⟨-, partRead, long⟩ := WireInvoice.openText_eq_ok_iff.mp parts.opened
  have payloads := WireInvoice.payload_lt_of_isCutInto small cut
  have numbers (role : Role) : ∀ field ∈ ofRole role fields,
      field.number < 32 ^ Field.maxLength := fun field member =>
    have among := (Field.mem_ofRole.mp member).1
    Field.number_lt (cut.fit field among) (payloads field among)
  have described : wire.description = none ∨
      (∃ text, wire.description = some (.plain text) ∧ (Text.Utf8.encode text).length ≤ 639) ∨
      ∃ digest, wire.description = some (.hashed digest) := by
    cases said : wire.description with
    | none => exact .inl rfl
    | some description =>
      obtain ⟨field, among, describes⟩ := means.exists_describes said
      rcases description_of_describes (cut.fit field among) describes with
        ⟨text, rfl, short⟩ | ⟨digest, rfl⟩
      · exact .inr (.inl ⟨text, rfl, short⟩)
      · exact .inr (.inr ⟨digest, rfl⟩)
  exact {
    paymentHash := by
      have digits := Text.isLowerHex_hexOf wire.paymentHash
      rw [length_of_rel_head (.inl rfl) means.paymentHash] at digits
      exact ⟨_, rfl, digits⟩
    paymentSecret := ⟨_, rfl, length_of_rel_head (.inr rfl) means.paymentSecret⟩
    signature := ⟨_, rfl, WireInvoice.length_signature small long parts.signature⟩
    timestamp := by
      have sized : (symbols.take WireInvoice.timestampLength).length = 7 := by
        rw [List.length_take, WireInvoice.timestampLength]
        simp only [WireInvoice.timestampLength] at long
        omega
      have below := Symbols.toNat_lt fun symbol member =>
        small symbol (List.mem_of_mem_take (i := WireInvoice.timestampLength) member)
      rw [← parts.timestamp, sized] at below
      exact ⟨Int.natCast_nonneg _, Int.ofNat_lt.mpr below⟩
    amount := by
      cases said : wire.amount with
      | none => exact .inl (by simp only [ofWire, said]; rfl)
      | some msat =>
        rw [said] at partRead
        have bounded := HumanPart.amount_le_of_read partRead msat rfl
        exact .inr ⟨msat, by simp only [ofWire, said]; rfl, Int.natCast_nonneg _,
          Int.ofNat_le.mpr bounded⟩
    expiry := by
      refine natCast_in_range wire.expiryOrDefault ?_
      rw [WireInvoice.expiryOrDefault, means.expiry]
      exact number_getD_lt (fun field first => numbers _ field (List.mem_of_head? first))
        (by decide)
    minFinalCltvDelta := by
      refine natCast_in_range wire.cltvDeltaOrDefault ?_
      rw [WireInvoice.cltvDeltaOrDefault, means.minFinalCltvDelta]
      exact number_getD_lt (fun field first => numbers _ field (List.mem_of_head? first))
        (by decide)
    features := by
      show wire.features < 32 ^ Field.maxLength
      rw [means.features]
      exact number_getD_lt (fun field last => numbers _ field (List.mem_of_getLast? last))
        (by decide)
    oneDescription := by
      rcases described with none_said | ⟨text, said, -⟩ | ⟨digest, said⟩
      · exact .inl (by simp only [ofWire, none_said]; rfl)
      · exact .inr (by simp only [ofWire, said]; rfl)
      · exact .inl (by simp only [ofWire, said]; rfl)
    description := by
      rcases described with none_said | ⟨text, said, short⟩ | ⟨digest, said⟩
      · exact .inl (by simp only [ofWire, none_said]; rfl)
      · exact .inr ⟨text, by simp only [ofWire, said]; rfl, short⟩
      · exact .inl (by simp only [ofWire, said]; rfl)
    descriptionHash := by
      rcases described with none_said | ⟨text, said, short⟩ | ⟨digest, said⟩
      · exact .inl (by simp only [ofWire, none_said]; rfl)
      · exact .inl (by simp only [ofWire, said]; rfl)
      · exact .inr ⟨digest.octets, by simp only [ofWire, said]; rfl, digest.sized⟩
    routeHints := by
      intro hint member
      obtain ⟨field, among, leads⟩ := means.exists_leads hint member
      exact RouteHint.isWellFormed_of_leads (cut.fit field among) leads
    setAside := by
      intro field member
      rw [show (ofWire wire normalized).setAside = _ from means.setAside] at member
      exact (cut.fit field (Field.mem_ofRole.mp member).1).short }

/-! ### The payee's key -/

/-- The payee of every invoice that comes from a text has a key that the signer owns to be one,
named or recovered. -/
theorem exists_payeeKey_of_parse [Runtime] {signer : Signer} {inUse : Network}
    {settings : Option Settings} {text : Option String} {invoice : Invoice}
    (parsed : (parse signer inUse settings text).outcome = .ok invoice) :
    ∃ key, invoice.payeeKey = .text (Text.hexOf key) ∧ signer.isPubkey key = .ok true := by
  obtain ⟨normalized, strict, wire, -, -, -, decoded, rfl⟩ := parse_eq_ok_iff.mp parsed
  obtain ⟨symbols, contents, parts, -⟩ := WireInvoice.isDecoding_of_decode decoded
  obtain ⟨-, fields, -, -, means⟩ := WireInvoice.means_of_isDecoding parts
  obtain ⟨hash, -, -, endorses⟩ := Signature.endorses_of_check parts.checked
  refine ⟨wire.payeeKey, rfl, ?_⟩
  rcases Signature.key_of_endorses endorses with named | isKey
  · rw [← parts.namedKey] at named
    obtain ⟨field, -, names⟩ := exists_left_of_rel (named ▸ means.namedKey)
    exact names.2
  · exact isKey

/-- Whatever the text and the settings are, and whatever library is behind the signer: an invoice
that is parsed has all its parts in range, and its payee has a key of thirty-three octets that the
library reads. -/
theorem parse_ofLibrary_isWellFormed [Runtime] {library : Signer.Library} {inUse : Network}
    {settings : Option Settings} {text : Option String} {invoice : Invoice}
    (parsed : (parse (.ofLibrary library) inUse settings text).outcome = .ok invoice) :
    invoice.IsWellFormed ∧
      ∃ key, invoice.payeeKey = .text (Text.hexOf key) ∧ key.length = 33 ∧
        library.readsKey key = true := by
  obtain ⟨key, written, owned⟩ := exists_payeeKey_of_parse parsed
  obtain ⟨sized, read⟩ := Bool.and_eq_true_iff.mp (Except.ok.inj owned)
  exact ⟨isWellFormed_of_parse parsed, key, written, eq_of_beq sized, read⟩

/-- A request over one hop with a signature whose two numbers are the first coordinate of the
generator. -/
theorem parse_ofLibrary_isWellFormed_hop :
    let coordinate := Bytes.ofNat 32 Secp256k1.Point.generator.x
    let fields : List Field := [⟨'p', List.replicate 52 0⟩, ⟨'s', List.replicate 52 0⟩,
      ⟨'d', [12, 4]⟩, ⟨'r', List.replicate 80 31 ++ [31, 28]⟩, ⟨'q', [3]⟩]
    let symbols := List.replicate 7 31 ++ fields.flatMap Field.spelling ++
      Symbols.ofBytes (coordinate ++ coordinate ++ [0])
    let text := String.ofList (Bech32.write .bech32 "lnbc".toList symbols)
    ∃ invoice, (parse Signer.onCurve .mainnet none (some text)).outcome = .ok invoice ∧
      invoice.IsWellFormed ∧ ∃ key, invoice.payeeKey = .text (Text.hexOf key) := by
  intro coordinate fields symbols text
  have small : ∀ symbol ∈ symbols, symbol < 32 := by decide +kernel
  have opened : WireInvoice.openText text = .ok ("lnbc", symbols, .mainnet, none) :=
    WireInvoice.openText_without_amount small (by decide +kernel)
  have accepted : (WireInvoice.decode Signer.onCurve false text).outcome.isOk = true := by
    rw [WireInvoice.decode, opened]
    decide +kernel
  obtain ⟨wire, decoded⟩ := exists_of_isOk accepted
  have parsed : (parse Signer.onCurve .mainnet none (some text)).outcome =
      .ok (ofWire wire text) :=
    parse_write (HumanPart.isHumanPart_form .mainnet none) small decoded
  obtain ⟨wellFormed, key, written, -, -⟩ := parse_ofLibrary_isWellFormed parsed
  exact ⟨_, parsed, wellFormed, key, written⟩

end Invoice

end Bolt11
