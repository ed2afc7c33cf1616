/-
This file proves that a signed request is decoded to the request that was signed.

Encoding succeeds or fails before there is a signature, and once the symbols are there nothing
stands in the way of the text: the human readable part is in lower-case ASCII, the symbols are
symbols, and the signature takes just the room that the reader cuts off for it. Reading the text
then meets the symbols that were written, and so the digest that was signed. If the signer stands
by the signature, what comes out is the request, down to a time-lock difference of zero, which is
not taken for an absent one. Only what the wire has no room for is lost on the way.
-/

import Bolt11.Proofs.Encoding
import Bolt11.Proofs.HumanPart

namespace Bolt11

open WireInvoice (AddsAll Contents)

namespace UnsignedInvoice

/-! ### The symbols -/

/-- What is known of a request and its symbols if it can be encoded: its numbers are in range, it
has a description, and its symbols are a timestamp and the fields that say the rest. -/
structure IsEncoded (request : UnsignedInvoice) (symbols : List Nat) : Prop where
  amount : ∀ msat ∈ request.amount, 0 < msat
  description : request.description.isSome
  expiry : ∀ seconds ∈ request.expiry, 0 ≤ seconds
  minFinalCltvDelta : ∀ blocks ∈ request.minFinalCltvDelta, 0 ≤ blocks
  features : 0 ≤ request.features
  timestamp : ((Symbols.toNat (symbols.take WireInvoice.timestampLength) : Nat) : Int) =
    request.timestamp
  long : WireInvoice.timestampLength ≤ symbols.length
  small : ∀ symbol ∈ symbols, symbol < 32
  fields : ∀ signer : Signer, (∀ key ∈ request.payeeKey, signer.isPubkey key = .ok true) →
    ∃ fields : List Field, (∀ field ∈ fields, field.Fits) ∧
      symbols.drop WireInvoice.timestampLength = fields.flatMap Field.spelling ∧
      ∃ questions, AddsAll signer .empty fields request.contents questions

theorem isEncoded_of_symbols [Runtime] {request : UnsignedInvoice} {symbols : List Nat}
    (written : request.symbols = .ok symbols) : request.IsEncoded symbols := by
  obtain ⟨pieces, parts, rfl⟩ := symbols_eq_ok_iff.mp written
  obtain ⟨timestampSized, timestampSmall, timestampRead⟩ :=
    Symbols.ofIntFixed_eq_ok WireInvoice.timestampLength parts.timestamp
  -- whether the symbols are symbols does not depend on the signer, so any will do
  obtain ⟨_, said, -⟩ := says_fields ⟨fun _ _ _ => .ok true, fun _ _ _ => .error .noKey,
    fun _ => .ok true⟩ parts fun _ _ => rfl
  obtain ⟨_, described, -⟩ := says_description Signer.silent parts.description
  exact {
    amount := checkAmount_eq_ok_iff.mp parts.amount
    description := by rw [described]; rfl
    expiry := (says_expiry Signer.silent parts.expiry).1
    minFinalCltvDelta := (says_cltvDelta Signer.silent parts.minFinalCltvDelta).1
    features := (says_features Signer.silent parts.features).1
    timestamp := by rw [List.take_left' timestampSized, timestampRead]
    long := by
      rw [List.length_append, timestampSized]
      exact Nat.le_add_right _ _
    small := by
      intro symbol member
      rcases List.mem_append.mp member with first | rest
      · exact timestampSmall symbol first
      · exact said.small symbol rest
    fields := by
      intro signer isKey
      obtain ⟨change, said, whole⟩ := says_fields signer parts isKey
      obtain ⟨fields, fit, spelled, adds⟩ := said.fields
      refine ⟨fields, fit, ?_, whole ▸ adds .empty⟩
      rw [List.drop_left' timestampSized, spelled] }

/-! ### The text -/

theorem map_ofNat_toNat {number : Option Int} (natural : ∀ value ∈ number, 0 ≤ value) :
    (number.map Int.toNat).map Int.ofNat = number := by
  cases number with
  | none => rfl
  | some value => exact congrArg some (Int.toNat_of_nonneg (natural value rfl))

/-- The amount of a request, positive as it is, as a natural number. -/
theorem amount_eq {request : UnsignedInvoice} (positive : ∀ msat ∈ request.amount, 0 < msat) :
    (request.amount.map Int.toNat).map Int.ofNat = request.amount :=
  map_ofNat_toNat fun msat member => Int.le_of_lt (positive msat member)

theorem amount_toNat_le {request : UnsignedInvoice}
    (bounded : ∀ msat ∈ request.amount, msat ≤ Amount.supplyInMsat) :
    ∀ msat ∈ request.amount.map Int.toNat, msat ≤ Amount.supplyInMsat := by
  intro msat member
  obtain ⟨amount, among, rfl⟩ := Option.map_eq_some_iff.mp member
  have := bounded amount among
  omega

/-- The human readable part, as the amount allows one. -/
def part (request : UnsignedInvoice) : String := HumanPart.form request.network request.amount

/-- An amount up to the limit can be written in the human readable part. -/
theorem humanPart_of_le [Runtime] {request : UnsignedInvoice}
    (positive : ∀ msat ∈ request.amount, 0 < msat)
    (bounded : ∀ msat ∈ request.amount, msat ≤ Amount.supplyInMsat) :
    request.humanPart = .ok request.part := by
  have written := HumanPart.write_of_le request.network (amount_toNat_le bounded)
  rw [amount_eq positive] at written
  rw [humanPart, written, part]

theorem humanPart_of_shorten_eq_ok [Runtime] {request : UnsignedInvoice} {msat : Int}
    (amount : request.amount = some msat)
    (shortened : Amount.shorten msat = .ok (Amount.shortForm msat)) :
    request.humanPart = .ok request.part := by
  have written := HumanPart.write_eq_form request.network
    (show ∀ own ∈ request.amount, Amount.shorten own = .ok (Amount.shortForm own) from
      fun own member => Option.mem_unique amount member ▸ shortened)
  rw [humanPart, written, part]

theorem humanPart_of_shorten_eq_error [Runtime] {request : UnsignedInvoice} {msat : Int}
    {cause : BadValue} (amount : request.amount = some msat)
    (unwritten : Amount.shorten msat = .error cause) :
    request.humanPart = .error (.badValue cause) := by
  rw [humanPart, amount, HumanPart.write, unwritten]

theorem isHumanPart {request : UnsignedInvoice} {symbols : List Nat}
    (encoded : request.IsEncoded symbols) : Bech32.IsHumanPart request.part.toList := by
  have writable := HumanPart.isHumanPart_form request.network (request.amount.map Int.toNat)
  rwa [amount_eq encoded.amount] at writable

theorem append_signature_lt {request : UnsignedInvoice} {symbols : List Nat}
    (encoded : request.IsEncoded symbols) (signature : Bytes) :
    ∀ symbol ∈ symbols ++ Symbols.ofBytes signature, symbol < 32 := by
  intro symbol member
  rcases List.mem_append.mp member with body | tail
  · exact encoded.small symbol body
  · exact Symbols.ofBytes_lt signature symbol tail

/-- The text of a request and a signature. -/
def signedText (request : UnsignedInvoice) (symbols : List Nat) (signature : Bytes) : String :=
  String.ofList (Bech32.write .bech32 request.part.toList
    (symbols ++ Symbols.ofBytes signature))

/-- A request that has symbols and a human readable part has a text with every signature of the
right form. -/
theorem sign_eq_ok [Runtime] {request : UnsignedInvoice} {symbols : List Nat}
    (headed : request.humanPart = .ok request.part) (written : request.symbols = .ok symbols)
    {signature : Bytes}
    (sized : signature.length = Signature.length) (recovery : (signature.getD 64 0).toNat ≤ 3) :
    request.sign signature = .ok (request.signedText symbols signature) := by
  have encoded := isEncoded_of_symbols written
  obtain ⟨text, -⟩ := Bech32.decode_encode (isHumanPart encoded)
    (append_signature_lt encoded signature)
  unfold sign
  simp only
  rw [if_neg (not_not.mpr sized), if_neg (Nat.not_lt.mpr recovery), headed, written]
  simp only [bind, Except.bind]
  rw [text]
  rfl

/-- A request without a human readable part has no text. -/
theorem sign_eq_error [Runtime] {request : UnsignedInvoice} {fault : Fault}
    (unheaded : request.humanPart = .error fault) {signature : Bytes}
    (sized : signature.length = Signature.length) (recovery : (signature.getD 64 0).toNat ≤ 3) :
    request.sign signature = .error fault := by
  unfold sign
  simp only
  rw [if_neg (not_not.mpr sized), if_neg (Nat.not_lt.mpr recovery), unheaded]
  rfl

theorem signingDigest_eq [Runtime] {request : UnsignedInvoice} {symbols : List Nat}
    (headed : request.humanPart = .ok request.part) (written : request.symbols = .ok symbols) :
    request.signingDigest = Signature.digest request.part symbols := by
  rw [signingDigest, headed, written]
  rfl

/-- A request that has symbols and a human readable part has a digest, the one of the two. -/
theorem signingDigest_eq_ok [Runtime] {request : UnsignedInvoice} {symbols : List Nat}
    (headed : request.humanPart = .ok request.part) (written : request.symbols = .ok symbols) :
    ∃ digest, request.signingDigest = .ok digest := by
  have encoded := isEncoded_of_symbols written
  obtain ⟨packed, -, hashed⟩ := Signature.digest_eq_ok
    (fun c member => Bech32.toNat_lt_of_isPlain ((isHumanPart encoded).plain c member))
    encoded.small
  exact ⟨Sha256.hash (Signature.lettersOf request.part ++ packed), by
    rw [signingDigest_eq headed written, hashed]⟩

/-! ### Decoding -/

/-- What a signed request is decoded to: the request, the signature and the key that the signer
stands by. -/
structure IsReadAs [Runtime] (request : UnsignedInvoice) (signature key : Bytes)
    (wire : WireInvoice) : Prop where
  humanPart : request.humanPart = .ok wire.humanPart
  network : wire.network = request.network
  amount : wire.amount.map Int.ofNat = request.amount
  timestamp : (wire.timestamp : Int) = request.timestamp
  paymentHash : wire.paymentHash = request.paymentHash
  paymentSecret : wire.paymentSecret = request.paymentSecret
  description : wire.description = request.description
  expiry : wire.expiry.map Int.ofNat = request.expiry
  minFinalCltvDelta : wire.minFinalCltvDelta.map Int.ofNat = request.minFinalCltvDelta
  routeHints : wire.routeHints = request.routeHints.map RouteHint.canonical
  features : (wire.features : Int) = request.features
  namedKey : wire.namedKey = request.payeeKey
  payeeKey : wire.payeeKey = key
  signature : wire.signature = signature
  setAside : wire.setAside = []

/-- What the text of a request, its symbols and a signature is decoded to. -/
def readBack (request : UnsignedInvoice) (symbols : List Nat) (signature key : Bytes) :
    WireInvoice where
  humanPart := request.part
  network := request.network
  amount := request.amount.map Int.toNat
  timestamp := Symbols.toNat (symbols.take WireInvoice.timestampLength)
  paymentHash := request.paymentHash
  paymentSecret := request.paymentSecret
  description := request.description
  expiry := request.expiry.map Int.toNat
  minFinalCltvDelta := request.minFinalCltvDelta.map Int.toNat
  routeHints := request.routeHints.map RouteHint.canonical
  features := request.features.toNat
  namedKey := request.payeeKey
  payeeKey := key
  signature := signature
  setAside := []

/-- Since no number of an encoded request is negative, its numbers come back as they were. -/
theorem isReadAs_readBack [Runtime] {request : UnsignedInvoice} {symbols : List Nat}
    (headed : request.humanPart = .ok request.part) (encoded : request.IsEncoded symbols)
    (signature key : Bytes) :
    request.IsReadAs signature key (request.readBack symbols signature key) where
  humanPart := headed
  network := rfl
  amount := amount_eq encoded.amount
  timestamp := encoded.timestamp
  paymentHash := rfl
  paymentSecret := rfl
  description := rfl
  expiry := map_ofNat_toNat encoded.expiry
  minFinalCltvDelta := map_ofNat_toNat encoded.minFinalCltvDelta
  routeHints := rfl
  features := Int.toNat_of_nonneg encoded.features
  namedKey := rfl
  payeeKey := rfl
  signature := rfl
  setAside := rfl

/-- The reader cuts the fields off where the writer has put them: behind the timestamp and before
the signature. -/
theorem cut_fields {symbols : List Nat} (long : WireInvoice.timestampLength ≤ symbols.length)
    {fields : List Field} (fit : ∀ field ∈ fields, field.Fits)
    (spelled : symbols.drop WireInvoice.timestampLength = fields.flatMap Field.spelling)
    (tail : List Nat) :
    (Cursor.mk (symbols ++ tail) WireInvoice.timestampLength symbols.length).fields =
      (fields, none) := by
  have whole := Cursor.fields_spellings fit (symbols.take WireInvoice.timestampLength) tail
  rwa [← spelled, ← List.append_assoc, List.take_append_drop, List.length_take,
    Nat.min_eq_left long, List.length_drop, Nat.add_sub_cancel' long] at whole

/-- The text of a signed request is decoded to the request if the signer stands by the
signature. -/
theorem decode_signedText [Runtime] {request : UnsignedInvoice} {symbols : List Nat}
    (written : request.symbols = .ok symbols)
    (bounded : ∀ msat ∈ request.amount, msat ≤ Amount.supplyInMsat) {signature : Bytes}
    (sized : signature.length = Signature.length) {digest : Bytes}
    (signed : request.signingDigest = .ok digest) {signer : Signer}
    {key : Bytes} {questions : List Question}
    (endorses : Signature.Endorses signer digest (signature.take 64) (signature.getD 64 0).toNat
      request.payeeKey key questions)
    (isKey : ∀ named ∈ request.payeeKey, signer.isPubkey named = .ok true) (strict : Bool) :
    ∃ wire, (WireInvoice.decode signer strict (request.signedText symbols signature)).outcome =
        .ok wire ∧
      request.IsReadAs signature key wire := by
  have encoded := isEncoded_of_symbols written
  obtain ⟨-, decoded⟩ := Bech32.decode_encode (isHumanPart encoded)
    (append_signature_lt encoded signature)
  have headed := humanPart_of_le encoded.amount bounded
  have hashed : Signature.digest request.part symbols = .ok digest := by
    rwa [signingDigest_eq headed written] at signed
  have tailLength : (Symbols.ofBytes signature).length = Signature.symbolCount := by
    rw [Symbols.length_ofBytes, sized]
    rfl
  have stop : (symbols ++ Symbols.ofBytes signature).length - Signature.symbolCount =
      symbols.length := by
    rw [List.length_append, tailLength, Nat.add_sub_cancel]
  have read : HumanPart.read request.part =
      .ok (request.network, request.amount.map Int.toNat) := by
    have back := HumanPart.read_form request.network (amount_toNat_le bounded)
    rwa [amount_eq encoded.amount] at back
  obtain ⟨fields, fit, spelled, asked, adds⟩ := encoded.fields signer isKey
  obtain ⟨only, described⟩ := Option.isSome_iff_exists.mp encoded.description
  refine ⟨request.readBack symbols signature key, ?_,
    isReadAs_readBack headed encoded signature key⟩
  exact WireInvoice.decode_of_isDecoding (symbols ++ Symbols.ofBytes signature)
    request.contents {
      opened := WireInvoice.openText_eq_ok_iff.mpr ⟨decoded, read, by
        rw [List.length_append, tailLength]
        exact Nat.add_le_add_right encoded.long _⟩
      fields := by
        rw [stop]
        exact WireInvoice.ofSection_of_addsAll (cut_fields encoded.long fit spelled _) adds
      paymentHash := rfl
      paymentSecret := rfl
      description := by
        simp only [contents, readBack, described]
        rfl
      signature := by
        rw [stop, List.drop_left]
        exact WireInvoice.octetsOf_eq_ok_iff.mpr (Symbols.toBytes_ofBytes signature)
      checked := by
        rw [stop, List.take_left]
        exact Signature.check_of_endorses hashed sized endorses
      timestamp := by
        rw [List.take_append_of_le_length encoded.long]
        rfl
      expiry := rfl
      minFinalCltvDelta := rfl
      routeHints := rfl
      features := rfl
      namedKey := rfl
      setAside := rfl }

/-- A request that can be encoded has a text with every signature of the right form, and its text
is decoded to the request again, whoever signs and however strict the reader is: the signer only
has to recover a key and own to it or, where the request names a key, to verify that key. -/
theorem decode_sign [Runtime] {request : UnsignedInvoice} (encodes : request.symbols.isOk = true)
    (bounded : ∀ msat ∈ request.amount, msat ≤ Amount.supplyInMsat) {signature : Bytes}
    (sized : signature.length = Signature.length) (recovery : (signature.getD 64 0).toNat ≤ 3) :
    ∃ text digest, request.sign signature = .ok text ∧ request.signingDigest = .ok digest ∧
      ∀ (signer : Signer) (strict : Bool) (key : Bytes),
        (request.payeeKey = none ∧
            signer.recover digest (signature.take 64) (signature.getD 64 0).toNat = .ok key ∧
            signer.isPubkey key = .ok true) ∨
          (request.payeeKey = some key ∧ signer.isPubkey key = .ok true ∧
            signer.verify key digest (signature.take 64) = .ok true) →
        ∃ wire, (WireInvoice.decode signer strict text).outcome = .ok wire ∧
          request.IsReadAs signature key wire := by
  obtain ⟨symbols, written⟩ := exists_of_isOk encodes
  have headed := humanPart_of_le (isEncoded_of_symbols written).amount bounded
  obtain ⟨digest, signed⟩ := signingDigest_eq_ok headed written
  refine ⟨_, digest, sign_eq_ok headed written sized recovery, signed, ?_⟩
  rintro signer strict key (⟨unnamed, found, isKey⟩ | ⟨named, isKey, verified⟩)
  · have endorses := Signature.Endorses.recovered found isKey
    rw [← unnamed] at endorses
    exact decode_signedText written bounded sized signed endorses (by simp [unnamed]) strict
  · have endorses : Signature.Endorses signer digest (signature.take 64)
        (signature.getD 64 0).toNat (some key) key _ := .named verified
    rw [← named] at endorses
    exact decode_signedText written bounded sized signed endorses (by simpa [named] using isKey)
      strict

/-- A request over a route hint whose node id is in upper case, with an expiry and a time-lock
difference of zero, and with a signer that recovers one and the same key from everything. -/
theorem decode_sign_zeros :
    let hop : RouteHop := {
      nodeId := "0281AB81AB81AB81AB81AB81AB81AB81AB81AB81AB81AB81AB81AB81AB81AB81AB"
      channel := 5
      baseFee := 1000
      proportionalFee := 20
      cltvDelta := 144
      htlcMinimum := .int 1
      htlcMaximum := .null }
    let request : UnsignedInvoice := {
      network := .testnet
      amount := some 250000000
      timestamp := 1496314658
      paymentHash := List.replicate 32 7
      paymentSecret := List.replicate 32 17
      description := some (.plain "1 café")
      expiry := some 0
      minFinalCltvDelta := some 0
      routeHints := [⟨[hop]⟩]
      features := 16640
      payeeKey := none }
    let signature : Bytes := List.replicate 64 9 ++ [1]
    let signer : Signer := ⟨fun _ _ _ => .ok false, fun _ _ _ => .ok [2, 3], fun _ => .ok true⟩
    ∃ text wire, request.sign signature = .ok text ∧
      (WireInvoice.decode signer true text).outcome = .ok wire ∧
      request.IsReadAs signature [2, 3] wire := by
  intro hop request signature signer
  obtain ⟨text, digest, written, -, decodes⟩ := decode_sign
    (show request.symbols.isOk = true by decide +kernel) (by decide)
    (show signature.length = Signature.length by decide) (by decide)
  obtain ⟨wire, decoded, same⟩ := decodes signer true [2, 3] (.inl ⟨rfl, rfl, rfl⟩)
  exact ⟨text, wire, written, decoded, same⟩

end UnsignedInvoice

end Bolt11
