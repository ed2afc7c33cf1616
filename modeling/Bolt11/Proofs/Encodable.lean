/-
This file proves exactly which requests can be encoded.

Every part of a request is written by itself, and whether it can be written depends on nothing but
its own range: thirty-five bits for the timestamp, as many symbols as the length of a field can say
for everything else. A route hint has no limit of its own; with more than twelve hops its field
would be too long. All parts have to be in range, and then there are symbols.
-/

import Bolt11.Proofs.Encoding

namespace Bolt11

/-! ### Fields -/

namespace Field

variable {tag : String} {c : Char} (single : tag.toList = [c]) (known : (Bech32.symbol? c).isSome)

include single known

theorem exists_write_iff {payload : List Nat} :
    (∃ symbols, write tag payload = .ok symbols) ↔ payload.length ≤ maxLength := by
  simp only [write_eq_ok_iff single]
  constructor
  · rintro ⟨symbols, fits, -⟩
    exact Nat.le_of_lt_succ fits.short
  · intro short
    exact ⟨_, ⟨known, Nat.lt_succ_of_le short⟩, rfl⟩

/-- The symbols of six hundred and thirty-nine octets are the most that a field has room for. -/
theorem exists_writeBytes_iff {octets : Bytes} :
    (∃ symbols, writeBytes tag octets = .ok symbols) ↔ octets.length ≤ 639 := by
  unfold writeBytes
  rw [exists_write_iff single known, Symbols.length_ofBytes, maxLength]
  omega

theorem exists_writeInt_iff [Runtime] {value : Int} :
    (∃ symbols, writeInt tag value = .ok symbols) ↔ 0 ≤ value ∧ value < 32 ^ maxLength := by
  by_cases negative : value < 0
  · rw [writeInt, Symbols.ofInt, if_pos negative]
    refine iff_of_false ?_ fun range => absurd range.1 (Int.not_le.mpr negative)
    rintro ⟨symbols, made⟩
    cases made
  · obtain ⟨number, rfl⟩ := Int.eq_ofNat_of_zero_le (Int.not_lt.mp negative)
    rw [writeInt, Symbols.ofInt, if_neg negative, Int.toNat_natCast]
    simp only
    rw [exists_write_iff single known, Symbols.length_ofNat_le_iff, ← Int.ofNat_lt]
    simp only [Nat.cast_pow, Nat.cast_ofNat]
    exact (and_iff_right (Int.natCast_nonneg number)).symm

end Field

/-! ### Parts of a request -/

/-- Whether a description can be written: a text of limited length or a hash. -/
def Description.IsEncodable : Description → Prop
  | plain text => (Text.Utf8.encode text).length ≤ UnsignedInvoice.maxDescriptionLength
  | hashed _ => True
  | unread _ => False

/-- Whether a route hint can be written: it has one to twelve hops, and each has a wire form. -/
structure RouteHint.Fits (hint : RouteHint) : Prop where
  nonempty : 1 ≤ hint.hops.length
  short : hint.hops.length ≤ 12
  hops : ∀ hop ∈ hint.hops, hop.Fits

namespace UnsignedInvoice

theorem exists_descriptionField_iff {description : Option Description} :
    (∃ piece, descriptionField description = .ok piece) ↔
      ∃ only, description = some only ∧ only.IsEncodable := by
  cases description with
  | none => simp [descriptionField]
  | some only =>
    simp only [Option.some.injEq, exists_eq_left']
    cases only with
    | plain text =>
      simp only [descriptionField, Description.IsEncodable]
      by_cases short : (Text.Utf8.encode text).length ≤ maxDescriptionLength
      · rw [if_pos short]
        exact Field.exists_writeBytes_iff (c := 'd') rfl rfl
      · rw [if_neg short]
        refine iff_of_false ?_ short
        rintro ⟨piece, made⟩
        cases made
    | hashed digest =>
      refine iff_of_true ((Field.exists_writeBytes_iff (c := 'h') rfl rfl).mpr ?_) trivial
      rw [digest.sized]
      decide
    | unread value =>
      refine iff_of_false ?_ id
      rintro ⟨piece, made⟩
      cases made

theorem exists_payeeKeyField_iff {key : Option Bytes} :
    (∃ piece, payeeKeyField key = .ok piece) ↔
      ∀ named ∈ key, named.length = Signature.keyLength := by
  cases key with
  | none => simp [payeeKeyField]
  | some named =>
    simp only [Option.mem_def, Option.some.injEq, forall_eq']
    by_cases sized : named.length = Signature.keyLength
    · rw [payeeKeyField, if_pos sized]
      refine iff_of_true ((Field.exists_writeBytes_iff (c := 'n') rfl rfl).mpr ?_) sized
      rw [sized]
      decide
    · rw [payeeKeyField, if_neg sized]
      refine iff_of_false ?_ sized
      rintro ⟨piece, made⟩
      cases made

theorem exists_numberField_iff [Runtime] {tag : String} {c : Char} (single : tag.toList = [c])
    (known : (Bech32.symbol? c).isSome) {number : Option Int} :
    (∃ piece, numberField tag number = .ok piece) ↔
      ∀ value ∈ number, 0 ≤ value ∧ value < 32 ^ Field.maxLength := by
  cases number with
  | none => simp [numberField]
  | some value =>
    simp only [Option.mem_def, Option.some.injEq, forall_eq']
    exact Field.exists_writeInt_iff single known

theorem exists_featuresField_iff [Runtime] {features : Int} :
    (∃ piece, featuresField features = .ok piece) ↔
      0 ≤ features ∧ features < 32 ^ Field.maxLength := by
  unfold featuresField
  by_cases unset : features = 0
  · rw [if_pos unset, unset]
    exact iff_of_true ⟨[], rfl⟩ ⟨Int.le_refl 0, pow_pos (by decide) _⟩
  · rw [if_neg unset]
    exact Field.exists_writeInt_iff (c := '9') rfl rfl

/-- Twelve hops are six hundred and twelve octets, and one more does not fit into a field. -/
theorem exists_routeField_iff {hint : RouteHint} :
    (∃ piece, routeField hint = .ok piece) ↔ hint.Fits := by
  unfold routeField
  by_cases empty : hint.hops.isEmpty
  · rw [if_pos empty]
    refine iff_of_false ?_ fun fits => ?_
    · rintro ⟨piece, made⟩
      cases made
    · have some_hops := fits.nonempty
      rw [List.isEmpty_iff.mp empty] at some_hops
      exact absurd some_hops (by decide)
  rw [if_neg empty]
  have some_hops : 1 ≤ hint.hops.length :=
    List.length_pos_of_ne_nil fun none_there => empty (List.isEmpty_iff.mpr none_there)
  cases written : hint.toBytes with
  | error fault =>
    refine iff_of_false ?_ fun fits => ?_
    · rintro ⟨piece, made⟩
      cases made
    · obtain ⟨octets, writtenToo⟩ := RouteHint.exists_toBytes_iff.mpr fits.hops
      rw [written] at writtenToo
      cases writtenToo
  | ok octets =>
    have sized := (RouteHint.ofBytes_toBytes written).1
    simp only
    rw [Field.exists_writeBytes_iff (c := 'r') rfl rfl, sized, RouteHop.wireLength]
    constructor
    · intro short
      exact ⟨some_hops, by omega, RouteHint.exists_toBytes_iff.mp ⟨octets, written⟩⟩
    · intro fits
      have := fits.short
      omega

/-! ### Requests -/

/-- Whether a request can be encoded: all its parts are in range. -/
structure IsEncodable (request : UnsignedInvoice) : Prop where
  amount : ∀ msat ∈ request.amount, 0 < msat
  timestamp : 0 ≤ request.timestamp ∧ request.timestamp < 2 ^ 35
  paymentHash : request.paymentHash.length = 32
  paymentSecret : request.paymentSecret.length = 32
  description : ∃ only, request.description = some only ∧ only.IsEncodable
  payeeKey : ∀ named ∈ request.payeeKey, named.length = Signature.keyLength
  expiry : ∀ seconds ∈ request.expiry, 0 ≤ seconds ∧ seconds < 32 ^ Field.maxLength
  minFinalCltvDelta :
    ∀ blocks ∈ request.minFinalCltvDelta, 0 ≤ blocks ∧ blocks < 32 ^ Field.maxLength
  routeHints : ∀ hint ∈ request.routeHints, hint.Fits
  features : 0 ≤ request.features ∧ request.features < 32 ^ Field.maxLength

/-- A request has symbols exactly if it can be encoded. -/
theorem exists_symbols_iff [Runtime] {request : UnsignedInvoice} :
    (∃ symbols, request.symbols = .ok symbols) ↔ request.IsEncodable := by
  constructor
  · rintro ⟨symbols, written⟩
    obtain ⟨pieces, parts, -⟩ := symbols_eq_ok_iff.mp written
    exact {
      amount := checkAmount_eq_ok_iff.mp parts.amount
      timestamp := (Symbols.exists_ofIntFixed_iff 7).mp ⟨_, parts.timestamp⟩
      paymentHash := parts.hashSized
      paymentSecret := parts.secretSized
      description := exists_descriptionField_iff.mp ⟨_, parts.description⟩
      payeeKey := exists_payeeKeyField_iff.mp ⟨_, parts.payeeKey⟩
      expiry := (exists_numberField_iff (c := 'x') rfl rfl).mp ⟨_, parts.expiry⟩
      minFinalCltvDelta :=
        (exists_numberField_iff (c := 'c') rfl rfl).mp ⟨_, parts.minFinalCltvDelta⟩
      routeHints := fun hint member => exists_routeField_iff.mp
        (exists_mapM_iff.mp ⟨_, parts.routeHints⟩ hint member)
      features := exists_featuresField_iff.mp ⟨_, parts.features⟩ }
  · intro encodable
    have short {octets : Bytes} (sized : octets.length = 32) : octets.length ≤ 639 := by
      rw [sized]
      decide
    obtain ⟨timestamp, timestampMade⟩ :=
      (Symbols.exists_ofIntFixed_iff 7).mpr encodable.timestamp
    obtain ⟨paymentHash, hashMade⟩ :=
      (Field.exists_writeBytes_iff (show "p".toList = ['p'] from rfl) rfl).mpr
        (short encodable.paymentHash)
    obtain ⟨paymentSecret, secretMade⟩ :=
      (Field.exists_writeBytes_iff (show "s".toList = ['s'] from rfl) rfl).mpr
        (short encodable.paymentSecret)
    obtain ⟨description, descriptionMade⟩ :=
      exists_descriptionField_iff.mpr encodable.description
    obtain ⟨payeeKey, payeeKeyMade⟩ := exists_payeeKeyField_iff.mpr encodable.payeeKey
    obtain ⟨expiry, expiryMade⟩ :=
      (exists_numberField_iff (show "x".toList = ['x'] from rfl) rfl).mpr encodable.expiry
    obtain ⟨cltvDelta, cltvDeltaMade⟩ :=
      (exists_numberField_iff (show "c".toList = ['c'] from rfl) rfl).mpr
        encodable.minFinalCltvDelta
    obtain ⟨routeHints, routeHintsMade⟩ := exists_mapM_iff.mpr fun hint member =>
      exists_routeField_iff.mpr (encodable.routeHints hint member)
    obtain ⟨features, featuresMade⟩ := exists_featuresField_iff.mpr encodable.features
    exact ⟨_, symbols_eq_ok_iff.mpr ⟨⟨timestamp, paymentHash, paymentSecret, description, payeeKey,
      expiry, cltvDelta, routeHints, features⟩,
      ⟨checkAmount_eq_ok_iff.mpr encodable.amount, encodable.paymentHash, encodable.paymentSecret,
        timestampMade, hashMade, secretMade, descriptionMade, payeeKeyMade, expiryMade,
        cltvDeltaMade, routeHintsMade, featuresMade⟩, rfl⟩⟩

end UnsignedInvoice

end Bolt11
