/-
This file proves what the symbols of an encoded request say.

Each part of a request is written as no field, one field or several, and whoever reads these
fields finds the contents changed by just that part. Since pieces one after the other change the
contents one after the other, the whole section says the whole request. The route hints come back
in their canonical form; everything else comes back as it was.
-/

import Bolt11.Invoice.Unsigned
import Bolt11.Proofs.Decoding
import Bolt11.Proofs.RouteHint
import Bolt11.Proofs.Utf8

namespace Bolt11

open WireInvoice (Adds AddsAll Contents)

/-! ### Pieces of a section -/

/-- A piece of a section is made of fields, and whoever reads them finds the contents changed in
the given way. -/
structure Says (signer : Signer) (piece : List Nat) (change : Contents → Contents) : Prop where
  small : ∀ symbol ∈ piece, symbol < 32
  fields : ∃ fields : List Field, (∀ field ∈ fields, field.Fits) ∧
    piece = fields.flatMap Field.spelling ∧
    ∀ contents, ∃ questions, AddsAll signer contents fields (change contents) questions

theorem says_nothing (signer : Signer) : Says signer [] id where
  small := by
    intro symbol member
    cases member
  fields := ⟨[], by simp, rfl, fun _ => ⟨[], .none⟩⟩

/-- Pieces one after the other change the contents one after the other. -/
theorem says_append {signer : Signer} {first second : List Nat}
    {change further : Contents → Contents} (said : Says signer first change)
    (saidNext : Says signer second further) :
    Says signer (first ++ second) (further ∘ change) := by
  obtain ⟨firstSmall, fields, fit, rfl, adds⟩ := said
  obtain ⟨secondSmall, others, othersFit, rfl, addsMore⟩ := saidNext
  refine ⟨?_, fields ++ others, ?_, (List.flatMap_append).symm, ?_⟩
  · intro symbol member
    rcases List.mem_append.mp member with before | after
    · exact firstSmall symbol before
    · exact secondSmall symbol after
  · intro field member
    rcases List.mem_append.mp member with before | after
    · exact fit field before
    · exact othersFit field after
  · intro contents
    obtain ⟨asked, added⟩ := adds contents
    obtain ⟨later, addedMore⟩ := addsMore (change contents)
    exact ⟨asked ++ later, WireInvoice.addsAll_append added addedMore⟩

/-- A written field says what reading it adds. -/
theorem says_write {signer : Signer} {tag : String} {c : Char} (single : tag.toList = [c])
    {payload piece : List Nat} (written : Field.write tag payload = .ok piece)
    (small : ∀ symbol ∈ payload, symbol < 32) {change : Contents → Contents}
    (adds : ∀ contents, ∃ questions,
      Adds signer contents ⟨c, payload⟩ (change contents) questions) :
    Says signer piece change := by
  obtain ⟨fits, rfl⟩ := (Field.write_eq_ok_iff single).mp written
  refine ⟨Field.spelling_lt fits small, [⟨c, payload⟩], by simpa using fits, by simp, ?_⟩
  intro contents
  obtain ⟨asked, added⟩ := adds contents
  exact ⟨asked ++ [], .next added .none⟩

/-- A written byte string says what reading its symbols adds. -/
theorem says_writeBytes {signer : Signer} {tag : String} {c : Char} (single : tag.toList = [c])
    {octets : Bytes} {piece : List Nat} (written : Field.writeBytes tag octets = .ok piece)
    {change : Contents → Contents}
    (adds : ∀ contents, ∃ questions,
      Adds signer contents ⟨c, Symbols.ofBytes octets⟩ (change contents) questions) :
    Says signer piece change :=
  says_write single written (Symbols.ofBytes_lt octets) adds

/-- A written number is not below zero, and says what reading its symbols adds. -/
theorem says_writeInt [Runtime] {signer : Signer} {tag : String} {c : Char}
    (single : tag.toList = [c]) {value : Int} {piece : List Nat}
    (written : Field.writeInt tag value = .ok piece)
    {change : Contents → Contents}
    (adds : ∀ contents, ∃ questions,
      Adds signer contents ⟨c, Symbols.ofNat value.toNat⟩ (change contents) questions) :
    0 ≤ value ∧ Says signer piece change := by
  unfold Field.writeInt at written
  split at written
  · cases written
  rename_i made
  obtain ⟨natural, rfl⟩ := Symbols.ofInt_eq_ok_iff.mp made
  exact ⟨natural, says_write single written (Symbols.ofNat_lt _) adds⟩

/-! ### The parts of a request -/

namespace UnsignedInvoice

variable (signer : Signer) {piece : List Nat}

/-- A byte string of thirty-two octets takes fifty-two symbols. -/
theorem length_ofBytes_of_sized {octets : Bytes} (sized : octets.length = 32) :
    (Symbols.ofBytes octets).length = 52 := by
  rw [Symbols.length_ofBytes, sized]

theorem firstOctets_ofBytes (current : Option Bytes) (octets : Bytes) :
    WireInvoice.firstOctets current (Symbols.ofBytes octets) =
      .ok (current.or (some octets)) := by
  cases current with
  | some earlier => rfl
  | none =>
    rw [WireInvoice.firstOctets,
      WireInvoice.octetsOf_eq_ok_iff.mpr (Symbols.toBytes_ofBytes octets)]
    rfl

theorem says_paymentHash {octets : Bytes} (sized : octets.length = 32)
    (written : Field.writeBytes "p" octets = .ok piece) :
    Says signer piece fun contents =>
      { contents with paymentHash := contents.paymentHash.or (some octets) } :=
  says_writeBytes rfl written fun _ =>
    ⟨[], .paymentHash (length_ofBytes_of_sized sized) (firstOctets_ofBytes _ octets)⟩

theorem says_paymentSecret {octets : Bytes} (sized : octets.length = 32)
    (written : Field.writeBytes "s" octets = .ok piece) :
    Says signer piece fun contents =>
      { contents with paymentSecret := contents.paymentSecret.or (some octets) } :=
  says_writeBytes rfl written fun _ =>
    ⟨[], .paymentSecret (length_ofBytes_of_sized sized) (firstOctets_ofBytes _ octets)⟩

/-- A description that is written is there, and is said. -/
theorem says_description {description : Option Description}
    (written : descriptionField description = .ok piece) :
    ∃ only, description = some only ∧
      Says signer piece fun contents =>
        { contents with descriptions := contents.descriptions ++ [only] } := by
  unfold descriptionField at written
  split at written
  · rename_i text
    simp only at written
    split at written
    · refine ⟨.plain text, rfl, says_writeBytes rfl written fun contents => ⟨[], .plain ?_⟩⟩
      rw [WireInvoice.plainOf,
        WireInvoice.octetsOf_eq_ok_iff.mpr (Symbols.toBytes_ofBytes _)]
      simp only [Text.Utf8.decode_encode]
    · cases written
  · rename_i digest
    refine ⟨.hashed digest, rfl, says_writeBytes rfl written fun contents =>
      ⟨[], .hashed (length_ofBytes_of_sized digest.sized) ?_⟩⟩
    rw [WireInvoice.hashedOf, WireInvoice.octetsOf_eq_ok_iff.mpr (Symbols.toBytes_ofBytes _)]
    simp only [Description.ofDigest, digest.sized, dif_pos]
  · cases written
  · cases written

theorem says_payeeKey {key : Option Bytes} (isKey : ∀ named ∈ key, signer.isPubkey named = .ok true)
    (written : payeeKeyField key = .ok piece) :
    Says signer piece fun contents =>
      { contents with namedKey := contents.namedKey.or key } := by
  cases key with
  | none =>
    obtain rfl := Except.ok.inj written
    have same : (fun contents : Contents =>
        { contents with namedKey := contents.namedKey.or none }) = id := by
      funext contents
      rw [Option.or_none]
      rfl
    rw [same]
    exact says_nothing signer
  | some named =>
    unfold payeeKeyField at written
    simp only at written
    split at written
    · rename_i sized
      refine says_writeBytes rfl written fun contents => ⟨[.isPubkey named], .payeeKey ?_
        (WireInvoice.octetsOf_eq_ok_iff.mpr (Symbols.toBytes_ofBytes named)) (isKey named rfl)⟩
      rw [Symbols.length_ofBytes, sized]
      rfl
    · cases written

/-- A number that may be absent, written in a field of its own. -/
theorem says_number [Runtime] {tag : String} {c : Char} (single : tag.toList = [c])
    {number : Option Int} (written : numberField tag number = .ok piece)
    (change : Option Nat → Contents → Contents)
    (unchanged : ∀ contents, change none contents = contents)
    (adds : ∀ value contents, ∃ questions, Adds signer contents ⟨c, Symbols.ofNat value⟩
      (change (some value) contents) questions) :
    (∀ value ∈ number, 0 ≤ value) ∧ Says signer piece (change (number.map Int.toNat)) := by
  cases number with
  | none =>
    obtain rfl := Except.ok.inj written
    have same : change none = id := funext unchanged
    rw [Option.map_none, same]
    exact ⟨by simp, says_nothing signer⟩
  | some value =>
    obtain ⟨natural, said⟩ : 0 ≤ value ∧ Says signer piece (change (some value.toNat)) :=
      says_writeInt single written (adds value.toNat)
    exact ⟨by simpa using natural, said⟩

theorem firstNumber_ofNat (current : Option Nat) (value : Nat) :
    WireInvoice.firstNumber current (Symbols.ofNat value) = current.or (some value) := by
  rw [WireInvoice.firstNumber, Symbols.toNat_ofNat]

theorem says_expiry [Runtime] {number : Option Int} (written : numberField "x" number = .ok piece) :
    (∀ value ∈ number, 0 ≤ value) ∧
      Says signer piece fun contents =>
        { contents with expiry := contents.expiry.or (number.map Int.toNat) } :=
  says_number signer rfl written
    (fun number contents => { contents with expiry := contents.expiry.or number })
    (fun contents => by rw [Option.or_none])
    fun value contents => ⟨[], firstNumber_ofNat contents.expiry value ▸ .expiry⟩

theorem says_cltvDelta [Runtime] {number : Option Int}
    (written : numberField "c" number = .ok piece) :
    (∀ value ∈ number, 0 ≤ value) ∧
      Says signer piece fun contents =>
        { contents with
          minFinalCltvDelta := contents.minFinalCltvDelta.or (number.map Int.toNat) } :=
  says_number signer rfl written
    (fun number contents =>
      { contents with minFinalCltvDelta := contents.minFinalCltvDelta.or number })
    (fun contents => by rw [Option.or_none])
    fun value contents => ⟨[], firstNumber_ofNat contents.minFinalCltvDelta value ▸ .cltvDelta⟩

/-! ### Route hints and features -/

theorem says_route {hint : RouteHint} (written : routeField hint = .ok piece) :
    Says signer piece fun contents =>
      { contents with routeHints := contents.routeHints ++ [hint.canonical] } := by
  unfold routeField at written
  split at written
  · cases written
  rename_i hasHops
  split at written
  · cases written
  rename_i octets made
  obtain ⟨sized, read⟩ := RouteHint.ofBytes_toBytes made
  refine says_writeBytes rfl written fun contents => ⟨[], .route ?_⟩
  have some_hops : hint.hops.length ≠ 0 := by simpa using hasHops
  have whole : ¬ (octets.isEmpty ∨ octets.length % RouteHop.wireLength ≠ 0) := by
    rw [List.isEmpty_iff_length_eq_zero, sized, Nat.mul_mod_right, RouteHop.wireLength]
    omega
  rw [WireInvoice.routeOf, WireInvoice.octetsOf_eq_ok_iff.mpr (Symbols.toBytes_ofBytes octets)]
  simp only
  rw [if_neg whole, read]

theorem says_routes {hints : List RouteHint} {pieces : List (List Nat)}
    (written : hints.mapM routeField = .ok pieces) :
    Says signer pieces.flatten fun contents =>
      { contents with routeHints := contents.routeHints ++ hints.map RouteHint.canonical } := by
  induction hints generalizing pieces with
  | nil =>
    obtain rfl := mapM_nil_eq_ok_iff.mp written
    have same : (fun contents : Contents =>
        { contents with
          routeHints := contents.routeHints ++ [].map RouteHint.canonical }) = id := by
      funext contents
      rw [List.map_nil, List.append_nil]
      rfl
    rw [same]
    exact says_nothing signer
  | cons hint rest inductionHypothesis =>
    obtain ⟨piece, pieces, pieceMade, piecesMade, rfl⟩ := mapM_cons_eq_ok_iff.mp written
    have both := says_append (says_route signer pieceMade) (inductionHypothesis piecesMade)
    simpa only [Function.comp_def, List.append_assoc, List.flatten_cons, List.map_cons,
      List.singleton_append] using both

theorem says_features [Runtime] {features : Int} (written : featuresField features = .ok piece) :
    0 ≤ features ∧ Says signer piece fun contents =>
      { contents with
        features := if features = 0 then contents.features else features.toNat } := by
  unfold featuresField at written
  split at written
  · rename_i none_set
    obtain rfl := Except.ok.inj written
    simp only [none_set, if_true]
    exact ⟨Int.le_refl 0, says_nothing signer⟩
  · rename_i some_set
    simp only [if_neg some_set]
    refine says_writeInt rfl written fun contents => ⟨[], ?_⟩
    have read : Adds signer contents ⟨'9', Symbols.ofNat features.toNat⟩
        { contents with features := Symbols.toNat (Symbols.ofNat features.toNat) } [] := .features
    rwa [Symbols.toNat_ofNat] at read

/-! ### The whole section -/

/-- The pieces that the symbols of a request are put together from. -/
structure Pieces where
  timestamp : List Nat
  paymentHash : List Nat
  paymentSecret : List Nat
  description : List Nat
  payeeKey : List Nat
  expiry : List Nat
  minFinalCltvDelta : List Nat
  routeHints : List (List Nat)
  features : List Nat

/-- The pieces behind the timestamp, in the order of the writer. -/
def Pieces.fields (pieces : Pieces) : List Nat :=
  pieces.paymentHash ++ pieces.paymentSecret ++ pieces.description ++ pieces.payeeKey ++
    pieces.expiry ++ pieces.minFinalCltvDelta ++ pieces.routeHints.flatten ++ pieces.features

/-- Every check of a request has gone well, and each of its parts is written as the piece named
after it. -/
structure IsWrittenAs [Runtime] (request : UnsignedInvoice) (pieces : Pieces) : Prop where
  amount : checkAmount request.amount = .ok ()
  hashSized : request.paymentHash.length = 32
  secretSized : request.paymentSecret.length = 32
  timestamp : Symbols.ofIntFixed 35 request.timestamp = .ok pieces.timestamp
  paymentHash : Field.writeBytes "p" request.paymentHash = .ok pieces.paymentHash
  paymentSecret : Field.writeBytes "s" request.paymentSecret = .ok pieces.paymentSecret
  description : descriptionField request.description = .ok pieces.description
  payeeKey : payeeKeyField request.payeeKey = .ok pieces.payeeKey
  expiry : numberField "x" request.expiry = .ok pieces.expiry
  minFinalCltvDelta : numberField "c" request.minFinalCltvDelta = .ok pieces.minFinalCltvDelta
  routeHints : request.routeHints.mapM routeField = .ok pieces.routeHints
  features : featuresField request.features = .ok pieces.features

theorem ensure_eq_ok_iff {condition : Bool} {cause : Unencodable} :
    ensure condition cause = .ok () ↔ condition = true := by
  cases condition <;> simp [ensure]

theorem checkAmount_eq_ok_iff [Runtime] {amount : Option Int} :
    checkAmount amount = .ok () ↔ ∀ msat ∈ amount, 0 < msat := by
  cases amount with
  | none => simp [checkAmount]
  | some msat => simp [checkAmount]

/-- The symbols of a request are the timestamp and the fields of its pieces, if each part has
one. -/
theorem symbols_eq_ok_iff [Runtime] {request : UnsignedInvoice} {symbols : List Nat} :
    request.symbols = .ok symbols ↔
      ∃ pieces, request.IsWrittenAs pieces ∧ symbols = pieces.timestamp ++ pieces.fields := by
  unfold UnsignedInvoice.symbols
  constructor
  · intro written
    obtain ⟨_, amount, written⟩ := bind_eq_ok_iff.mp written
    obtain ⟨_, hashChecked, written⟩ := bind_eq_ok_iff.mp written
    obtain ⟨_, secretChecked, written⟩ := bind_eq_ok_iff.mp written
    obtain ⟨first, timestamp, written⟩ := bind_eq_ok_iff.mp written
    obtain ⟨hash, paymentHash, written⟩ := bind_eq_ok_iff.mp written
    obtain ⟨secret, paymentSecret, written⟩ := bind_eq_ok_iff.mp written
    obtain ⟨only, description, written⟩ := bind_eq_ok_iff.mp written
    obtain ⟨key, payeeKey, written⟩ := bind_eq_ok_iff.mp written
    obtain ⟨seconds, expiry, written⟩ := bind_eq_ok_iff.mp written
    obtain ⟨blocks, minFinalCltvDelta, written⟩ := bind_eq_ok_iff.mp written
    obtain ⟨routes, routeHints, written⟩ := bind_eq_ok_iff.mp written
    obtain ⟨flags, features, written⟩ := bind_eq_ok_iff.mp written
    have hashSized := beq_iff_eq.mp (ensure_eq_ok_iff.mp hashChecked)
    have secretSized := beq_iff_eq.mp (ensure_eq_ok_iff.mp secretChecked)
    refine ⟨⟨first, hash, secret, only, key, seconds, blocks, routes, flags⟩,
      ⟨amount, hashSized, secretSized, timestamp, paymentHash, paymentSecret, description, payeeKey,
        expiry, minFinalCltvDelta, routeHints, features⟩, ?_⟩
    rw [← Except.ok.inj written]
    simp only [Pieces.fields, List.append_assoc]
  · rintro ⟨pieces, parts, rfl⟩
    refine bind_eq_ok_iff.mpr ⟨(), parts.amount, ?_⟩
    refine bind_eq_ok_iff.mpr ⟨(), ensure_eq_ok_iff.mpr (beq_iff_eq.mpr parts.hashSized), ?_⟩
    refine bind_eq_ok_iff.mpr ⟨(), ensure_eq_ok_iff.mpr (beq_iff_eq.mpr parts.secretSized), ?_⟩
    refine bind_eq_ok_iff.mpr ⟨_, parts.timestamp, ?_⟩
    refine bind_eq_ok_iff.mpr ⟨_, parts.paymentHash, ?_⟩
    refine bind_eq_ok_iff.mpr ⟨_, parts.paymentSecret, ?_⟩
    refine bind_eq_ok_iff.mpr ⟨_, parts.description, ?_⟩
    refine bind_eq_ok_iff.mpr ⟨_, parts.payeeKey, ?_⟩
    refine bind_eq_ok_iff.mpr ⟨_, parts.expiry, ?_⟩
    refine bind_eq_ok_iff.mpr ⟨_, parts.minFinalCltvDelta, ?_⟩
    refine bind_eq_ok_iff.mpr ⟨_, parts.routeHints, ?_⟩
    refine bind_eq_ok_iff.mpr ⟨_, parts.features, ?_⟩
    simp only [Pieces.fields, List.append_assoc]
    rfl

/-- What the fields of a request say. -/
def contents (request : UnsignedInvoice) : Contents where
  paymentHash := some request.paymentHash
  paymentSecret := some request.paymentSecret
  descriptions := request.description.toList
  expiry := request.expiry.map Int.toNat
  minFinalCltvDelta := request.minFinalCltvDelta.map Int.toNat
  routeHints := request.routeHints.map RouteHint.canonical
  features := request.features.toNat
  namedKey := request.payeeKey
  setAside := []

/-- The fields of a request, read from the start, say the whole request. -/
theorem says_fields [Runtime] {request : UnsignedInvoice} {pieces : Pieces}
    (written : request.IsWrittenAs pieces)
    (isKey : ∀ named ∈ request.payeeKey, signer.isPubkey named = .ok true) :
    ∃ change, Says signer pieces.fields change ∧ change .empty = request.contents := by
  obtain ⟨only, described, saysDescription⟩ := says_description signer written.description
  have saysHash := says_paymentHash signer written.hashSized written.paymentHash
  have saysSecret := says_paymentSecret signer written.secretSized written.paymentSecret
  have saysKey := says_payeeKey signer isKey written.payeeKey
  have saysExpiry := (says_expiry signer written.expiry).2
  have saysDelta := (says_cltvDelta signer written.minFinalCltvDelta).2
  have saysRoutes := says_routes signer written.routeHints
  have saysFeatures := (says_features signer written.features).2
  have flags : (if request.features = 0 then 0 else request.features.toNat) =
      request.features.toNat := by
    by_cases unset : request.features = 0
    · rw [if_pos unset, unset]
      rfl
    · rw [if_neg unset]
  refine ⟨_, says_append (says_append (says_append (says_append (says_append (says_append
    (says_append saysHash saysSecret) saysDescription) saysKey) saysExpiry) saysDelta)
    saysRoutes) saysFeatures, ?_⟩
  simp only [Function.comp_apply, Contents.empty, contents, described, Option.none_or,
    List.nil_append, Option.toList_some, flags]

end UnsignedInvoice

end Bolt11
