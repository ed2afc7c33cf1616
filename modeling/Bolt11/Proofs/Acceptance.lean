/-
This file proves exactly which requests are accepted.

The reader goes through the fields one by one, and whether it gets past a field depends on what the
field holds and, for a payment hash and a payment secret, on whether there was one before. So each
field can be judged by itself but for the first hash and the first secret, and the reader gets to
the end of a section exactly if every field passes. What is left then are the signature and the
key that the request names, which is the first one. A field that is not judged by its payload can
be put anywhere in a section, or taken out of it, and the verdict is the same.
-/

import Bolt11.Proofs.Meaning

namespace Bolt11

open Bolt11.Field (Role ofRole)

/-! ### Readable fields -/

namespace Field

/-- Whether a field can be read wherever it stands. A route hint has to be whole hops, a description
has to be a text or a hash, and a payee key has to be a key; numbers and fields of no known type
are never refused, and a payment hash or secret is refused at most for being the first. -/
def IsReadable (signer : Signer) (field : Field) : Prop :=
  match field.role with
  | .route => ∃ octets, field.Holds octets ∧ octets ≠ [] ∧ RouteHop.wireLength ∣ octets.length
  | .description =>
    if field.tag = 'd' then ∃ text, field.Holds (Text.Utf8.encode text)
    else ∃ octets, field.Holds octets
  | .payeeKey => ∃ key, field.Names signer key
  | _ => True

end Field

namespace WireInvoice

/-- Whether the fields of a section are accepted: each can be read, there are a payment hash and a
payment secret, and the first of each can be read too. -/
structure AreAcceptable (signer : Signer) (fields : List Field) : Prop where
  each : ∀ field ∈ fields, field.IsReadable signer
  paymentHash : ∃ field ∈ (ofRole .paymentHash fields).head?, ∃ octets, field.Holds octets
  paymentSecret : ∃ field ∈ (ofRole .paymentSecret fields).head?, ∃ octets, field.Holds octets

variable {signer : Signer}

/-! ### Readable fields are read -/

theorem exists_firstOctets {payload : List Nat} (small : ∀ symbol ∈ payload, symbol < 32)
    {before : Option Bytes}
    (readable : before = none → ∃ octets, Symbols.StandFor payload octets) :
    ∃ after, firstOctets before payload = .ok after := by
  cases before with
  | some octets => exact ⟨some octets, rfl⟩
  | none =>
    obtain ⟨octets, stands⟩ := readable rfl
    refine ⟨some octets, ?_⟩
    rw [firstOctets, (octetsOf_eq_ok_iff_standFor small).mpr stands]
    rfl

/-- The reader gets past a field that can be read. -/
theorem exists_adds {contents : Contents} {field : Field}
    (small : ∀ symbol ∈ field.payload, symbol < 32) (readable : field.IsReadable signer)
    (hash : field.role = .paymentHash → contents.paymentHash = none →
      ∃ octets, field.Holds octets)
    (secret : field.role = .paymentSecret → contents.paymentSecret = none →
      ∃ octets, field.Holds octets) :
    ∃ after asked, Adds signer contents field after asked := by
  cases known : field.isKnown with
  | false => exact ⟨_, _, .setAside known⟩
  | true =>
    obtain ⟨tag, payload⟩ := field
    unfold Field.isKnown at known
    unfold Field.IsReadable at readable
    split at known
    case h_1 same =>
      obtain rfl : tag = 'r' := same
      obtain ⟨octets, stands, nonempty, whole⟩ := readable
      obtain ⟨hint, isHint⟩ := RouteHint.exists_toBytes_eq_iff.mpr whole
      exact ⟨_, _, .route ((routeOf_eq_ok_iff small).mpr ⟨octets, stands, nonempty, isHint⟩)⟩
    case h_2 same =>
      obtain rfl : tag = 'd' := same
      obtain ⟨text, stands⟩ := readable
      exact ⟨_, _, .plain ((plainOf_eq_ok_iff small).mpr ⟨text, stands, rfl⟩)⟩
    case h_3 same =>
      obtain rfl : tag = 'x' := same
      exact ⟨_, _, .expiry⟩
    case h_4 same =>
      obtain rfl : tag = 'c' := same
      exact ⟨_, _, .cltvDelta⟩
    case h_5 same =>
      obtain rfl : tag = '9' := same
      exact ⟨_, _, .features⟩
    case h_6 same =>
      obtain rfl : tag = 'h' := same
      have sized := beq_iff_eq.mp known
      have isDescription : Field.role ⟨'h', payload⟩ = .description := if_pos sized
      rw [isDescription] at readable
      obtain ⟨octets, stands⟩ := readable
      have digestSized : octets.length = 32 := by
        rw [Symbols.length_of_standFor stands, sized]
      exact ⟨_, _, .hashed sized
        ((hashedOf_eq_ok_iff small).mpr ⟨⟨octets, digestSized⟩, stands, rfl⟩)⟩
    case h_7 same =>
      obtain rfl : tag = 'p' := same
      have sized := beq_iff_eq.mp known
      obtain ⟨after, read⟩ := exists_firstOctets small (hash (if_pos sized))
      exact ⟨_, _, .paymentHash sized read⟩
    case h_8 same =>
      obtain rfl : tag = 's' := same
      have sized := beq_iff_eq.mp known
      obtain ⟨after, read⟩ := exists_firstOctets small (secret (if_pos sized))
      exact ⟨_, _, .paymentSecret sized read⟩
    case h_9 same =>
      obtain rfl : tag = 'n' := same
      have sized := beq_iff_eq.mp known
      have isPayeeKey : Field.role ⟨'n', payload⟩ = .payeeKey := if_pos sized
      rw [isPayeeKey] at readable
      obtain ⟨key, stands, isKey⟩ := readable
      exact ⟨_, _, .payeeKey sized ((octetsOf_eq_ok_iff_standFor small).mpr stands) isKey⟩
    case h_10 => cases known

/-- Whether the first of some fields can be read, unless what it says is known before. -/
def FirstHolds (fields : List Field) (before : Option Bytes) : Prop :=
  before = none → ∀ field ∈ fields.head?, ∃ octets, field.Holds octets

/-- If nothing is known behind some fields, there were none. -/
theorem firstHolds_of_append {fields others : List Field} {before between : Option Bytes}
    (holds : FirstHolds (fields ++ others) before)
    (counts : FirstCounts Field.Holds fields before between) : FirstHolds others between := by
  rintro rfl
  cases before with
  | some octets => cases counts
  | none =>
    cases fields with
    | nil => exact holds rfl
    | cons field rest => cases counts

/-- The reader gets to the end of fields that can be read. -/
theorem exists_addsAll {contents : Contents} {fields : List Field}
    (small : ∀ field ∈ fields, ∀ symbol ∈ field.payload, symbol < 32)
    (each : ∀ field ∈ fields, field.IsReadable signer)
    (hash : FirstHolds (ofRole .paymentHash fields) contents.paymentHash)
    (secret : FirstHolds (ofRole .paymentSecret fields) contents.paymentSecret) :
    ∃ after asked, AddsAll signer contents fields after asked := by
  -- over any contents: whether a hash or a secret has to be read depends on the fields before it
  induction fields generalizing contents with
  | nil => exact ⟨contents, [], .none⟩
  | cons field rest inductionHypothesis =>
    rw [← List.singleton_append, Field.ofRole_append] at hash secret
    have fieldSmall := small field List.mem_cons_self
    obtain ⟨between, asked, first⟩ := exists_adds fieldSmall (each field List.mem_cons_self)
      (fun isHash unknown => hash unknown field (by simp [isHash]))
      (fun isSecret unknown => secret unknown field (by simp [isSecret]))
    obtain ⟨after, later, others⟩ := inductionHypothesis
      (fun other member => small other (List.mem_cons_of_mem field member))
      (fun other member => each other (List.mem_cons_of_mem field member))
      (firstHolds_of_append hash (gains_of_adds fieldSmall first .paymentHash))
      (firstHolds_of_append secret (gains_of_adds fieldSmall first .paymentSecret))
    exact ⟨after, asked ++ later, .next first others⟩

/-! ### What is read is readable -/

/-- Every field that something was gained from can be read. -/
theorem isReadable_of_gains {fields : List Field} {before after : Contents}
    (gains : ∀ role, Gains signer before (ofRole role fields) after role) :
    ∀ field ∈ fields, field.IsReadable signer := by
  intro field member
  have among : field ∈ ofRole field.role fields := Field.mem_ofRole.mpr ⟨member, rfl⟩
  unfold Field.IsReadable
  cases role : field.role with
  | route =>
    rw [role] at among
    obtain ⟨hints, led, -⟩ := gains .route
    obtain ⟨hint, octets, holds, nonempty, isHint⟩ := exists_right_of_forall₂ led field among
    exact ⟨octets, holds, nonempty, RouteHint.exists_toBytes_eq_iff.mp ⟨hint, isHint⟩⟩
  | description =>
    rw [role] at among
    obtain ⟨descriptions, described, -⟩ := gains .description
    obtain ⟨description, describes⟩ := exists_right_of_forall₂ described field among
    simp only
    cases description with
    | plain text =>
      rw [if_pos describes.1]
      exact ⟨text, describes.2⟩
    | hashed digest =>
      rw [if_neg (by rw [describes.1]; decide)]
      exact ⟨digest.octets, describes.2⟩
    | unread value => exact describes.elim
  | payeeKey =>
    rw [role] at among
    exact (gains .payeeKey).2 field among
  | expiry => trivial
  | cltvDelta => trivial
  | paymentHash => trivial
  | paymentSecret => trivial
  | features => trivial
  | unknown => trivial

/-! ### Fields that are not judged -/

/-- Whether a field behind some others is not judged by its payload: it is a number or of no known
type, or there was a payment hash or a payment secret before it and it is another one. -/
def IsHarmless (before : List Field) (field : Field) : Prop :=
  match field.role with
  | .unknown | .expiry | .cltvDelta | .features => True
  | .paymentHash => ofRole .paymentHash before ≠ []
  | .paymentSecret => ofRole .paymentSecret before ≠ []
  | .route | .description | .payeeKey => False

variable {before after : List Field} {field : Field}

theorem isReadable_of_isHarmless (harmless : IsHarmless before field) :
    field.IsReadable signer := by
  unfold IsHarmless at harmless
  unfold Field.IsReadable
  cases role : field.role with
  | route => simp [role] at harmless
  | description => simp [role] at harmless
  | payeeKey => simp [role] at harmless
  | _ => trivial

/-- The first payment hash, the first payment secret and the first key are the same with and without
a field that is not judged. -/
theorem head?_ofRole_of_isHarmless (harmless : IsHarmless before field) {role : Role}
    (matters : role = .paymentHash ∨ role = .paymentSecret ∨ role = .payeeKey) :
    (ofRole role (before ++ field :: after)).head? = (ofRole role (before ++ after)).head? := by
  rw [Field.ofRole_append, Field.ofRole_append, Field.ofRole_cons]
  by_cases same : field.role = role
  · -- only another one of its role makes it harmless, and that one comes first with and without it
    have early : ofRole role before ≠ [] := by
      unfold IsHarmless at harmless
      rw [same] at harmless
      rcases matters with rfl | rfl | rfl
      · exact harmless
      · exact harmless
      · exact harmless.elim
    rw [List.head?_append_of_ne_nil _ early, List.head?_append_of_ne_nil _ early]
  · rw [if_neg same]

theorem areAcceptable_insert_iff (harmless : IsHarmless before field) :
    AreAcceptable signer (before ++ field :: after) ↔ AreAcceptable signer (before ++ after) := by
  have hash : (ofRole .paymentHash (before ++ field :: after)).head? =
      (ofRole .paymentHash (before ++ after)).head? :=
    head?_ofRole_of_isHarmless harmless (.inl rfl)
  have secret : (ofRole .paymentSecret (before ++ field :: after)).head? =
      (ofRole .paymentSecret (before ++ after)).head? :=
    head?_ofRole_of_isHarmless harmless (.inr (.inl rfl))
  have each : (∀ other ∈ before ++ field :: after, other.IsReadable signer) ↔
      ∀ other ∈ before ++ after, other.IsReadable signer := by
    simp only [List.forall_mem_append, List.forall_mem_cons, isReadable_of_isHarmless harmless,
      true_and]
  constructor
  · rintro ⟨readable, hashThere, secretThere⟩
    exact ⟨each.mp readable, hash ▸ hashThere, secret ▸ secretThere⟩
  · rintro ⟨readable, hashThere, secretThere⟩
    exact ⟨each.mpr readable, hash ▸ hashThere, secret ▸ secretThere⟩

/-! ### Acceptance -/

/-- A key that is named is held. -/
theorem holds_of_names {field : Option Field} {key : Option Bytes}
    (names : Option.Rel (Field.Names signer) field key) : Option.Rel Field.Holds field key := by
  cases names with
  | none => exact .none
  | some names => exact .some names.1

/-- The key that a request names is the one that the contents hold. -/
theorem namedKey_unique {fields : List Field}
    (small : ∀ field ∈ fields, ∀ symbol ∈ field.payload, symbol < 32) {named other : Option Bytes}
    (holds : Option.Rel Field.Holds (ofRole .payeeKey fields).head? named)
    (names : Option.Rel (Field.Names signer) (ofRole .payeeKey fields).head? other) :
    named = other := by
  cases first : (ofRole .payeeKey fields).head? with
  | none =>
    rw [first] at holds names
    cases holds
    cases names
    rfl
  | some field =>
    have member := (Field.mem_ofRole.mp (List.mem_of_head? first)).1
    rw [first] at holds names
    obtain ⟨key, rfl, keyHeld⟩ := exists_right_of_rel holds
    obtain ⟨otherKey, rfl, otherHeld, -⟩ := exists_right_of_rel names
    rw [standFor_unique (small field member) keyHeld otherHeld]

/-- The symbols of a signature are whole octets, and so they always stand for some. -/
theorem exists_signature {symbols : List Nat} (small : ∀ symbol ∈ symbols, symbol < 32)
    (long : timestampLength + Signature.symbolCount ≤ symbols.length) :
    ∃ signature,
      Symbols.StandFor (symbols.drop (symbols.length - Signature.symbolCount)) signature := by
  refine Symbols.exists_standFor (fun symbol member =>
    small symbol (List.mem_of_mem_drop member)) ?_
  rw [length_drop_signature long]
  decide

/-- A request with acceptable fields and a signature that passes is decoded. -/
theorem exists_decode {text humanPart : String} {symbols : List Nat} {fields : List Field}
    {network : Network} {amount : Option Nat} {named : Option Bytes} {signature key : Bytes}
    (received : Bech32.decode text = .ok (humanPart, symbols))
    (read : HumanPart.read humanPart = .ok (network, amount)) (cut : IsCutInto symbols fields)
    (acceptable : AreAcceptable signer fields)
    (holds : Option.Rel Field.Holds (ofRole .payeeKey fields).head? named)
    (signed : Symbols.StandFor (symbols.drop (symbols.length - Signature.symbolCount)) signature)
    (checked : (Signature.check signer humanPart
      (symbols.take (symbols.length - Signature.symbolCount)) signature named).outcome =
        .ok key) :
    ∃ wire, (decode signer false text).outcome = .ok wire := by
  obtain ⟨-, small⟩ := Bech32.decode_sound received
  have payloads := payload_lt_of_isCutInto small cut
  obtain ⟨each, ⟨hashField, hashFirst, hashHolds⟩, ⟨secretField, secretFirst, secretHolds⟩⟩ :=
    acceptable
  have hash : FirstHolds (ofRole .paymentHash fields) Contents.empty.paymentHash := by
    intro _ field first
    rwa [Option.mem_unique first hashFirst]
  have secret : FirstHolds (ofRole .paymentSecret fields) Contents.empty.paymentSecret := by
    intro _ field first
    rwa [Option.mem_unique first secretFirst]
  obtain ⟨contents, asked, adds⟩ := exists_addsAll payloads each hash secret
  have gains := gains_of_addsAll payloads adds
  have hashGained : Option.Rel _ _ _ := gains .paymentHash
  have secretGained : Option.Rel _ _ _ := gains .paymentSecret
  rw [Option.mem_def.mp hashFirst] at hashGained
  rw [Option.mem_def.mp secretFirst] at secretGained
  obtain ⟨paymentHash, hashThere, -⟩ := exists_right_of_rel hashGained
  obtain ⟨paymentSecret, secretThere, -⟩ := exists_right_of_rel secretGained
  have signatureSmall : ∀ symbol ∈ symbols.drop (symbols.length - Signature.symbolCount),
      symbol < 32 := fun symbol member => small symbol (List.mem_of_mem_drop member)
  rw [namedKey_unique payloads holds (gains .payeeKey).1] at checked
  let wire : WireInvoice := {
    humanPart := humanPart
    network := network
    amount := amount
    timestamp := Symbols.toNat (symbols.take timestampLength)
    paymentHash := paymentHash
    paymentSecret := paymentSecret
    description := sole contents.descriptions
    expiry := contents.expiry
    minFinalCltvDelta := contents.minFinalCltvDelta
    routeHints := contents.routeHints
    features := contents.features
    namedKey := contents.namedKey
    payeeKey := key
    signature := signature
    setAside := contents.setAside }
  refine ⟨wire, decode_of_isDecoding symbols contents ?_⟩
  exact {
    opened := openText_eq_ok_iff.mpr ⟨received, read, cut.long⟩
    fields := ofSection_of_addsAll ((isCutInto_iff small).mp cut).2 adds
    paymentHash := hashThere
    paymentSecret := secretThere
    description := soleDescription_eq_ok_iff.mpr ⟨rfl, by simp⟩
    signature := (octetsOf_eq_ok_iff_standFor signatureSmall).mpr signed
    checked := checked
    timestamp := rfl
    expiry := rfl
    minFinalCltvDelta := rfl
    routeHints := rfl
    features := rfl
    namedKey := rfl
    setAside := rfl }

/-- Whatever the text form holds, and whoever the signer is: if nobody insists on a description, a
request is decoded exactly if its human readable part can be read, its symbols are a timestamp,
acceptable fields and a signature, and the signature passes with the first key that a field names,
if one does. Any symbols in the place of a signature can be read as one. A field that is not judged
changes neither whether the fields are acceptable nor the first key, wherever it stands. -/
theorem decode_isOk_iff {text humanPart : String} {symbols : List Nat}
    (received : Bech32.decode text = .ok (humanPart, symbols)) :
    ((decode signer false text).outcome.isOk = true ↔
      (HumanPart.read humanPart).isOk = true ∧
      ∃ fields, IsCutInto symbols fields ∧ AreAcceptable signer fields ∧
        ∃ named signature, Option.Rel Field.Holds (ofRole .payeeKey fields).head? named ∧
          Symbols.StandFor (symbols.drop (symbols.length - Signature.symbolCount)) signature ∧
          (Signature.check signer humanPart
            (symbols.take (symbols.length - Signature.symbolCount)) signature
            named).outcome.isOk = true) ∧
    (timestampLength + Signature.symbolCount ≤ symbols.length → ∃ signature,
      Symbols.StandFor (symbols.drop (symbols.length - Signature.symbolCount)) signature) ∧
    ∀ before field after, IsHarmless before field →
      (AreAcceptable signer (before ++ field :: after) ↔
        AreAcceptable signer (before ++ after)) ∧
      (ofRole .payeeKey (before ++ field :: after)).head? =
        (ofRole .payeeKey (before ++ after)).head? := by
  refine ⟨?_, exists_signature (Bech32.decode_sound received).2, fun before field after harmless =>
    ⟨areAcceptable_insert_iff harmless, head?_ofRole_of_isHarmless harmless (.inr (.inr rfl))⟩⟩
  simp only [isOk_eq_true_iff]
  constructor
  · rintro ⟨wire, decoded⟩
    obtain ⟨own, contents, parts, -⟩ := isDecoding_of_decode decoded
    obtain ⟨receivedToo, read, -⟩ := openText_eq_ok_iff.mp parts.opened
    obtain ⟨rfl, rfl⟩ := Prod.mk.inj (Except.ok.inj (received.symm.trans receivedToo))
    obtain ⟨small, fields, cut, gains, means⟩ := means_of_isDecoding parts
    have signatureSmall : ∀ symbol ∈ symbols.drop (symbols.length - Signature.symbolCount),
        symbol < 32 := fun symbol member => small symbol (List.mem_of_mem_drop member)
    obtain ⟨hashField, hashFirst, hashHolds⟩ := exists_left_of_rel means.paymentHash
    obtain ⟨secretField, secretFirst, secretHolds⟩ := exists_left_of_rel means.paymentSecret
    have acceptable : AreAcceptable signer fields := ⟨isReadable_of_gains gains,
      ⟨hashField, hashFirst, _, hashHolds⟩, ⟨secretField, secretFirst, _, secretHolds⟩⟩
    refine ⟨⟨_, read⟩, fields, cut, acceptable, wire.namedKey, wire.signature, ?_, ?_, ?_⟩
    · exact holds_of_names means.namedKey
    · exact (octetsOf_eq_ok_iff_standFor signatureSmall).mp parts.signature
    · exact ⟨wire.payeeKey, by rw [parts.namedKey, parts.checked]⟩
  · rintro ⟨⟨⟨network, amount⟩, read⟩, fields, cut, acceptable, named, signature, holds, signed,
      key, checked⟩
    exact exists_decode received read cut acceptable holds signed checked

/-- A request that is accepted though its second payment hash and its second payment secret cannot
be read, its key and its hash of a description have wrong lengths, and one number is empty and
another one has high digits only. -/
theorem decode_isOk_of_harmless :
    let fields : List Field := [⟨'s', List.replicate 52 0⟩, ⟨'x', []⟩, ⟨'p', List.replicate 52 0⟩,
      ⟨'p', List.replicate 52 31⟩, ⟨'n', [1, 2]⟩, ⟨'s', List.replicate 52 1⟩, ⟨'h', [31]⟩,
      ⟨'c', [31, 31]⟩]
    let symbols := List.replicate 7 1 ++ fields.flatMap Field.spelling ++ List.replicate 104 0
    let text := String.ofList (Bech32.write .bech32 "lnbc".toList symbols)
    let signer : Signer := ⟨fun _ _ _ => .ok false, fun _ _ _ => .ok [1, 2, 3], fun _ => .ok true⟩
    Bech32.decode text = .ok ("lnbc", symbols) ∧
      (decode signer false text).outcome.isOk = true ∧ AreAcceptable signer fields := by
  intro fields symbols text signer
  have small : ∀ symbol ∈ symbols, symbol < 32 := by decide +kernel
  have opened : openText text = .ok ("lnbc", symbols, .mainnet, none) :=
    openText_without_amount small (by decide +kernel)
  obtain ⟨received, -⟩ := openText_eq_ok_iff.mp opened
  have accepted : (decode signer false text).outcome.isOk = true := by
    rw [decode, opened]
    decide +kernel
  obtain ⟨-, others, cutToo, acceptable, -⟩ := (decode_isOk_iff received).1.mp accepted
  have cut : IsCutInto symbols fields := ⟨by decide +kernel, by decide +kernel, by decide +kernel⟩
  obtain rfl := isCutInto_unique small cut cutToo
  exact ⟨received, accepted, acceptable⟩

end WireInvoice

end Bolt11
