/-
This file says what a decoded request is made of.

A request that is decoded has been cut into its human readable part, its timestamp, its section of
fields and its signature, and every check on the way has gone well. These facts are collected once;
they hold exactly when decoding succeeds, and what is proved about decoding starts from them.
-/

import Bolt11.Proofs.Contents

namespace Bolt11.WireInvoice

/-! ### The text -/

/-- A text is opened if it has a good checksum, its human readable part can be read, and there is
room for a timestamp and a signature. -/
theorem openText_eq_ok_iff {text humanPart : String} {symbols : List Nat} {network : Network}
    {amount : Option Nat} :
    openText text = .ok (humanPart, symbols, network, amount) ↔
      Bech32.decode text = .ok (humanPart, symbols) ∧
      HumanPart.read humanPart = .ok (network, amount) ∧
      timestampLength + Signature.symbolCount ≤ symbols.length := by
  constructor
  · intro opened
    unfold openText at opened
    split at opened
    · cases opened
    rename_i decoded
    split at opened
    · cases opened
    rename_i read
    split at opened
    · cases opened
    rename_i long
    obtain ⟨rfl, rfl, rfl, rfl⟩ := by simpa using opened
    exact ⟨decoded, read, Nat.le_of_not_lt long⟩
  · rintro ⟨decoded, read, long⟩
    rw [openText, decoded]
    simp only [read]
    rw [if_neg (Nat.not_lt.mpr long)]

theorem demand_eq_ok_iff {α : Type} {cause : Invalid} {part : Option α} {value : α} :
    demand cause part = .ok value ↔ part = some value := by
  cases part with
  | none => simp [demand]
  | some other => simp [demand]

theorem octetsOf_eq_ok_iff {payload : List Nat} {octets : Bytes} :
    octetsOf payload = .ok octets ↔ Symbols.toBytes payload = .ok octets := by
  unfold octetsOf
  cases Symbols.toBytes payload with
  | error cause => simp
  | ok other => simp

/-- A signature takes a fixed number of symbols off the end. -/
theorem length_drop_signature {symbols : List Nat}
    (long : timestampLength + Signature.symbolCount ≤ symbols.length) :
    (symbols.drop (symbols.length - Signature.symbolCount)).length = Signature.symbolCount := by
  rw [List.length_drop]
  omega

/-! ### Descriptions -/

/-- The only element of a list, if there is just one. -/
def sole {α : Type} : List α → Option α
  | [value] => some value
  | _ => none

theorem sole_of_length_ne {α : Type} {values : List α} (other : values.length ≠ 1) :
    sole values = none := by
  match values with
  | [] => rfl
  | [_] => exact absurd rfl other
  | _ :: _ :: _ => rfl

/-- With other than exactly one description a request has none, and that is only good enough if
nobody insists. -/
theorem soleDescription_of_length_ne {descriptions : List Description}
    (other : descriptions.length ≠ 1) (strict : Bool) :
    soleDescription strict descriptions =
      if strict then Traced.fail (.invalid (.descriptionCount descriptions.length))
      else do
        Traced.note .debug journal ("invoice has " ++ toString descriptions.length ++
          " description fields, leaving description unset")
        return none := by
  match descriptions with
  | [] => rfl
  | [_] => exact absurd rfl other
  | _ :: _ :: _ => rfl

/-- The description of a request is the only one there is, and whoever insists on one gets one. -/
theorem soleDescription_eq_ok_iff {strict : Bool} {descriptions : List Description}
    {description : Option Description} :
    (soleDescription strict descriptions).outcome = .ok description ↔
      description = sole descriptions ∧ (strict = true → descriptions.length = 1) := by
  by_cases only : descriptions.length = 1
  · obtain ⟨single, rfl⟩ := List.length_eq_one_iff.mp only
    simp [soleDescription, sole, eq_comm]
  · rw [soleDescription_of_length_ne only, sole_of_length_ne only]
    cases strict with
    | true => simp [only]
    | false =>
      constructor
      · intro succeeded
        exact ⟨(Except.ok.inj succeeded).symm, by simp⟩
      · rintro ⟨rfl, -⟩
        rfl

theorem soleDescription_questions (strict : Bool) (descriptions : List Description) :
    (soleDescription strict descriptions).questions = [] := by
  by_cases only : descriptions.length = 1
  · obtain ⟨description, rfl⟩ := List.length_eq_one_iff.mp only
    rfl
  · rw [soleDescription_of_length_ne only]
    cases strict with
    | true => rfl
    | false => rfl

theorem noteSetAside_spec (setAside : List Field) :
    (noteSetAside setAside).outcome = .ok () ∧ (noteSetAside setAside).questions = [] := by
  unfold noteSetAside
  split
  · exact ⟨rfl, rfl⟩
  · exact ⟨rfl, rfl⟩

/-! ### The whole request -/

/-- What a decoded request is made of: the symbols of its text and what its fields say. -/
structure IsDecoding (signer : Signer) (strict : Bool) (text : String) (wire : WireInvoice)
    (symbols : List Nat) (contents : Contents) : Prop where
  opened : openText text = .ok (wire.humanPart, symbols, wire.network, wire.amount)
  fields : (Contents.ofSection signer symbols timestampLength
    (symbols.length - Signature.symbolCount)).outcome = .ok contents
  paymentHash : contents.paymentHash = some wire.paymentHash
  paymentSecret : contents.paymentSecret = some wire.paymentSecret
  description : (soleDescription strict contents.descriptions).outcome = .ok wire.description
  signature : octetsOf (symbols.drop (symbols.length - Signature.symbolCount)) = .ok wire.signature
  checked : (Signature.check signer wire.humanPart
    (symbols.take (symbols.length - Signature.symbolCount)) wire.signature
    contents.namedKey).outcome = .ok wire.payeeKey
  timestamp : wire.timestamp = Symbols.toNat (symbols.take timestampLength)
  expiry : wire.expiry = contents.expiry
  minFinalCltvDelta : wire.minFinalCltvDelta = contents.minFinalCltvDelta
  routeHints : wire.routeHints = contents.routeHints
  features : wire.features = contents.features
  namedKey : wire.namedKey = contents.namedKey
  setAside : wire.setAside = contents.setAside

/-- A request that is decoded is made of its parts, and the signer is asked about the keys of its
fields and then about its signature. -/
theorem isDecoding_of_decode {signer : Signer} {strict : Bool} {text : String} {wire : WireInvoice}
    (decoded : (decode signer strict text).outcome = .ok wire) :
    ∃ symbols contents, IsDecoding signer strict text wire symbols contents ∧
      (decode signer strict text).questions =
        (Contents.ofSection signer symbols timestampLength
          (symbols.length - Signature.symbolCount)).questions ++
        (Signature.check signer wire.humanPart
          (symbols.take (symbols.length - Signature.symbolCount)) wire.signature
          contents.namedKey).questions := by
  unfold decode at decoded ⊢
  obtain ⟨⟨humanPart, symbols, network, amount⟩, opened, decoded, q0⟩ := Traced.bind_ok decoded
  obtain ⟨contents, fields, decoded, q1⟩ := Traced.bind_ok decoded
  obtain ⟨_, -, decoded, q2⟩ := Traced.bind_ok decoded
  obtain ⟨paymentHash, paymentHashThere, decoded, q3⟩ := Traced.bind_ok decoded
  obtain ⟨paymentSecret, paymentSecretThere, decoded, q4⟩ := Traced.bind_ok decoded
  obtain ⟨description, described, decoded, q5⟩ := Traced.bind_ok decoded
  obtain ⟨signature, signatureRead, decoded, q6⟩ := Traced.bind_ok decoded
  obtain ⟨payeeKey, checked, done, q7⟩ := Traced.bind_ok decoded
  obtain rfl := Except.ok.inj done
  refine ⟨symbols, contents, ⟨opened, fields, demand_eq_ok_iff.mp paymentHashThere,
    demand_eq_ok_iff.mp paymentSecretThere, described, signatureRead, checked, rfl, rfl, rfl, rfl,
    rfl, rfl, rfl⟩, ?_⟩
  rw [q0]
  simp only [q1, q2, q3, q4, q5, q6, q7, Traced.lift_questions, Traced.pure_questions,
    (noteSetAside_spec _).2, soleDescription_questions, List.nil_append, List.append_nil]

/-- A request whose parts are there is decoded. -/
theorem decode_of_isDecoding {signer : Signer} {strict : Bool} {text : String} {wire : WireInvoice}
    (symbols : List Nat) (contents : Contents)
    (parts : IsDecoding signer strict text wire symbols contents) :
    (decode signer strict text).outcome = .ok wire := by
  unfold decode
  refine Traced.bind_outcome_ok_iff.mpr ⟨_, parts.opened, ?_⟩
  refine Traced.bind_outcome_ok_iff.mpr ⟨_, parts.fields, ?_⟩
  refine Traced.bind_outcome_ok_iff.mpr ⟨_, (noteSetAside_spec _).1, ?_⟩
  refine Traced.bind_outcome_ok_iff.mpr ⟨_, demand_eq_ok_iff.mpr parts.paymentHash, ?_⟩
  refine Traced.bind_outcome_ok_iff.mpr ⟨_, demand_eq_ok_iff.mpr parts.paymentSecret, ?_⟩
  refine Traced.bind_outcome_ok_iff.mpr ⟨_, parts.description, ?_⟩
  refine Traced.bind_outcome_ok_iff.mpr ⟨_, parts.signature, ?_⟩
  refine Traced.bind_outcome_ok_iff.mpr ⟨_, parts.checked, ?_⟩
  rw [← parts.timestamp, ← parts.expiry, ← parts.minFinalCltvDelta, ← parts.routeHints,
    ← parts.features, ← parts.namedKey, ← parts.setAside]
  rfl

end Bolt11.WireInvoice
