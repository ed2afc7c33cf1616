/-
This file proves which requests are encoded and how the encoding of all others fails.

There are limits of four kinds: some numbers and lengths are checked, a field has two symbols for
its length, a timestamp has seven symbols of its own, and a hop gives each of its numbers a width.
Each part of a request keeps within its limits or is refused for itself, as one that has no
encoding.

Two things can come between. A description may never have been read, and the writer takes it for a
text. And a refusal may name the number that it refuses, one that is not positive or a timestamp
that is too wide; if the runtime does not write that number, its limit is the fault instead. The
parts are written in a fixed order, so a fault of another kind is that of a certain part, and all
parts before it are in range.
-/

import Bolt11.Proofs.Encodable
import Bolt11.Proofs.Parsing
import Bolt11.Proofs.RoundTrip

namespace Bolt11

/-- The faults of a request that has no encoding. -/
inductive Fault.IsOfEncoding : Fault → Prop
  | unencodable (cause : Unencodable) : IsOfEncoding (.unencodable cause)

open Fault (IsOfEncoding)

theorem Fault.not_isOfEncoding_of_isUnwritten [Runtime] (fault : Fault)
    (unwritten : fault.IsUnwritten) : ¬ fault.IsOfEncoding := by
  obtain ⟨-⟩ := unwritten
  rintro ⟨⟩

/-! ### Fields -/

namespace Field

variable {tag : String} {c : Char}

/-- A field with a tag of the alphabet fails only because its payload is too long. -/
theorem failsOnlyWith_write (single : tag.toList = [c]) (known : (Bech32.symbol? c).isSome)
    (payload : List Nat) : FailsOnlyWith IsOfEncoding (write tag payload) := by
  obtain ⟨symbol, found⟩ := Option.isSome_iff_exists.mp known
  unfold write header
  by_cases long : 1024 ≤ payload.length
  · rw [if_pos long]
    exact failsOnlyWith_error (.unencodable _)
  · rw [if_neg long]
    simp only [single, found]
    exact failsOnlyWith_ok _

/-- The field of a number fails in another way if the number is negative and not written. -/
theorem failsBeyond_writeInt_iff [Runtime] (single : tag.toList = [c])
    (known : (Bech32.symbol? c).isSome) {value : Int} {fault : Fault} :
    FailsBeyond IsOfEncoding (writeInt tag value) fault ↔
      value < 0 ∧ Runtime.writes value = false ∧ fault.IsUnwritten := by
  unfold writeInt Symbols.ofInt
  by_cases negative : value < 0
  · rw [if_pos negative, and_iff_right negative]
    exact failsBeyond_worded_iff (.unencodable _) Fault.not_isOfEncoding_of_isUnwritten
  · rw [if_neg negative]
    exact iff_of_false (not_failsBeyond (failsOnlyWith_write single known _))
      fun both => negative both.1

end Field

namespace UnsignedInvoice

/-! ### Requests -/

theorem failsOnlyWith_routeField (hint : RouteHint) :
    FailsOnlyWith IsOfEncoding (routeField hint) := by
  unfold routeField
  split
  · exact failsOnlyWith_error (.unencodable _)
  split
  · rename_i fault failed
    cases hint.failsOnlyWith_toBytes fault failed with
    | badValue cause => exact failsOnlyWith_error (.unencodable _)
    | overflow cause => exact failsOnlyWith_error (.unencodable _)
  · exact Field.failsOnlyWith_write (c := 'r') rfl rfl _

theorem failsOnlyWith_ensure (condition : Bool) (cause : Unencodable) :
    FailsOnlyWith IsOfEncoding (ensure condition cause) := by
  unfold ensure
  split
  · exact failsOnlyWith_ok ()
  · exact failsOnlyWith_error (.unencodable cause)

theorem failsOnlyWith_payeeKeyField (key : Option Bytes) :
    FailsOnlyWith IsOfEncoding (payeeKeyField key) := by
  unfold payeeKeyField
  split
  · exact failsOnlyWith_ok []
  split
  · exact Field.failsOnlyWith_write (c := 'n') rfl rfl _
  · exact failsOnlyWith_error (.unencodable _)

section

variable [Runtime] {fault : Fault}

theorem failsBeyond_checkAmount_iff {amount : Option Int} :
    FailsBeyond IsOfEncoding (checkAmount amount) fault ↔
      ∃ msat ∈ amount, msat ≤ 0 ∧ Runtime.writes msat = false ∧ fault.IsUnwritten := by
  cases amount with
  | none => exact iff_of_false (not_failsBeyond (failsOnlyWith_ok ())) (by rintro ⟨_, ⟨⟩, -⟩)
  | some msat =>
    simp only [Option.mem_def, Option.some.injEq, exists_eq_left', checkAmount]
    by_cases positive : 0 < msat
    · rw [if_pos positive]
      exact iff_of_false (not_failsBeyond (failsOnlyWith_ok ()))
        fun both => Int.not_lt.mpr both.1 positive
    · rw [if_neg positive, and_iff_right (Int.not_lt.mp positive)]
      exact failsBeyond_worded_iff (.unencodable _) Fault.not_isOfEncoding_of_isUnwritten

/-- A timestamp out of range is named, whichever way it is out. -/
theorem failsBeyond_timestamp_iff {timestamp : Int} :
    FailsBeyond IsOfEncoding (Symbols.ofIntFixed 35 timestamp) fault ↔
      ¬ (0 ≤ timestamp ∧ timestamp < 2 ^ 35) ∧ Runtime.writes timestamp = false ∧
        fault.IsUnwritten := by
  by_cases inside : 0 ≤ timestamp ∧ timestamp < 2 ^ 35
  · obtain ⟨symbols, written⟩ := (Symbols.exists_ofIntFixed_iff 7).mpr inside
    rw [show Symbols.ofIntFixed 35 timestamp = .ok symbols from written]
    exact iff_of_false (not_failsBeyond (failsOnlyWith_ok symbols)) fun both => both.1 inside
  · have named : (Fault.unencodable (Symbols.misfit 7 timestamp)).isWritable =
        Runtime.writes timestamp := by
      have bits : Runtime.writes (5 * 7 : Nat) = true :=
        Runtime.writes_of_few (by decide : 2 ≤ 640) (by decide)
      rw [Fault.isWritable, Symbols.misfit]
      split
      · rfl
      · rw [Unencodable.isWritable, bits, Bool.and_true]
    have refusal : Symbols.ofIntFixed 35 timestamp =
        .error (Fault.unencodable (Symbols.misfit 7 timestamp)).worded :=
      Symbols.ofIntFixed_of_misfit (show ¬ (0 ≤ timestamp ∧ timestamp < 2 ^ (5 * 7)) from inside)
    rw [refusal, and_iff_right inside, ← named]
    exact failsBeyond_worded_iff (.unencodable _) Fault.not_isOfEncoding_of_isUnwritten

theorem failsBeyond_numberField_iff {tag : String} {c : Char} (single : tag.toList = [c])
    (known : (Bech32.symbol? c).isSome) {number : Option Int} :
    FailsBeyond IsOfEncoding (numberField tag number) fault ↔
      ∃ value ∈ number, value < 0 ∧ Runtime.writes value = false ∧ fault.IsUnwritten := by
  cases number with
  | none => exact iff_of_false (not_failsBeyond (failsOnlyWith_ok [])) (by rintro ⟨_, ⟨⟩, -⟩)
  | some value =>
    simp only [Option.mem_def, Option.some.injEq, exists_eq_left', numberField]
    exact Field.failsBeyond_writeInt_iff single known

theorem failsBeyond_featuresField_iff {features : Int} :
    FailsBeyond IsOfEncoding (featuresField features) fault ↔
      features < 0 ∧ Runtime.writes features = false ∧ fault.IsUnwritten := by
  unfold featuresField
  by_cases unset : features = 0
  · rw [if_pos unset, unset]
    exact iff_of_false (not_failsBeyond (failsOnlyWith_ok [])) fun both => absurd both.1 (by decide)
  · rw [if_neg unset]
    exact Field.failsBeyond_writeInt_iff (c := '9') rfl rfl

end

/-- A description that was never read has no text to be encoded. -/
theorem failsBeyond_descriptionField_iff {description : Option Description} {fault : Fault} :
    FailsBeyond IsOfEncoding (descriptionField description) fault ↔
      fault = .noSuchOperation ∧ ∃ value, description = some (.unread value) := by
  unfold descriptionField
  split
  · refine iff_of_false (not_failsBeyond ?_) (by rintro ⟨-, _, ⟨⟩⟩)
    simp only
    split
    · exact Field.failsOnlyWith_write (c := 'd') rfl rfl _
    · exact failsOnlyWith_error (.unencodable _)
  · exact iff_of_false (not_failsBeyond (Field.failsOnlyWith_write (c := 'h') rfl rfl _))
      (by rintro ⟨-, _, ⟨⟩⟩)
  · constructor
    · rintro ⟨⟨⟩, -⟩
      exact ⟨rfl, _, rfl⟩
    · rintro ⟨rfl, -⟩
      exact ⟨rfl, by rintro ⟨⟩⟩
  · exact iff_of_false (not_failsBeyond (failsOnlyWith_error (.unencodable _)))
      (by rintro ⟨-, _, ⟨⟩⟩)

/-! ### What comes between -/

/-- The checks before the timestamp are passed. -/
structure ReachesTimestamp (request : UnsignedInvoice) : Prop where
  amount : ∀ msat ∈ request.amount, 0 < msat
  paymentHash : request.paymentHash.length = 32
  paymentSecret : request.paymentSecret.length = 32

/-- The checks before the description are passed. -/
structure ReachesDescription (request : UnsignedInvoice) : Prop extends
    ReachesTimestamp request where
  timestamp : 0 ≤ request.timestamp ∧ request.timestamp < 2 ^ 35

/-- The checks before the numbers are passed. -/
structure ReachesNumbers (request : UnsignedInvoice) : Prop extends
    ReachesDescription request where
  description : ∃ only, request.description = some only ∧ only.IsEncodable
  payeeKey : ∀ named ∈ request.payeeKey, named.length = Signature.keyLength

/-- What a request can hold that its encoding is not prepared for, and the fault that it then ends
with: a description that was never read, or a number that is to be refused and that the runtime
does not write. -/
inductive Derails [Runtime] (request : UnsignedInvoice) : Fault → Prop
  | amount {msat : Int} {fault : Fault} (own : request.amount = some msat) (refused : msat ≤ 0)
      (unwritten : Runtime.writes msat = false) (limit : fault.IsUnwritten) : Derails request fault
  | timestamp {fault : Fault} (reached : request.ReachesTimestamp)
      (refused : ¬ (0 ≤ request.timestamp ∧ request.timestamp < 2 ^ 35))
      (unwritten : Runtime.writes request.timestamp = false) (limit : fault.IsUnwritten) :
      Derails request fault
  | description {value : Datum} (reached : request.ReachesDescription)
      (unread : request.description = some (.unread value)) : Derails request .noSuchOperation
  | expiry {seconds : Int} {fault : Fault} (reached : request.ReachesNumbers)
      (own : request.expiry = some seconds) (refused : seconds < 0)
      (unwritten : Runtime.writes seconds = false) (limit : fault.IsUnwritten) :
      Derails request fault
  | minFinalCltvDelta {blocks : Int} {fault : Fault} (reached : request.ReachesNumbers)
      (expiry : ∀ seconds ∈ request.expiry, 0 ≤ seconds ∧ seconds < 32 ^ Field.maxLength)
      (own : request.minFinalCltvDelta = some blocks) (refused : blocks < 0)
      (unwritten : Runtime.writes blocks = false) (limit : fault.IsUnwritten) :
      Derails request fault
  | features {fault : Fault} (reached : request.ReachesNumbers)
      (expiry : ∀ seconds ∈ request.expiry, 0 ≤ seconds ∧ seconds < 32 ^ Field.maxLength)
      (minFinalCltvDelta :
        ∀ blocks ∈ request.minFinalCltvDelta, 0 ≤ blocks ∧ blocks < 32 ^ Field.maxLength)
      (routeHints : ∀ hint ∈ request.routeHints, hint.Fits) (refused : request.features < 0)
      (unwritten : Runtime.writes request.features = false) (limit : fault.IsUnwritten) :
      Derails request fault

theorem exists_ensure_iff {length wanted : Nat} {cause : Unencodable} :
    (∃ value, ensure (length == wanted) cause = .ok value) ↔ length = wanted := by
  rw [← beq_iff_eq, ← ensure_eq_ok_iff]
  exact ⟨fun ⟨(), passed⟩ => passed, fun passed => ⟨(), passed⟩⟩

/-- The same as the writer comes to it, step by step: a step ends with such a fault, or it is passed
and a later one does. -/
def DerailsInTurn [Runtime] (request : UnsignedInvoice) (fault : Fault) : Prop :=
  (∃ msat ∈ request.amount, msat ≤ 0 ∧ Runtime.writes msat = false ∧ fault.IsUnwritten) ∨
  (∀ msat ∈ request.amount, 0 < msat) ∧
    request.paymentHash.length = 32 ∧ request.paymentSecret.length = 32 ∧
  (¬ (0 ≤ request.timestamp ∧ request.timestamp < 2 ^ 35) ∧
      Runtime.writes request.timestamp = false ∧ fault.IsUnwritten ∨
  (0 ≤ request.timestamp ∧ request.timestamp < 2 ^ 35) ∧
    request.paymentHash.length ≤ 639 ∧ request.paymentSecret.length ≤ 639 ∧
  (fault = .noSuchOperation ∧ (∃ value, request.description = some (.unread value)) ∨
  (∃ only, request.description = some only ∧ only.IsEncodable) ∧
    (∀ named ∈ request.payeeKey, named.length = Signature.keyLength) ∧
  ((∃ seconds ∈ request.expiry, seconds < 0 ∧ Runtime.writes seconds = false ∧
      fault.IsUnwritten) ∨
  (∀ seconds ∈ request.expiry, 0 ≤ seconds ∧ seconds < 32 ^ Field.maxLength) ∧
  ((∃ blocks ∈ request.minFinalCltvDelta, blocks < 0 ∧ Runtime.writes blocks = false ∧
      fault.IsUnwritten) ∨
  (∀ blocks ∈ request.minFinalCltvDelta, 0 ≤ blocks ∧ blocks < 32 ^ Field.maxLength) ∧
    (∀ hint ∈ request.routeHints, hint.Fits) ∧
  (request.features < 0 ∧ Runtime.writes request.features = false ∧ fault.IsUnwritten ∨
  (0 ≤ request.features ∧ request.features < 32 ^ Field.maxLength) ∧ False)))))

/-- The steps of the writer one after another. -/
theorem failsBeyond_symbols_iff_inTurn [Runtime] {request : UnsignedInvoice} {fault : Fault} :
    FailsBeyond IsOfEncoding request.symbols fault ↔ request.DerailsInTurn fault := by
  refine failsBeyond_step_iff failsBeyond_checkAmount_iff
    ⟨fun ⟨(), passed⟩ => checkAmount_eq_ok_iff.mp passed,
      fun positive => ⟨(), checkAmount_eq_ok_iff.mpr positive⟩⟩ fun _ => ?_
  refine failsBeyond_passed_iff (failsOnlyWith_ensure _ _) exists_ensure_iff fun _ => ?_
  refine failsBeyond_passed_iff (failsOnlyWith_ensure _ _) exists_ensure_iff fun _ => ?_
  refine failsBeyond_step_iff failsBeyond_timestamp_iff (Symbols.exists_ofIntFixed_iff 7)
    fun _ => ?_
  refine failsBeyond_passed_iff (Field.failsOnlyWith_write (c := 'p') rfl rfl _)
    (Field.exists_writeBytes_iff (c := 'p') rfl rfl) fun _ => ?_
  refine failsBeyond_passed_iff (Field.failsOnlyWith_write (c := 's') rfl rfl _)
    (Field.exists_writeBytes_iff (c := 's') rfl rfl) fun _ => ?_
  refine failsBeyond_step_iff failsBeyond_descriptionField_iff exists_descriptionField_iff
    fun _ => ?_
  refine failsBeyond_passed_iff (failsOnlyWith_payeeKeyField _) exists_payeeKeyField_iff
    fun _ => ?_
  refine failsBeyond_step_iff (failsBeyond_numberField_iff (c := 'x') rfl rfl)
    (exists_numberField_iff (c := 'x') rfl rfl) fun _ => ?_
  refine failsBeyond_step_iff (failsBeyond_numberField_iff (c := 'c') rfl rfl)
    (exists_numberField_iff (c := 'c') rfl rfl) fun _ => ?_
  refine failsBeyond_passed_iff (failsOnlyWith_mapM fun hint _ => failsOnlyWith_routeField hint)
    (exists_mapM_iff.trans (forall₂_congr fun _ _ => exists_routeField_iff)) fun _ => ?_
  refine failsBeyond_step_iff failsBeyond_featuresField_iff exists_featuresField_iff fun _ => ?_
  exact iff_false_intro (not_failsBeyond (failsOnlyWith_ok _))

theorem derailsInTurn_iff [Runtime] {request : UnsignedInvoice} {fault : Fault} :
    request.DerailsInTurn fault ↔ request.Derails fault := by
  have short {octets : Bytes} (sized : octets.length = 32) : octets.length ≤ 639 := by
    rw [sized]
    decide
  constructor
  · rintro (⟨msat, own, refused, unwritten, limit⟩ | ⟨amount, hash, secret, later⟩)
    · exact .amount own refused unwritten limit
    have atTimestamp : request.ReachesTimestamp := ⟨amount, hash, secret⟩
    rcases later with ⟨refused, unwritten, limit⟩ | ⟨timestamp, -, -, later⟩
    · exact .timestamp atTimestamp refused unwritten limit
    have atDescription : request.ReachesDescription := ⟨atTimestamp, timestamp⟩
    rcases later with ⟨rfl, value, unread⟩ | ⟨description, key, later⟩
    · exact .description atDescription unread
    have atNumbers : request.ReachesNumbers := ⟨atDescription, description, key⟩
    rcases later with ⟨seconds, own, refused, unwritten, limit⟩ | ⟨expiry, later⟩
    · exact .expiry atNumbers own refused unwritten limit
    rcases later with ⟨blocks, own, refused, unwritten, limit⟩ | ⟨delta, hints, later⟩
    · exact .minFinalCltvDelta atNumbers expiry own refused unwritten limit
    rcases later with ⟨refused, unwritten, limit⟩ | ⟨-, never⟩
    · exact .features atNumbers expiry delta hints refused unwritten limit
    · exact never.elim
  · have toTimestamp {later : Prop} (reached : request.ReachesTimestamp) (rest : later) :=
      And.intro reached.amount
        (And.intro reached.paymentHash (And.intro reached.paymentSecret rest))
    have toDescription {later : Prop} (reached : request.ReachesDescription) (rest : later) :=
      And.intro reached.timestamp
        (And.intro (short reached.paymentHash) (And.intro (short reached.paymentSecret) rest))
    have toNumbers {later : Prop} (reached : request.ReachesNumbers) (rest : later) :=
      And.intro reached.description (And.intro reached.payeeKey rest)
    intro derails
    cases derails with
    | amount own refused unwritten limit => exact .inl ⟨_, own, refused, unwritten, limit⟩
    | timestamp reached refused unwritten limit =>
      exact .inr (toTimestamp reached (.inl ⟨refused, unwritten, limit⟩))
    | description reached unread =>
      exact .inr (toTimestamp reached.toReachesTimestamp
        (.inr (toDescription reached (.inl ⟨rfl, _, unread⟩))))
    | expiry reached own refused unwritten limit =>
      exact .inr (toTimestamp reached.toReachesTimestamp (.inr (toDescription
        reached.toReachesDescription (.inr (toNumbers reached
          (.inl ⟨_, own, refused, unwritten, limit⟩))))))
    | minFinalCltvDelta reached expiry own refused unwritten limit =>
      exact .inr (toTimestamp reached.toReachesTimestamp (.inr (toDescription
        reached.toReachesDescription (.inr (toNumbers reached
          (.inr ⟨expiry, .inl ⟨_, own, refused, unwritten, limit⟩⟩))))))
    | features reached expiry delta hints refused unwritten limit =>
      exact .inr (toTimestamp reached.toReachesTimestamp (.inr (toDescription
        reached.toReachesDescription (.inr (toNumbers reached
          (.inr ⟨expiry, .inr ⟨delta, hints, .inl ⟨refused, unwritten, limit⟩⟩⟩))))))

/-- Encoding a request fails in another way than for want of an encoding exactly if the request
holds something that its encoding is not prepared for, with everything before that in range. -/
theorem failsBeyond_symbols_iff [Runtime] {request : UnsignedInvoice} {fault : Fault} :
    FailsBeyond IsOfEncoding request.symbols fault ↔ request.Derails fault :=
  failsBeyond_symbols_iff_inTurn.trans derailsInTurn_iff

/-! ### Requests -/

/-- The numbers of a request. -/
def numbers (request : UnsignedInvoice) : List Int :=
  request.amount.toList ++ [request.timestamp] ++ request.expiry.toList ++
    request.minFinalCltvDelta.toList ++ [request.features]

/-- If the runtime writes the numbers of a request, only its description can be unexpected. -/
theorem Derails.exists_unread [Runtime] {request : UnsignedInvoice} {fault : Fault}
    (derails : request.Derails fault)
    (writable : ∀ number ∈ request.numbers, Runtime.writes number = true) :
    ∃ value, request.description = some (.unread value) := by
  have apart {number : Int} (unwritten : Runtime.writes number = false)
      (own : number ∈ request.numbers) : ∃ value, request.description = some (.unread value) := by
    cases unwritten.symm.trans (writable number own)
  cases derails with
  | amount own refused unwritten limit => exact apart unwritten (by simp [numbers, own])
  | timestamp reached refused unwritten limit => exact apart unwritten (by simp [numbers])
  | description reached unread => exact ⟨_, unread⟩
  | expiry reached own refused unwritten limit => exact apart unwritten (by simp [numbers, own])
  | minFinalCltvDelta reached expiry own refused unwritten limit =>
    exact apart unwritten (by simp [numbers, own])
  | features reached expiry delta hints refused unwritten limit =>
    exact apart unwritten (by simp [numbers])

/-- With a description that was read, and with numbers that are not refused for what they are,
nothing comes between. -/
theorem not_derails [Runtime] {request : UnsignedInvoice} {fault : Fault}
    (amount : ∀ msat ∈ request.amount, 0 < msat)
    (timestamp : 0 ≤ request.timestamp ∧ request.timestamp < 2 ^ 35)
    (description : ∀ own ∈ request.description, own.IsRead)
    (expiry : ∀ seconds ∈ request.expiry, 0 ≤ seconds)
    (minFinalCltvDelta : ∀ blocks ∈ request.minFinalCltvDelta, 0 ≤ blocks)
    (features : 0 ≤ request.features) : ¬ request.Derails fault := by
  intro derails
  cases derails with
  | amount own refused _ _ => exact Int.not_lt.mpr refused (amount _ own)
  | timestamp _ refused _ _ => exact refused timestamp
  | description _ unread => exact description _ unread
  | expiry _ own refused _ _ => exact Int.not_lt.mpr (expiry _ own) refused
  | minFinalCltvDelta _ _ own refused _ _ =>
    exact Int.not_lt.mpr (minFinalCltvDelta _ own) refused
  | features _ _ _ _ refused _ _ => exact Int.not_lt.mpr features refused

/-- A runtime that allows for two digits a symbol writes every number that a field has room for,
and the next one. -/
theorem writes_of_le_field [Runtime] {limit : Nat} (known : limit ∈ Runtime.digitLimit)
    (room : 2 * Field.maxLength < limit) {number : Int} (natural : 0 ≤ number)
    (most : number ≤ 32 ^ Field.maxLength) : Runtime.writes number = true := by
  obtain ⟨number, rfl⟩ := Int.eq_ofNat_of_zero_le natural
  refine Runtime.writes_of_lt known ?_
  rw [Nat.pow_eq]
  calc (number : Int).natAbs ≤ 32 ^ Field.maxLength := by exact_mod_cast most
    _ ≤ (10 ^ 2) ^ Field.maxLength := Nat.pow_le_pow_left (by decide) _
    _ = 10 ^ (2 * Field.maxLength) := by rw [pow_mul]
    _ < 10 ^ limit := pow_lt_pow_right₀ (by decide) room

end UnsignedInvoice

end Bolt11
