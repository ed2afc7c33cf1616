/-
This file says what a good signature is.

A signature is good if the signer says so: either it verifies the key that the request names, or
it recovers a key and then owns to it. Which of the two questions is asked depends on nothing but
whether a key is named, and the other one is never asked. What is signed is the text of the human
readable part followed by the symbols, packed bit by bit.
-/

import Bolt11.Proofs.Outcome
import Bolt11.Proofs.Regrouping
import Bolt11.Signature

namespace Bolt11

/-! ### Answers -/

namespace Signer

theorem answer_eq_ok_iff {α : Type} {given : Except Refusal α} {value : α} :
    answer given = .ok value ↔ given = .ok value := by
  cases given with
  | error refusal => simp [answer]
  | ok other => simp [answer]

end Signer

namespace Signature

/-! ### Digest -/

/-- The octets of symbols packed for the digest: their string of bits, filled up with fewer than
eight zeros. -/
def IsPacked (symbols : List Nat) (octets : Bytes) : Prop :=
  ∃ fill, fill < 8 ∧
    Bits.ofOctets octets = Bits.ofValues 5 symbols ++ List.replicate fill false

/-- The octets of a text, one for each character. -/
def lettersOf (text : String) : Bytes := text.toList.map fun c => UInt8.ofNat c.toNat

theorem asciiOctets_eq_ok {text : String} (ascii : ∀ c ∈ text.toList, c.toNat < 0x80) :
    asciiOctets text = .ok (lettersOf text) := by
  have absent : text.toList.findIdx? (fun c => 0x80 ≤ c.toNat) = none := by
    rw [List.findIdx?_eq_none_iff]
    intro c member
    rw [decide_eq_false_iff_not, Nat.not_le]
    exact ascii c member
  rw [asciiOctets, absent]
  rfl

/-- What is signed for a text in ASCII and symbols is the text and the packed symbols. -/
theorem message_eq_ok {humanPart : String} (ascii : ∀ c ∈ humanPart.toList, c.toNat < 0x80)
    {symbols : List Nat} (small : ∀ symbol ∈ symbols, symbol < 32) :
    ∃ packed, IsPacked symbols packed ∧
      message humanPart symbols = .ok (lettersOf humanPart ++ packed) := by
  have narrow : ∀ symbol ∈ symbols, symbol < 2 ^ 5 := small
  obtain ⟨values, fill, regrouped, valuesSmall, few, bits⟩ :=
    Regroup.run_padded (show 0 < 8 by decide) narrow
  refine ⟨values.map UInt8.ofNat, ⟨fill, few, ?_⟩, ?_⟩
  · rw [Bits.ofOctets_ofNat valuesSmall, bits]
  · rw [message, asciiOctets_eq_ok ascii, regrouped]

/-- A text in ASCII and symbols have a digest: the hash of what is signed for them. -/
theorem digest_eq_ok {humanPart : String} (ascii : ∀ c ∈ humanPart.toList, c.toNat < 0x80)
    {symbols : List Nat} (small : ∀ symbol ∈ symbols, symbol < 32) :
    ∃ packed, IsPacked symbols packed ∧
      digest humanPart symbols = .ok (Sha256.hash (lettersOf humanPart ++ packed)) := by
  obtain ⟨packed, isPacked, made⟩ := message_eq_ok ascii small
  exact ⟨packed, isPacked, by rw [digest, made]⟩

/-! ### Checking -/

/-- The signer stands by a key for a signature, and what it is asked for that. -/
inductive Endorses (signer : Signer) (digest compact : Bytes) (number : Nat) :
    Option Bytes → Bytes → List Question → Prop
  | named {key : Bytes} (verified : signer.verify key digest compact = .ok true) :
    Endorses signer digest compact number (some key) key [.verify key digest compact]
  | recovered {key : Bytes} (found : signer.recover digest compact number = .ok key)
      (isKey : signer.isPubkey key = .ok true) :
    Endorses signer digest compact number none key
      [.recover digest compact number, .isPubkey key]

/-- A check that succeeds has the signer stand by the key, for the digest of what was signed. -/
theorem endorses_of_check {signer : Signer} {humanPart : String} {symbols : List Nat}
    {signature key : Bytes} {name : Option Bytes}
    (succeeded : (check signer humanPart symbols signature name).outcome = .ok key) :
    ∃ hash, digest humanPart symbols = .ok hash ∧ signature.length = length ∧
      Endorses signer hash (signature.take 64) (signature.getD 64 0).toNat name key
        (check signer humanPart symbols signature name).questions := by
  unfold check at succeeded ⊢
  obtain ⟨hash, hashed, succeeded, questions⟩ := Traced.bind_ok succeeded
  refine ⟨hash, hashed, ?_⟩
  rw [questions, Traced.lift_questions, List.nil_append]
  by_cases sized : signature.length = length
  · refine ⟨sized, ?_⟩
    rw [if_neg (not_not.mpr sized)] at succeeded ⊢
    obtain ⟨_, -, succeeded, questions⟩ := Traced.bind_ok succeeded
    rw [questions, Traced.note_questions, List.nil_append]
    cases name with
    | some named =>
      obtain ⟨answer, asked, done, questions⟩ := Traced.bind_ok succeeded
      have verified := Signer.answer_eq_ok_iff.mp asked
      rw [questions]
      cases answer with
      | false => cases done
      | true =>
        obtain rfl := Except.ok.inj done
        exact .named verified
    | none =>
      obtain ⟨answer, asked, succeeded, questions⟩ := Traced.bind_ok succeeded
      have found := Except.ok.inj asked
      rw [questions]
      cases answer with
      | error refusal =>
        simp only at succeeded
        split at succeeded <;> cases succeeded
      | ok recovered =>
        obtain ⟨answer, asked, done, questions⟩ := Traced.bind_ok succeeded
        have isKey := Signer.answer_eq_ok_iff.mp asked
        rw [questions]
        cases answer with
        | false => cases done
        | true =>
          obtain rfl := Except.ok.inj done
          exact .recovered found isKey
  · rw [if_pos sized] at succeeded
    cases succeeded

/-- The key that the signer stands by is the one that was named, or one that the signer owns to. -/
theorem key_of_endorses {signer : Signer} {digest compact : Bytes} {number : Nat}
    {name : Option Bytes} {key : Bytes} {questions : List Question}
    (endorses : Endorses signer digest compact number name key questions) :
    name = some key ∨ signer.isPubkey key = .ok true := by
  cases endorses with
  | named verified => exact .inl rfl
  | recovered found isKey => exact .inr isKey

/-- If the signer stands by a key, the check succeeds with that key. -/
theorem check_of_endorses {signer : Signer} {humanPart : String} {symbols : List Nat}
    {signature key hash : Bytes} {name : Option Bytes} {questions : List Question}
    (hashed : digest humanPart symbols = .ok hash) (sized : signature.length = length)
    (endorses : Endorses signer hash (signature.take 64) (signature.getD 64 0).toNat name key
      questions) :
    (check signer humanPart symbols signature name).outcome = .ok key := by
  unfold check
  refine Traced.bind_outcome_ok_iff.mpr ⟨hash, hashed, ?_⟩
  rw [if_neg (not_not.mpr sized)]
  refine Traced.bind_outcome_ok_iff.mpr ⟨(), rfl, ?_⟩
  cases endorses with
  | named verified =>
    exact Traced.bind_outcome_ok_iff.mpr ⟨true, Signer.answer_eq_ok_iff.mpr verified, rfl⟩
  | recovered found isKey =>
    refine Traced.bind_outcome_ok_iff.mpr ⟨.ok key, congrArg Except.ok found, ?_⟩
    exact Traced.bind_outcome_ok_iff.mpr ⟨true, Signer.answer_eq_ok_iff.mpr isKey, rfl⟩

end Signature

end Bolt11
