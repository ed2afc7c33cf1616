/-
This file proves when a request is as good with the payee's key named as without.

Without a named key the check recovers one, and with that key named it verifies it. The curve
arithmetic of both is a library's, and of the library only what its documentation says is used: a
key that it recovers solves the equation of the signature, and it verifies a key if the equation
holds and the second number of the signature is the smaller one of the two that belong to it. So the
two checks agree for the smaller number. For the larger one the key is still recovered, but naming
it makes the signature invalid. The library that computes its answers on the curve is as documented.
-/

import Bolt11.Proofs.Secp256k1.Recovery
import Bolt11.Proofs.Signature

namespace Bolt11

/-! ### Libraries -/

namespace Signer.Library

/-- A library for the curve answers as its documentation says. -/
structure IsDocumented (library : Library) : Prop where
  /-- A signature verifies a key that is read if it is the key's and is in the lower form. -/
  verifies : ∀ {key digest signature : Bytes}, library.readsKey key = true →
    (library.verify key digest signature = true ↔
      Secp256k1.IsSigned key digest signature ∧
        Bytes.toNat (signature.drop 32) ≤ Secp256k1.order / 2)
  /-- A key that is recovered is a solution for the signature. -/
  recovers : ∀ {key digest signature : Bytes} {number : Nat},
    library.recover digest signature number = .ok key → Secp256k1.IsSolution key digest signature

theorem isDocumented_onCurve : onCurve.IsDocumented where
  verifies _ := Secp256k1.verify_eq_true_iff
  recovers := Secp256k1.isSolution_of_recover

/-- A key that is recovered and read is verified exactly if the second number of the signature is
the smaller one of the two. -/
theorem IsDocumented.verify_of_recover {library : Library} (documented : library.IsDocumented)
    {key digest signature : Bytes} {number : Nat}
    (found : library.recover digest signature number = .ok key)
    (read : library.readsKey key = true) :
    library.verify key digest signature =
      decide (Bytes.toNat (signature.drop 32) ≤ Secp256k1.order / 2) := by
  rw [Bool.eq_iff_iff, decide_eq_true_iff, documented.verifies read]
  exact and_iff_right (documented.recovers found).isSigned

end Signer.Library

/-! ### Checks -/

namespace Signature

/-- A check of a named key is the signer's answer about it. -/
theorem check_named {signer : Signer} {humanPart : String} {symbols : List Nat}
    {signature key hash : Bytes} {verifies : Bool} (hashed : digest humanPart symbols = .ok hash)
    (sized : signature.length = length)
    (answered : signer.verify key hash (signature.take 64) = .ok verifies) :
    (check signer humanPart symbols signature (some key)).outcome =
      if verifies then .ok key else .error (.invalid .signature) := by
  have asked : (signer.askVerify key hash (signature.take 64)).outcome = .ok verifies :=
    Signer.answer_eq_ok_iff.mpr answered
  unfold check
  refine (Traced.bind_outcome_of_ok hashed).trans ?_
  rw [if_neg (not_not.mpr sized)]
  refine (Traced.bind_outcome_of_ok (Traced.note_outcome _ _ _)).trans ?_
  refine (Traced.bind_outcome_of_ok asked).trans ?_
  cases verifies <;> rfl

/-- Whatever is signed, and whatever library is behind the signer: if a key is recovered, then
naming that key gives the key again, or an invalid signature, depending only on whether the second
number of the signature is up to half of the order. -/
theorem check_recovered_key {library : Signer.Library} (documented : library.IsDocumented)
    {humanPart : String} {symbols : List Nat} {signature key : Bytes}
    (recovered : (check (.ofLibrary library) humanPart symbols signature none).outcome = .ok key) :
    (check (.ofLibrary library) humanPart symbols signature (some key)).outcome =
      if Bytes.toNat ((signature.take 64).drop 32) ≤ Secp256k1.order / 2 then .ok key
      else .error (.invalid .signature) := by
  obtain ⟨hash, hashed, sized, endorses⟩ := endorses_of_check recovered
  obtain ⟨found, owned⟩ :
      library.recover hash (signature.take 64) (signature.getD 64 0).toNat = .ok key ∧
        (Signer.ofLibrary library).isPubkey key = .ok true := by
    generalize (check (.ofLibrary library) humanPart symbols signature none).questions = asked
      at endorses
    cases endorses with
    | recovered found isKey => exact ⟨found, isKey⟩
  have read : library.readsKey key = true := (Bool.and_eq_true_iff.mp (Except.ok.inj owned)).2
  have answered : (Signer.ofLibrary library).verify key hash (signature.take 64) =
      .ok (decide (Bytes.toNat ((signature.take 64).drop 32) ≤ Secp256k1.order / 2)) := by
    refine congrArg Except.ok ?_
    rw [read, Bool.true_and, documented.verify_of_recover found read]
  rw [check_named hashed sized answered]
  by_cases low : Bytes.toNat ((signature.take 64).drop 32) ≤ Secp256k1.order / 2
  · rw [decide_eq_true low, if_pos rfl, if_pos low]
  · rw [decide_eq_false low, if_neg Bool.false_ne_true, if_neg low]

/-- A signature with the larger second number: its key is recovered, and it is invalid if that key
is named. -/
theorem check_recovered_key_large :
    let signature : Bytes := [47, 139, 222, 77, 26, 7, 32, 147, 85, 180, 167, 37, 10, 92, 81, 40,
      232, 139, 132, 189, 220, 97, 154, 183, 203, 168, 213, 105, 178, 64, 239, 228, 152, 140, 224,
      111, 65, 56, 250, 49, 192, 87, 34, 175, 100, 23, 170, 45, 242, 16, 214, 42, 33, 102, 241, 22,
      238, 75, 145, 74, 193, 203, 160, 191, 1]
    ∃ key, (check .onCurve "lnbc" [0, 1, 2, 3, 4, 5, 6] signature none).outcome = .ok key ∧
      (check .onCurve "lnbc" [0, 1, 2, 3, 4, 5, 6] signature (some key)).outcome =
        .error (.invalid .signature) := by
  intro signature
  have accepted :
      (check .onCurve "lnbc" [0, 1, 2, 3, 4, 5, 6] signature none).outcome.isOk = true := by
    decide +kernel
  have large : ¬ Bytes.toNat ((signature.take 64).drop 32) ≤ Secp256k1.order / 2 := by
    decide +kernel
  obtain ⟨key, recovered⟩ := exists_of_isOk accepted
  refine ⟨key, recovered, ?_⟩
  exact (check_recovered_key Signer.Library.isDocumented_onCurve recovered).trans (if_neg large)

end Signature

end Bolt11
