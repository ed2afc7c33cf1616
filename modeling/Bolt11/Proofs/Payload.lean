/-
This file says which payloads can be read, and as what.

A payload is read as octets exactly if it stands for them: if its bits are theirs and fewer than
five zeros. Everything else that is made of a payload is made of these octets, and each kind can be
told from the way it is written: a description in the clear is the text whose encoding the payload
stands for, a hash is its thirty-two octets, and a route hint is the hint in canonical form whose
wire form the payload stands for.
-/

import Bolt11.Proofs.Decoding
import Bolt11.Proofs.RouteHint
import Bolt11.Proofs.Symbols
import Bolt11.Proofs.Utf8

namespace Bolt11.WireInvoice

open Symbols (StandFor)

variable {payload : List Nat} (small : ∀ symbol ∈ payload, symbol < 32)

include small

/-- The octets of a payload are those that it stands for. -/
theorem octetsOf_eq_ok_iff_standFor {octets : Bytes} :
    octetsOf payload = .ok octets ↔ StandFor payload octets :=
  octetsOf_eq_ok_iff.trans (Symbols.toBytes_eq_ok_iff small)

/-- A payload stands for one byte string at most. -/
theorem standFor_unique {octets others : Bytes} (stands : StandFor payload octets)
    (standsToo : StandFor payload others) : octets = others := by
  have read := (octetsOf_eq_ok_iff_standFor small).mpr stands
  have readToo := (octetsOf_eq_ok_iff_standFor small).mpr standsToo
  exact Except.ok.inj (read.symm.trans readToo)

/-- A payload is a route hint if it stands for the wire form of a hint in canonical form that has a
hop. -/
theorem routeOf_eq_ok_iff {hint : RouteHint} :
    routeOf payload = .ok hint ↔
      ∃ octets, StandFor payload octets ∧ octets ≠ [] ∧ hint.toBytes = .ok octets ∧
        hint.canonical = hint := by
  constructor
  · intro succeeded
    unfold routeOf at succeeded
    split at succeeded
    · cases succeeded
    rename_i octets read
    split at succeeded
    · cases succeeded
    rename_i whole
    exact ⟨octets, (octetsOf_eq_ok_iff_standFor small).mp read,
      fun empty => (not_or.mp whole).1 (List.isEmpty_iff.mpr empty),
      RouteHint.ofBytes_eq_ok_iff.mp succeeded⟩
  · rintro ⟨octets, stands, nonempty, isHint⟩
    obtain ⟨sized, -⟩ := RouteHint.ofBytes_toBytes isHint.1
    have whole : ¬ (octets.isEmpty ∨ octets.length % RouteHop.wireLength ≠ 0) := by
      rw [List.isEmpty_iff, sized, Nat.mul_mod_right]
      exact not_or.mpr ⟨nonempty, not_not.mpr rfl⟩
    rw [routeOf, (octetsOf_eq_ok_iff_standFor small).mpr stands]
    simp only
    rw [if_neg whole]
    exact RouteHint.ofBytes_eq_ok_iff.mpr isHint

/-- A payload is a description in the clear if it stands for the encoding of a text. -/
theorem plainOf_eq_ok_iff {description : Description} :
    plainOf payload = .ok description ↔
      ∃ text, StandFor payload (Text.Utf8.encode text) ∧ description = .plain text := by
  constructor
  · intro succeeded
    unfold plainOf at succeeded
    split at succeeded
    · cases succeeded
    rename_i octets read
    split at succeeded
    · rename_i text decoded
      refine ⟨text, ?_, (Except.ok.inj succeeded).symm⟩
      rw [Text.Utf8.encode_of_decode decoded]
      exact (octetsOf_eq_ok_iff_standFor small).mp read
    · cases succeeded
  · rintro ⟨text, stands, rfl⟩
    rw [plainOf, (octetsOf_eq_ok_iff_standFor small).mpr stands]
    simp only [Text.Utf8.decode_encode]

/-- A payload is a hashed description if it stands for the thirty-two octets of the hash. -/
theorem hashedOf_eq_ok_iff {description : Description} :
    hashedOf payload = .ok description ↔
      ∃ digest : DescriptionHash, StandFor payload digest.octets ∧
        description = .hashed digest := by
  constructor
  · intro succeeded
    unfold hashedOf Description.ofDigest at succeeded
    split at succeeded
    · cases succeeded
    rename_i octets read
    split at succeeded
    · rename_i made
      split at made
      · rename_i sized
        obtain rfl := Except.ok.inj made
        exact ⟨⟨octets, sized⟩, (octetsOf_eq_ok_iff_standFor small).mp read,
          (Except.ok.inj succeeded).symm⟩
      · cases made
    · cases succeeded
  · rintro ⟨digest, stands, rfl⟩
    rw [hashedOf, (octetsOf_eq_ok_iff_standFor small).mpr stands]
    simp only [Description.ofDigest, dif_pos digest.sized]

end Bolt11.WireInvoice
