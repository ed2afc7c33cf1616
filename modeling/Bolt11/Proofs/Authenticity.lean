/-
This file proves that nothing is decoded without a check of its signature, and over which octets.

The reader may meet any number of fields on its way to the signature, repeated keys and keys of a
wrong length among them. Each field of a key is one question to the signer; no other field asks
anything, and only the first key is kept. Behind the fields there is one more question for the
named key, or two for a key that has to be recovered. The digest in these questions is the hash
of what was received, cut off just where the signature begins.
-/

import Bolt11.Proofs.Decoding

namespace Bolt11.WireInvoice

/-! ### The questions of the fields -/

/-- The keys of the fields that hold one, in order. -/
def keysOf (fields : List Field) : Except Fault (List Bytes) :=
  (fields.filter Field.isKey).mapM fun field => octetsOf field.payload

theorem isKey_of_not_known {field : Field} (unknown : field.isKnown = false) :
    field.isKey = false := by
  obtain ⟨tag, payload⟩ := field
  by_cases key : tag = 'n'
  · subst key
    have sized : (payload.length == 53) = false := unknown
    rw [Field.isKey, sized, Bool.and_false]
  · rw [Field.isKey, beq_false_of_ne key, Bool.false_and]

/-- A field asks about its key, and only the first key is kept. A field that holds no key asks
nothing and leaves the key as it is. -/
theorem questions_of_adds {signer : Signer} {contents after : Contents} {field : Field}
    {asked : List Question} (adds : Adds signer contents field after asked) :
    (field.isKey = false ∧ asked = [] ∧ after.namedKey = contents.namedKey) ∨
    (field.isKey = true ∧ ∃ key, octetsOf field.payload = .ok key ∧ asked = [.isPubkey key] ∧
      after.namedKey = contents.namedKey.or (some key)) := by
  cases adds with
  | payeeKey sized read isKey =>
    refine .inr ⟨?_, _, read, rfl, rfl⟩
    rw [Field.isKey, sized]
    rfl
  | setAside unknown => exact .inl ⟨isKey_of_not_known unknown, rfl, rfl⟩
  | route read => exact .inl ⟨rfl, rfl, rfl⟩
  | plain read => exact .inl ⟨rfl, rfl, rfl⟩
  | hashed sized read => exact .inl ⟨rfl, rfl, rfl⟩
  | expiry => exact .inl ⟨rfl, rfl, rfl⟩
  | cltvDelta => exact .inl ⟨rfl, rfl, rfl⟩
  | paymentHash sized read => exact .inl ⟨rfl, rfl, rfl⟩
  | paymentSecret sized read => exact .inl ⟨rfl, rfl, rfl⟩
  | features => exact .inl ⟨rfl, rfl, rfl⟩

/-- The questions of a section are those about its keys in order, and the first of the keys is the
one that is kept. -/
theorem questions_of_addsAll {signer : Signer} {contents after : Contents} {fields : List Field}
    {asked : List Question} (adds : AddsAll signer contents fields after asked) :
    ∃ keys, keysOf fields = .ok keys ∧ asked = keys.map .isPubkey ∧
      after.namedKey = contents.namedKey.or keys.head? := by
  induction adds with
  | none => exact ⟨[], rfl, rfl, (Option.or_none).symm⟩
  | @next contents between after field rest asked later first others inductionHypothesis =>
    obtain ⟨keys, keysRead, rfl, kept⟩ := inductionHypothesis
    rcases questions_of_adds first with ⟨noKey, rfl, same⟩ | ⟨isKey, key, read, rfl, joined⟩
    · refine ⟨keys, ?_, rfl, by rw [kept, same]⟩
      rwa [keysOf, List.filter_cons_of_neg (by simp [noKey])]
    · refine ⟨key :: keys, ?_, rfl, ?_⟩
      · rw [keysOf, List.filter_cons_of_pos isKey]
        exact mapM_cons_eq_ok_iff.mpr ⟨key, keys, read, keysRead, rfl⟩
      · rw [kept, joined, Option.or_assoc, Option.some_or, List.head?_cons]

/-! ### The signature -/

/-- The signature of a request is all the bits of its last symbols and no others. -/
theorem signature_bits {symbols : List Nat} {signature : Bytes}
    (small : ∀ symbol ∈ symbols, symbol < 32) (sized : signature.length = Signature.length)
    (count : symbols.length = Signature.symbolCount) (read : octetsOf symbols = .ok signature) :
    Bits.ofOctets signature = Bits.ofValues 5 symbols := by
  obtain ⟨left, -, bits⟩ :=
    (Symbols.toBytes_eq_ok_iff small).mp (octetsOf_eq_ok_iff.mp read)
  have lengths := congrArg List.length bits
  rw [List.length_append, Bits.length_ofValues, Bits.length_ofOctets, List.length_replicate, sized,
    count] at lengths
  have nothing : left = 0 := by
    simp only [Signature.length, Signature.symbolCount] at lengths
    omega
  rw [bits, nothing, List.replicate_zero, List.append_nil]

/-- Whatever text is decoded: its signature is the bits of the last symbols, and the signer stands
by it over the hash of the human readable part and of all other symbols, packed. If a field names
a key, the signer has verified that key and recovered none; otherwise it has recovered a key,
owned to it, and verified none. Before that it was asked about the key of every field that holds
one, in order, and about nothing else at all. -/
theorem decode_authentic {signer : Signer} {strict : Bool} {text : String} {wire : WireInvoice}
    (decoded : (decode signer strict text).outcome = .ok wire) :
    ∃ symbols fields keys packed,
      Bech32.decode text = .ok (wire.humanPart, symbols) ∧
      timestampLength + Signature.symbolCount ≤ symbols.length ∧
      wire.signature.length = Signature.length ∧
      Bits.ofOctets wire.signature =
        Bits.ofValues 5 (symbols.drop (symbols.length - Signature.symbolCount)) ∧
      Signature.IsPacked (symbols.take (symbols.length - Signature.symbolCount)) packed ∧
      (Cursor.mk symbols timestampLength (symbols.length - Signature.symbolCount)).fields =
        (fields, none) ∧
      keysOf fields = .ok keys ∧ wire.namedKey = keys.head? ∧
      let digest := Sha256.hash (Signature.lettersOf wire.humanPart ++ packed)
      let compact := wire.signature.take 64
      let number := (wire.signature.getD 64 0).toNat
      (wire.namedKey = some wire.payeeKey ∧
          signer.verify wire.payeeKey digest compact = .ok true ∧
          (decode signer strict text).questions =
            keys.map .isPubkey ++ [.verify wire.payeeKey digest compact]) ∨
        (wire.namedKey = none ∧
          signer.recover digest compact number = .ok wire.payeeKey ∧
          signer.isPubkey wire.payeeKey = .ok true ∧
          (decode signer strict text).questions =
            keys.map .isPubkey ++
              [.recover digest compact number, .isPubkey wire.payeeKey]) := by
  obtain ⟨symbols, contents, parts, questions⟩ := isDecoding_of_decode decoded
  obtain ⟨read, -, long⟩ := openText_eq_ok_iff.mp parts.opened
  obtain ⟨ascii, small⟩ := Bech32.decode_sound read
  obtain ⟨fields, cut, adds⟩ := ofSection_eq_ok parts.fields
  obtain ⟨keys, keysRead, asked, kept⟩ := questions_of_addsAll adds
  have signedSmall : ∀ symbol ∈ symbols.take (symbols.length - Signature.symbolCount),
      symbol < 32 := fun symbol member => small symbol (List.mem_of_mem_take member)
  obtain ⟨packed, isPacked, hashed⟩ := Signature.digest_eq_ok ascii signedSmall
  obtain ⟨digest, sameDigest, sized, endorses⟩ := Signature.endorses_of_check parts.checked
  obtain rfl := Except.ok.inj (hashed.symm.trans sameDigest)
  have bits : Bits.ofOctets wire.signature =
      Bits.ofValues 5 (symbols.drop (symbols.length - Signature.symbolCount)) := by
    refine signature_bits (fun symbol member => small symbol (List.mem_of_mem_drop member)) sized
      ?_ parts.signature
    rw [List.length_drop]
    omega
  refine ⟨symbols, fields, keys, packed, read, long, sized, bits, isPacked, cut, keysRead,
    by rw [parts.namedKey, kept]; rfl, ?_⟩
  rw [questions, asked, parts.namedKey]
  revert endorses
  generalize (Signature.check signer wire.humanPart
    (symbols.take (symbols.length - Signature.symbolCount)) wire.signature
    contents.namedKey).questions = checking
  generalize contents.namedKey = named
  generalize wire.payeeKey = key
  intro endorses
  cases endorses with
  | named verified => exact .inl ⟨rfl, verified, rfl⟩
  | recovered found isKey => exact .inr ⟨rfl, found, isKey, rfl⟩

/-- A request read by a signer that verifies nothing and recovers one and the same key from
everything. -/
theorem decode_authentic_recovered :
    let signer : Signer := ⟨fun _ _ _ => .ok false, fun _ _ _ => .ok [1, 2, 3], fun _ => .ok true⟩
    let text := "lnbc1ps9zprzpp5qqqsyqcyq5rqwzqfqqqsyqcyq5rqwzqfqqqsyqcyq5rqwzqfqypqsp5zyg3zyg3zyg3" ++
      "zyg3zyg3zyg3zyg3zyg3zyg3zyg3zyg3zyg3zygsdqq9qypqszpyrpe4tym8d3q87d43cgdhhlsrt78epu7u99mkzttmt2" ++
      "wtsx0304rrw50addkryfrd3vn3zy467vxwlmf4uz7yvntuwjr2hqjl9lw5cqwtp2dy"
    ∃ (wire : WireInvoice) (keys : List Bytes) (digest : Bytes),
      (decode signer false text).outcome = .ok wire ∧
      wire.payeeKey = [1, 2, 3] ∧
      (decode signer false text).questions =
        keys.map .isPubkey ++ [.recover digest (wire.signature.take 64)
          (wire.signature.getD 64 0).toNat, .isPubkey wire.payeeKey] := by
  intro signer text
  have accepted : (decode signer false text).outcome.isOk = true := by decide +kernel
  obtain ⟨wire, decoded⟩ := exists_of_isOk accepted
  obtain ⟨_, _, keys, packed, -, -, -, -, -, -, -, -, endorsed⟩ := decode_authentic decoded
  refine ⟨wire, keys, Sha256.hash (Signature.lettersOf wire.humanPart ++ packed), decoded, ?_⟩
  rcases endorsed with ⟨-, verified, -⟩ | ⟨-, found, -, questions⟩
  · cases verified
  · exact ⟨(Except.ok.inj found).symm, questions⟩

end Bolt11.WireInvoice
