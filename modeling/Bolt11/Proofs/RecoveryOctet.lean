/-
This file proves that the last octet of a signature does not matter if the payee's key is named.

The octet says which key to recover, and a key that is named is not recovered but verified, with the
other sixty-four octets. Two texts that differ in this octet alone, and so in their checksums, are
cut into the same fields and have the same digest. So if one is decoded, the other is decoded to the
same, and the signer is asked the same questions about both. What human readable part the texts are
made with does not matter either: a text that is read is in one case, and the field of the payment
hash puts a small letter into it.
-/

import Bolt11.Proofs.Authenticity
import Bolt11.Proofs.Canonical
import Bolt11.Proofs.ReadingFaults
import Bolt11.Proofs.SignedMessage

namespace Bolt11

/-! ### Checking -/

namespace Signature

/-- A signer that stands by a key that is named has verified it, and that was all. -/
theorem eq_of_endorses_named {signer : Signer} {digest compact name key : Bytes} {number : Nat}
    {asked : List Question}
    (endorses : Endorses signer digest compact number (some name) key asked) :
    key = name ∧ asked = [.verify name digest compact] ∧
      signer.verify name digest compact = .ok true := by
  cases endorses with
  | named verified => exact ⟨rfl, rfl, verified⟩

/-- The check of a named key looks at the first sixty-four octets of a signature only, and it
recovers no key. -/
theorem check_of_same_compact {signer : Signer} {humanPart : String} {symbols : List Nat}
    {signature other name key : Bytes}
    (succeeded : (check signer humanPart symbols signature (some name)).outcome = .ok key)
    (sized : other.length = length) (same : other.take 64 = signature.take 64) :
    (check signer humanPart symbols other (some name)).outcome = .ok key ∧
      (check signer humanPart symbols other (some name)).questions =
        (check signer humanPart symbols signature (some name)).questions ∧
      ∀ digest compact number, Question.recover digest compact number ∉
        (check signer humanPart symbols signature (some name)).questions := by
  obtain ⟨hash, hashed, -, endorses⟩ := endorses_of_check succeeded
  obtain ⟨rfl, asked, verified⟩ := eq_of_endorses_named endorses
  have succeededToo : (check signer humanPart symbols other (some key)).outcome = .ok key :=
    check_of_endorses hashed sized (.named (same ▸ verified))
  obtain ⟨hashToo, hashedToo, -, endorsesToo⟩ := endorses_of_check succeededToo
  obtain rfl := Except.ok.inj (hashed.symm.trans hashedToo)
  obtain ⟨-, askedToo, -⟩ := eq_of_endorses_named endorsesToo
  refine ⟨succeededToo, ?_, fun digest compact number => ?_⟩
  · rw [askedToo, asked, same]
  · rw [asked]
    simp

end Signature

/-! ### Texts that were written -/

namespace Bech32

/-- From a text that was written the symbols are read, if anything is. If the symbol of a small
letter is among them, then so is the human readable part as it was given. -/
theorem eq_of_read_write {anyLength : Bool} {variant : Variant} {humanPart readPart : List Char}
    {symbols readSymbols : List Nat} (small : ∀ symbol ∈ symbols, symbol < 32)
    (accepted : read anyLength (write variant humanPart symbols) =
      some (variant, readPart, readSymbols)) :
    readSymbols = symbols ∧ (1 ∈ symbols → readPart = humanPart) := by
  obtain ⟨before, after, all, reading, -, rest⟩ := read_eq_some_iff.mp accepted
  have combinedSmall := append_checksum_lt variant humanPart small
  have cut : Text.splitLast '1' (write variant humanPart symbols) = some (humanPart, _) :=
    Text.splitLast_append humanPart (absent_map_letter combinedSmall)
  obtain ⟨-, rfl⟩ := Prod.mk.inj (Option.some.inj (reading.cut.symm.trans cut))
  have letters := reading.letters
  rw [lower_map_letter combinedSmall, symbols_map_letter combinedSmall] at letters
  obtain rfl := Option.some.inj letters
  obtain rfl : readSymbols = symbols := by
    rw [rest, List.length_append, length_checksum, Nat.add_sub_cancel, List.take_left]
  refine ⟨rfl, fun among => ?_⟩
  have smallLetter : letter 1 ∈ write variant humanPart readSymbols :=
    List.mem_append_right _ (List.mem_cons_of_mem _
      (List.mem_map_of_mem (List.mem_append_left _ among)))
  have notCapitals : Text.upper (write variant humanPart readSymbols) ≠
      write variant humanPart readSymbols := by
    intro capitals
    have capital := (Text.upper_eq_self_iff reading.latin).mp capitals _ smallLetter
    exact absurd capital (by decide)
  have lowered : Text.lower (write variant humanPart readSymbols) =
      write variant humanPart readSymbols := by
    have unmixed := reading.unmixed
    rw [isMixed, Bool.and_eq_false_iff, bne_eq_false_iff_eq, bne_eq_false_iff_eq] at unmixed
    exact unmixed.resolve_right notCapitals
  have same := (write_eq_lower accepted).trans lowered
  refine (List.append_inj' same ?_).1
  simp only [List.length_cons, List.length_map, List.length_append, length_checksum]

end Bech32

namespace WireInvoice

/-! ### Requests with another signature -/

/-- The symbols of a request with another signature behind what is signed. -/
def resigned (symbols : List Nat) (signature : Bytes) : List Nat :=
  signedSymbols symbols ++ Symbols.ofBytes signature

section Resigned

variable {symbols : List Nat} {signature : Bytes} (sized : signature.length = Signature.length)

include sized

theorem length_resigned :
    (resigned symbols signature).length =
      (signedSymbols symbols).length + Signature.symbolCount := by
  rw [resigned, List.length_append, Symbols.length_ofBytes, sized]
  rfl

theorem drop_resigned :
    (resigned symbols signature).drop
        ((resigned symbols signature).length - Signature.symbolCount) =
      Symbols.ofBytes signature := by
  rw [length_resigned sized, Nat.add_sub_cancel, resigned, List.drop_left]

theorem signedSymbols_resigned :
    signedSymbols (resigned symbols signature) = signedSymbols symbols := by
  rw [signedSymbols, length_resigned sized, Nat.add_sub_cancel, resigned, List.take_left]

end Resigned

theorem resigned_lt {symbols : List Nat} (small : ∀ symbol ∈ symbols, symbol < 32)
    (signature : Bytes) : ∀ symbol ∈ resigned symbols signature, symbol < 32 := by
  intro symbol member
  rcases List.mem_append.mp member with signed | added
  · exact small symbol (List.mem_of_mem_take signed)
  · exact Symbols.ofBytes_lt signature symbol added

/-- A request with another signature is cut into the same fields. -/
theorem isCutInto_resigned {symbols : List Nat} {fields : List Field}
    (cut : IsCutInto symbols fields) {signature : Bytes}
    (sized : signature.length = Signature.length) :
    IsCutInto (resigned symbols signature) fields where
  long := by
    have long := cut.long
    rw [length_resigned sized, signedSymbols, List.length_take]
    omega
  fit := cut.fit
  spelled := by
    show (signedSymbols (resigned symbols signature)).drop timestampLength = _
    rw [signedSymbols_resigned sized]
    exact cut.spelled

/-- The timestamp is the head of the symbols that are signed. -/
theorem take_signedSymbols {symbols : List Nat}
    (long : timestampLength + Signature.symbolCount ≤ symbols.length) :
    (signedSymbols symbols).take timestampLength = symbols.take timestampLength := by
  rw [signedSymbols, List.take_take, Nat.min_eq_left (by omega)]

/-- What a section says depends on the fields in it only. -/
theorem ofSection_congr {symbols others : List Nat} {start stop stopToo : Nat}
    (same : (Cursor.mk symbols start stop).fields = (Cursor.mk others start stopToo).fields)
    (signer : Signer) :
    Contents.ofSection signer symbols start stop =
      Contents.ofSection signer others start stopToo := by
  rw [Contents.ofSection, Contents.ofSection, same]

/-- The questions about a request are those about its fields and then those about its signature. -/
theorem questions_of_isDecoding {signer : Signer} {strict : Bool} {text : String}
    {wire : WireInvoice} {symbols : List Nat} {contents : Contents}
    (parts : IsDecoding signer strict text wire symbols contents) :
    (decode signer strict text).questions =
      (Contents.ofSection signer symbols timestampLength
          (symbols.length - Signature.symbolCount)).questions ++
        (Signature.check signer wire.humanPart (signedSymbols symbols) wire.signature
          contents.namedKey).questions := by
  obtain ⟨others, contentsToo, partsToo, questions⟩ :=
    isDecoding_of_decode (decode_of_isDecoding symbols contents parts)
  have opened := Except.ok.inj (parts.opened.symm.trans partsToo.opened)
  obtain rfl : symbols = others := congrArg (fun found => found.2.1) opened
  obtain rfl := Except.ok.inj (parts.fields.symm.trans partsToo.fields)
  exact questions

/-- The fields of a request never have a key recovered. -/
theorem recover_not_mem_ofSection {signer : Signer} {symbols : List Nat} {start stop : Nat}
    {contents : Contents}
    (succeeded : (Contents.ofSection signer symbols start stop).outcome = .ok contents)
    (digest compact : Bytes) (number : Nat) :
    Question.recover digest compact number ∉
      (Contents.ofSection signer symbols start stop).questions := by
  obtain ⟨fields, -, adds⟩ := ofSection_eq_ok succeeded
  obtain ⟨keys, -, asked, -⟩ := questions_of_addsAll adds
  rw [asked]
  simp

/-- A request that names the payee's key, with another signature that has the same first sixty-four
octets: it is decoded to the same but for the signature, with the same questions. -/
theorem decode_resigned {signer : Signer} {strict : Bool} {text : String} {wire : WireInvoice}
    {symbols : List Nat} {contents : Contents}
    (parts : IsDecoding signer strict text wire symbols contents) (named : wire.namedKey.isSome)
    {signature : Bytes} (sized : signature.length = Signature.length)
    (same : signature.take 64 = wire.signature.take 64) {other : String}
    (read : Bech32.decode other = .ok (wire.humanPart, resigned symbols signature)) :
    (decode signer strict other).outcome = .ok { wire with signature := signature } ∧
      (decode signer strict other).questions = (decode signer strict text).questions ∧
      ∀ digest compact number,
        Question.recover digest compact number ∉ (decode signer strict text).questions := by
  obtain ⟨small, fields, cut, -⟩ := means_of_isDecoding parts
  have cutToo := isCutInto_resigned cut sized
  obtain ⟨name, isName⟩ := Option.isSome_iff_exists.mp named
  rw [parts.namedKey] at isName
  have sections : Contents.ofSection signer (resigned symbols signature) timestampLength
        ((resigned symbols signature).length - Signature.symbolCount) =
      Contents.ofSection signer symbols timestampLength
        (symbols.length - Signature.symbolCount) := by
    refine ofSection_congr ?_ signer
    rw [((isCutInto_iff small).mp cut).2,
      ((isCutInto_iff (resigned_lt small signature)).mp cutToo).2]
  have checked := parts.checked
  rw [isName] at checked
  obtain ⟨checkedToo, asked, unrecovered⟩ := Signature.check_of_same_compact checked sized same
  have partsToo : IsDecoding signer strict other { wire with signature := signature }
      (resigned symbols signature) contents := {
    opened := by
      obtain ⟨-, partRead, -⟩ := openText_eq_ok_iff.mp parts.opened
      exact openText_eq_ok_iff.mpr ⟨read, partRead, cutToo.long⟩
    fields := sections ▸ parts.fields
    paymentHash := parts.paymentHash
    paymentSecret := parts.paymentSecret
    description := parts.description
    signature := by
      rw [drop_resigned sized]
      exact octetsOf_eq_ok_iff.mpr (Symbols.toBytes_ofBytes signature)
    checked := by
      show (Signature.check signer wire.humanPart (signedSymbols (resigned symbols signature))
        signature contents.namedKey).outcome = .ok wire.payeeKey
      rw [signedSymbols_resigned sized, isName]
      exact checkedToo
    timestamp := by
      rw [← take_signedSymbols cutToo.long, signedSymbols_resigned sized,
        take_signedSymbols cut.long]
      exact parts.timestamp
    expiry := parts.expiry
    minFinalCltvDelta := parts.minFinalCltvDelta
    routeHints := parts.routeHints
    features := parts.features
    namedKey := parts.namedKey
    setAside := parts.setAside }
  refine ⟨decode_of_isDecoding _ _ partsToo, ?_, fun digest compact number asking => ?_⟩
  · rw [questions_of_isDecoding partsToo, questions_of_isDecoding parts, sections,
      signedSymbols_resigned sized, isName]
    exact congrArg _ asked
  · rw [questions_of_isDecoding parts, isName] at asking
    rcases List.mem_append.mp asking with fields | signed
    · exact recover_not_mem_ofSection parts.fields digest compact number fields
    · exact unrecovered digest compact number signed

/-- A request that has a payment hash has the symbol of its tag. -/
theorem one_mem_of_isCutInto {signer : Signer} {symbols : List Nat} {fields : List Field}
    {wire : WireInvoice} (cut : IsCutInto symbols fields) (means : Means signer fields wire) :
    1 ∈ symbols := by
  obtain ⟨field, first, -⟩ := exists_left_of_rel means.paymentHash
  obtain ⟨among, isHash⟩ := Field.mem_ofRole.mp (List.mem_of_head? first)
  have tag : field.tag = 'p' := by
    unfold Field.role at isHash
    split at isHash
    case h_6 same => exact same
    all_goals
      first
      | cases isHash
      | split at isHash <;> cases isHash
  have symbol : Bech32.symbol? 'p' = some 1 := by decide
  have spelled : 1 ∈ fields.flatMap Field.spelling := by
    refine List.mem_flatMap.mpr ⟨field, among, ?_⟩
    rw [Field.spelling, tag, symbol]
    exact List.mem_cons_self
  rw [← cut.spelled] at spelled
  exact List.mem_of_mem_take (List.mem_of_mem_drop spelled)

/-- Whatever human readable part and values make up a text that is decoded with a named key: the
values are the symbols that are signed, followed by those of the signature. With any octet in the
place of the last one of the signature, the text is decoded to the same but for the signature. The
signer is asked the same questions, and it is never asked to recover a key. -/
theorem decode_any_recovery_octet {signer : Signer} {strict : Bool} {humanPart text : String}
    {values : List Int} {wire : WireInvoice} (encoded : Bech32.encode humanPart values = .ok text)
    (decoded : (decode signer strict text).outcome = .ok wire) (named : wire.namedKey.isSome) :
    ∃ symbols : List Nat, values = symbols.map Int.ofNat ∧
      wire.signature.length = 65 ∧ symbols = resigned symbols wire.signature ∧
      (∀ octet : UInt8, ∃ other,
        Bech32.encode humanPart
          ((resigned symbols (wire.signature.set 64 octet)).map Int.ofNat) = .ok other ∧
        (decode signer strict other).outcome =
          .ok { wire with signature := wire.signature.set 64 octet } ∧
        (decode signer strict other).questions = (decode signer strict text).questions) ∧
      ∀ digest compact number,
        Question.recover digest compact number ∉ (decode signer strict text).questions := by
  obtain ⟨symbols, rfl, small, rfl⟩ := Bech32.encode_eq_ok_iff.mp encoded
  obtain ⟨received, contents, parts, -⟩ := isDecoding_of_decode decoded
  obtain ⟨-, fields, cut, -, means⟩ := means_of_isDecoding parts
  obtain ⟨read, -, long⟩ := openText_eq_ok_iff.mp parts.opened
  have accepted := Bech32.decode_eq_ok_iff.mp read
  rw [String.toList_ofList] at accepted
  obtain ⟨rfl, whole⟩ := Bech32.eq_of_read_write small accepted
  obtain rfl : wire.humanPart = humanPart :=
    String.toList_inj.mp (whole (one_mem_of_isCutInto cut means))
  have writable := Bech32.isHumanPart_of_read accepted
  have sized := length_signature small long parts.signature
  have rewritten (octet : UInt8) :=
    Bech32.decode_encode writable (resigned_lt small (wire.signature.set 64 octet))
  have sizedToo (octet : UInt8) : (wire.signature.set 64 octet).length = Signature.length := by
    rw [List.length_set, sized]
  have redecoded (octet : UInt8) := decode_resigned parts named (sizedToo octet)
    (List.take_set_of_le (Nat.le_refl 64)) (rewritten octet).2
  refine ⟨received, rfl, sized, ?_, fun octet => ?_, (redecoded 0).2.2⟩
  · have tailSmall : ∀ symbol ∈ received.drop (received.length - Signature.symbolCount),
        symbol < 32 := fun symbol member => small symbol (List.mem_of_mem_drop member)
    have stand := (Symbols.toBytes_eq_ok_iff tailSmall).mp (octetsOf_eq_ok_iff.mp parts.signature)
    rw [resigned, Symbols.ofBytes_of_standFor tailSmall stand, signedSymbols,
      List.take_append_drop]
  · obtain ⟨sameOutcome, sameQuestions, -⟩ := redecoded octet
    exact ⟨_, (rewritten octet).1, sameOutcome, sameQuestions⟩

/-- A request with a named key, read by a signer that verifies everything and recovers nothing: any
octet may stand at the end of its signature. -/
theorem decode_any_recovery_octet_verified :
    let fields : List Field := [⟨'p', List.replicate 52 0⟩, ⟨'d', [12, 4]⟩,
      ⟨'n', List.replicate 53 0⟩, ⟨'s', List.replicate 52 0⟩]
    let symbols := List.replicate 7 1 ++ fields.flatMap Field.spelling ++ List.replicate 104 0
    let text := String.ofList (Bech32.write .bech32 "lnbc".toList symbols)
    let signer : Signer := ⟨fun _ _ _ => .ok true, fun _ _ _ => .error .noKey, fun _ => .ok true⟩
    ∃ wire, (decode signer true text).outcome = .ok wire ∧
      ∀ octet : UInt8, ∃ other,
        (decode signer true other).outcome =
          .ok { wire with signature := wire.signature.set 64 octet } ∧
        (decode signer true other).questions = (decode signer true text).questions := by
  intro fields symbols text signer
  have small : ∀ symbol ∈ symbols, symbol < 32 := by decide +kernel
  have writable : Bech32.IsHumanPart "lnbc".toList := HumanPart.isHumanPart_form .mainnet none
  have opened : openText text = .ok ("lnbc", symbols, .mainnet, none) :=
    openText_without_amount small (by decide +kernel)
  have found : (decode signer true text).outcome.toOption.map
      (fun wire => wire.namedKey.isSome) = some true := by
    rw [decode, opened]
    decide +kernel
  obtain ⟨wire, decoded, named⟩ := exists_of_map_toOption found
  obtain ⟨_, -, -, -, alike, -⟩ :=
    decode_any_recovery_octet (Bech32.decode_encode writable small).1 decoded named
  refine ⟨wire, decoded, fun octet => ?_⟩
  obtain ⟨other, -, redecoded, sameQuestions⟩ := alike octet
  exact ⟨other, redecoded, sameQuestions⟩

end WireInvoice

end Bolt11
