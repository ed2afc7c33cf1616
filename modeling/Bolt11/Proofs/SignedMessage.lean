/-
This file proves that what is signed determines the request.

Symbols are packed into octets for the signature and filled up with zeros, and that alone does not
determine them: a list of symbols and the same list with one more zero can be packed into the same
octets. It is the fields that rule this out. A field needs three symbols at least, so if a list is
the spellings of some fields, the list with one more symbol is not. Of two accepted requests with
the same signed message each part is therefore the same: the human readable part, every symbol
before the signature, every field, and with them whatever the requests say.
-/

import Bolt11.Proofs.Meaning

namespace Bolt11

/-! ### Packing -/

namespace Signature

theorem length_lettersOf (text : String) : (lettersOf text).length = text.length := by
  rw [lettersOf, List.length_map, String.length_toList]

/-- Texts in ASCII have different octets. -/
theorem lettersOf_injective {text other : String} (ascii : ∀ c ∈ text.toList, c.toNat < 0x80)
    (asciiToo : ∀ c ∈ other.toList, c.toNat < 0x80) (same : lettersOf text = lettersOf other) :
    text = other := by
  have codes {text : String} (ascii : ∀ c ∈ text.toList, c.toNat < 0x80) :
      (lettersOf text).map (fun octet => Char.ofNat octet.toNat) = text.toList := by
    rw [lettersOf, List.map_map]
    refine (List.map_congr_left fun c member => ?_).trans (List.map_id _)
    have small : c.toNat % 256 = c.toNat := Nat.mod_eq_of_lt ((ascii c member).trans (by decide))
    show Char.ofNat (c.toNat % 256) = c
    rw [small, Char.ofNat_toNat]
  refine String.toList_injective ?_
  rw [← codes ascii, ← codes asciiToo, same]

/-- If a list of symbols and a list that is no shorter are packed into the same octets, the longer
one has one zero more at most. -/
theorem eq_or_eq_append_zero_of_isPacked {symbols others : List Nat} {octets : Bytes}
    (small : ∀ symbol ∈ symbols, symbol < 32) (smallToo : ∀ symbol ∈ others, symbol < 32)
    (packed : IsPacked symbols octets) (packedToo : IsPacked others octets)
    (noShorter : symbols.length ≤ others.length) :
    others = symbols ∨ others = symbols ++ [0] := by
  obtain ⟨fill, few, bits⟩ := packed
  obtain ⟨rest, -, bitsToo⟩ := packedToo
  have cut : others = others.take symbols.length ++ others.drop symbols.length :=
    (List.take_append_drop _ _).symm
  have sized : (others.take symbols.length).length = symbols.length :=
    List.length_take_of_le noShorter
  have same := bits.symm.trans bitsToo
  rw [cut, Bits.ofValues_append, List.append_assoc] at same
  obtain ⟨front, zeros⟩ := List.append_inj same (by
    rw [Bits.length_ofValues, Bits.length_ofValues, sized])
  have equal : symbols = others.take symbols.length :=
    Bits.ofValues_injective (by decide) small
      (fun symbol member => smallToo symbol (List.mem_of_mem_take member)) front
  -- fewer than eight zeros are left for the symbols that the other list has more
  have lengths := congrArg List.length zeros
  rw [List.length_replicate, List.length_append, Bits.length_ofValues, List.length_replicate]
    at lengths
  rcases additional : others.drop symbols.length with _ | ⟨symbol, more⟩
  · refine .inl ?_
    rw [additional, List.append_nil, ← equal] at cut
    exact cut
  · rw [additional, List.length_cons] at lengths
    obtain rfl : more = [] := List.eq_nil_of_length_eq_zero (by omega)
    have inside : symbol ∈ others := List.mem_of_mem_drop (additional ▸ List.mem_cons_self)
    have zero : Bits.ofNat 5 symbol = List.replicate 5 false := by
      refine List.eq_replicate_iff.mpr ⟨Bits.length_ofNat 5 symbol, fun bit member => ?_⟩
      refine List.eq_of_mem_replicate (n := fill) ?_
      rw [zeros, additional, Bits.ofValues_cons]
      exact List.mem_append_left _ (List.mem_append_left _ member)
    have isZero : symbol = 0 := (Nat.mod_eq_of_lt (smallToo symbol inside)).symm.trans
      (Bits.ofNat_eq_zeros_iff.mp zero)
    refine .inr ?_
    rw [additional, isZero, ← equal] at cut
    exact cut

end Signature

namespace WireInvoice

open Bolt11.Field (Role ofRole)

/-! ### The symbols that are signed -/

/-- The symbols before the signature. -/
def signedSymbols (symbols : List Nat) : List Nat :=
  symbols.take (symbols.length - Signature.symbolCount)

/-- No symbol can be put behind the fields of a request: the result is no request. -/
theorem signedSymbols_ne_append {symbols others : List Nat} {fields more : List Field}
    (cut : IsCutInto symbols fields) (cutToo : IsCutInto others more) (symbol : Nat) :
    signedSymbols others ≠ signedSymbols symbols ++ [symbol] := by
  intro longer
  have long : timestampLength ≤ (signedSymbols symbols).length := by
    have total := cut.long
    rw [signedSymbols, List.length_take]
    omega
  have spelled : more.flatMap Field.spelling ++ [] = fields.flatMap Field.spelling ++ [symbol] := by
    rw [List.append_nil, ← cutToo.spelled, ← cut.spelled]
    show (signedSymbols others).drop timestampLength = (signedSymbols symbols).drop _ ++ _
    rw [longer, List.drop_append_of_le_length long]
  have single : [symbol].length < 3 := by simp
  obtain ⟨-, nothing⟩ :=
    Cursor.spellings_append_injective cutToo.fit cut.fit (by decide) single spelled
  cases nothing

/-- Requests whose signed symbols are packed into the same octets have the same signed symbols. -/
theorem signedSymbols_injective {symbols others : List Nat} {fields more : List Field}
    (small : ∀ symbol ∈ symbols, symbol < 32) (smallToo : ∀ symbol ∈ others, symbol < 32)
    (cut : IsCutInto symbols fields) (cutToo : IsCutInto others more) {octets : Bytes}
    (packed : Signature.IsPacked (signedSymbols symbols) octets)
    (packedToo : Signature.IsPacked (signedSymbols others) octets) :
    signedSymbols symbols = signedSymbols others := by
  have signedSmall : ∀ symbol ∈ signedSymbols symbols, symbol < 32 :=
    fun symbol member => small symbol (List.mem_of_mem_take member)
  have signedSmallToo : ∀ symbol ∈ signedSymbols others, symbol < 32 :=
    fun symbol member => smallToo symbol (List.mem_of_mem_take member)
  rcases Nat.le_total (signedSymbols symbols).length (signedSymbols others).length with
    noShorter | noLonger
  · rcases Signature.eq_or_eq_append_zero_of_isPacked signedSmall signedSmallToo packed packedToo
      noShorter with same | longer
    · exact same.symm
    · exact absurd longer (signedSymbols_ne_append cut cutToo 0)
  · rcases Signature.eq_or_eq_append_zero_of_isPacked signedSmallToo signedSmall packedToo packed
      noLonger with same | longer
    · exact same
    · exact absurd longer (signedSymbols_ne_append cutToo cut 0)

/-- The same symbols are cut into the same fields. -/
theorem fields_unique {symbols others : List Nat} {fields more : List Field}
    (cut : IsCutInto symbols fields) (cutToo : IsCutInto others more)
    (same : signedSymbols symbols = signedSymbols others) : fields = more := by
  have spelled : fields.flatMap Field.spelling ++ [] = more.flatMap Field.spelling ++ [] := by
    rw [List.append_nil, List.append_nil, ← cut.spelled, ← cutToo.spelled]
    exact congrArg (List.drop timestampLength) same
  exact (Cursor.spellings_append_injective cut.fit cutToo.fit (by decide) (by decide) spelled).1

/-! ### What the same fields say -/

section Unique

variable {field : Field} (small : ∀ symbol ∈ field.payload, symbol < 32)

include small

/-- A field describes one thing at most. -/
theorem describes_unique {description other : Description} (describes : field.Describes description)
    (describesToo : field.Describes other) : description = other := by
  have tags : 'd' ≠ 'h' := by decide
  cases description with
  | plain text =>
    cases other with
    | plain textToo =>
      have octets := standFor_unique small describes.2 describesToo.2
      have texts := (Text.Utf8.decode_encode text).symm.trans
        (octets ▸ Text.Utf8.decode_encode textToo)
      rw [Except.ok.inj texts]
    | hashed digest => exact absurd (describes.1.symm.trans describesToo.1) tags
    | unread value => exact describesToo.elim
  | hashed digest =>
    cases other with
    | plain text => exact absurd (describesToo.1.symm.trans describes.1) tags
    | hashed digestToo =>
      have octets := standFor_unique small describes.2 describesToo.2
      obtain ⟨own, sized⟩ := digest
      obtain rfl : own = digestToo.octets := octets
      rfl
    | unread value => exact describesToo.elim
  | unread value => exact describes.elim

/-- A field leads one way at most. -/
theorem leads_unique {hint other : RouteHint} (leads : field.Leads hint)
    (leadsToo : field.Leads other) : hint = other := by
  obtain ⟨octets, stands, -, isHint⟩ := leads
  obtain ⟨others, standsToo, -, isHintToo⟩ := leadsToo
  obtain rfl := standFor_unique small stands standsToo
  have read := RouteHint.ofBytes_eq_ok_iff.mpr isHint
  exact Except.ok.inj (read.symm.trans (RouteHint.ofBytes_eq_ok_iff.mpr isHintToo))

end Unique

section Related

variable {α β : Type} {first second : α → β → Prop}

theorem rel_unique {item : Option α} {value other : Option β}
    (agree : ∀ own ∈ item, ∀ value other, first own value → second own other → value = other)
    (related : Option.Rel first item value) (relatedToo : Option.Rel second item other) :
    value = other := by
  cases related with
  | none =>
    cases relatedToo
    rfl
  | some holds =>
    cases relatedToo with
    | some holdsToo => exact congrArg some (agree _ rfl _ _ holds holdsToo)

theorem forall₂_unique {items : List α} {values others : List β}
    (agree : ∀ own ∈ items, ∀ value other, first own value → second own other → value = other)
    (related : List.Forall₂ first items values) (relatedToo : List.Forall₂ second items others) :
    values = others := by
  induction related generalizing others with
  | nil =>
    cases relatedToo
    rfl
  | cons head _ inductionHypothesis =>
    cases relatedToo with
    | cons headToo tailToo =>
      rw [agree _ List.mem_cons_self _ _ head headToo, inductionHypothesis
        (fun own member => agree own (List.mem_cons_of_mem _ member)) tailToo]

end Related

/-- The same fields say the same, whoever the signer is. Only the payee's key and the signature are
not said by fields, and the human readable part and the timestamp stand before them. -/
theorem Means.eq_of_fields {signer signerToo : Signer} {fields : List Field}
    {wire other : WireInvoice} (small : ∀ field ∈ fields, ∀ symbol ∈ field.payload, symbol < 32)
    (means : Means signer fields wire) (meansToo : Means signerToo fields other)
    (humanPart : wire.humanPart = other.humanPart) (network : wire.network = other.network)
    (amount : wire.amount = other.amount) (timestamp : wire.timestamp = other.timestamp) :
    other = { wire with payeeKey := other.payeeKey, signature := other.signature } := by
  have smallOf {role : Role} {own : Field} (member : own ∈ ofRole role fields) :
      ∀ symbol ∈ own.payload, symbol < 32 := small own (Field.mem_ofRole.mp member).1
  have holdsUnique {role : Role} : ∀ own ∈ (ofRole role fields).head?, ∀ octets others,
      own.Holds octets → own.Holds others → octets = others := fun own first octets others =>
    standFor_unique (smallOf (List.mem_of_head? first))
  have paymentHash := Option.some.inj (rel_unique holdsUnique means.paymentHash
    meansToo.paymentHash)
  have paymentSecret := Option.some.inj (rel_unique holdsUnique means.paymentSecret
    meansToo.paymentSecret)
  have namedKey := rel_unique (fun own first key keyToo names namesToo =>
    holdsUnique own first key keyToo names.1 namesToo.1) means.namedKey meansToo.namedKey
  have description := rel_unique (fun own only value valueToo =>
    describes_unique (smallOf (mem_of_sole only))) means.description meansToo.description
  have routeHints := forall₂_unique (fun own among hint hintToo =>
    leads_unique (smallOf among)) means.routeHints meansToo.routeHints
  have expiry := means.expiry.trans meansToo.expiry.symm
  have cltvDelta := means.minFinalCltvDelta.trans meansToo.minFinalCltvDelta.symm
  have features := means.features.trans meansToo.features.symm
  have setAside := means.setAside.trans meansToo.setAside.symm
  cases wire
  cases other
  simp only at *
  subst humanPart network amount timestamp paymentHash paymentSecret namedKey description
    routeHints expiry cltvDelta features setAside
  rfl

/-! ### The signed message -/

/-- Whatever two texts are decoded, by whatever signers: what is signed for each is there, and if
their human readable parts have the same length and what is signed is the same, then so are the
human readable parts, the symbols before the signatures, and the fields. Then the two requests say
the same but for the signature itself and the key that is found to have made it. -/
theorem decode_of_same_message {signer signerToo : Signer} {strict strictToo : Bool}
    {text textToo : String} {wire other : WireInvoice}
    (decoded : (decode signer strict text).outcome = .ok wire)
    (decodedToo : (decode signerToo strictToo textToo).outcome = .ok other)
    (sameLength : wire.humanPart.length = other.humanPart.length) :
    ∃ symbols symbolsToo fields fieldsToo message messageToo,
      Bech32.decode text = .ok (wire.humanPart, symbols) ∧
      Bech32.decode textToo = .ok (other.humanPart, symbolsToo) ∧
      IsCutInto symbols fields ∧ IsCutInto symbolsToo fieldsToo ∧
      Signature.message wire.humanPart (signedSymbols symbols) = .ok message ∧
      Signature.message other.humanPart (signedSymbols symbolsToo) = .ok messageToo ∧
      (message = messageToo →
        wire.humanPart = other.humanPart ∧
        signedSymbols symbols = signedSymbols symbolsToo ∧
        fields = fieldsToo ∧
        other = { wire with payeeKey := other.payeeKey, signature := other.signature }) := by
  obtain ⟨symbols, contents, parts, -⟩ := isDecoding_of_decode decoded
  obtain ⟨symbolsToo, contentsToo, partsToo, -⟩ := isDecoding_of_decode decodedToo
  obtain ⟨small, fields, cut, -, means⟩ := means_of_isDecoding parts
  obtain ⟨smallToo, fieldsToo, cutToo, -, meansToo⟩ := means_of_isDecoding partsToo
  obtain ⟨read, partRead, -⟩ := openText_eq_ok_iff.mp parts.opened
  obtain ⟨readToo, partReadToo, -⟩ := openText_eq_ok_iff.mp partsToo.opened
  obtain ⟨ascii, -⟩ := Bech32.decode_sound read
  obtain ⟨asciiToo, -⟩ := Bech32.decode_sound readToo
  obtain ⟨packed, isPacked, signed⟩ := Signature.message_eq_ok ascii
    fun symbol member => small symbol (List.mem_of_mem_take member)
  obtain ⟨packedToo, isPackedToo, signedToo⟩ := Signature.message_eq_ok asciiToo
    fun symbol member => smallToo symbol (List.mem_of_mem_take member)
  refine ⟨symbols, symbolsToo, fields, fieldsToo, _, _, read, readToo, cut, cutToo, signed,
    signedToo, fun same => ?_⟩
  obtain ⟨letters, rfl⟩ := List.append_inj same (by
    rw [Signature.length_lettersOf, Signature.length_lettersOf, sameLength])
  have humanPart := Signature.lettersOf_injective ascii asciiToo letters
  have signedSame := signedSymbols_injective small smallToo cut cutToo isPacked isPackedToo
  have fieldsSame := fields_unique cut cutToo signedSame
  refine ⟨humanPart, signedSame, fieldsSame, ?_⟩
  rw [← humanPart, partRead] at partReadToo
  obtain ⟨network, amount⟩ := Prod.mk.inj (Except.ok.inj partReadToo)
  refine means.eq_of_fields (payload_lt_of_isCutInto small cut) (fieldsSame ▸ meansToo) humanPart
    network amount ?_
  -- the timestamp is the head of the symbols that are signed
  have head {symbols : List Nat} (long : timestampLength + Signature.symbolCount ≤ symbols.length) :
      symbols.take timestampLength = (signedSymbols symbols).take timestampLength := by
    rw [signedSymbols, List.take_take, Nat.min_eq_left (by omega)]
  rw [parts.timestamp, partsToo.timestamp, head cut.long, head cutToo.long, signedSame]

/-- Two requests with the same symbols before their signatures, read by signers that find different
keys. -/
theorem decode_of_same_message_resigned :
    let fields : List Field := [⟨'p', List.replicate 52 0⟩, ⟨'d', [12, 4]⟩,
      ⟨'s', List.replicate 52 0⟩, ⟨'q', [3]⟩]
    let symbols (last : Nat) :=
      List.replicate 7 1 ++ fields.flatMap Field.spelling ++ List.replicate 104 last
    let text (last : Nat) :=
      String.ofList (Bech32.write .bech32 "lnbc".toList (symbols last))
    let signer (key : Bytes) : Signer :=
      ⟨fun _ _ _ => .ok false, fun _ _ _ => .ok key, fun _ => .ok true⟩
    ∃ wire other, (decode (signer [1]) true (text 0)).outcome = .ok wire ∧
      (decode (signer [2]) false (text 31)).outcome = .ok other ∧
      other = { wire with payeeKey := other.payeeKey, signature := other.signature } := by
  intro fields symbols text signer
  have opened : openText (text 0) = .ok ("lnbc", symbols 0, .mainnet, none) :=
    openText_without_amount (by decide +kernel) (by decide +kernel)
  have openedToo : openText (text 31) = .ok ("lnbc", symbols 31, .mainnet, none) :=
    openText_without_amount (by decide +kernel) (by decide +kernel)
  have accepted : (decode (signer [1]) true (text 0)).outcome.isOk = true := by
    rw [decode, opened]
    decide +kernel
  have acceptedToo : (decode (signer [2]) false (text 31)).outcome.isOk = true := by
    rw [decode, openedToo]
    decide +kernel
  obtain ⟨wire, decoded⟩ := exists_of_isOk accepted
  obtain ⟨other, decodedToo⟩ := exists_of_isOk acceptedToo
  have humanPart {signer strict last} {wire : WireInvoice}
      (decoded : (decode signer strict (text last)).outcome = .ok wire)
      (opened : openText (text last) = .ok ("lnbc", symbols last, .mainnet, none)) :
      wire.humanPart = "lnbc" := by
    obtain ⟨_, _, parts, -⟩ := isDecoding_of_decode decoded
    exact (Prod.mk.inj (Except.ok.inj (parts.opened.symm.trans opened))).1
  have part := humanPart decoded opened
  have partToo := humanPart decodedToo openedToo
  obtain ⟨received, receivedToo, _, _, message, messageToo, read, readToo, -, -, signed, signedToo,
    same⟩ := decode_of_same_message decoded decodedToo (by rw [part, partToo])
  refine ⟨wire, other, decoded, decodedToo, (same ?_).2.2.2⟩
  rw [(openText_eq_ok_iff.mp opened).1] at read
  rw [(openText_eq_ok_iff.mp openedToo).1] at readToo
  obtain ⟨-, rfl⟩ := Prod.mk.inj (Except.ok.inj read)
  obtain ⟨-, rfl⟩ := Prod.mk.inj (Except.ok.inj readToo)
  have symbolsSame : signedSymbols (symbols 0) = signedSymbols (symbols 31) := by decide +kernel
  rw [part, symbolsSame] at signed
  rw [partToo, signed] at signedToo
  exact Except.ok.inj signedToo

end WireInvoice

end Bolt11
