/-
This file says what an invoice that comes from a text is like.

It is the decoded request of the normalized text, and a text that was just written is in its normal
form already. Such an invoice is better than one that comes from a document: its payment hash is in
hexadecimal, it has a payment secret, and its description, if it has one, is in the clear or a hash.
Whoever encodes it again relies on this.
-/

import Bolt11.Invoice
import Bolt11.Proofs.Meaning
import Bolt11.Proofs.Octets

namespace Bolt11

/-! ### Texts that are normal already -/

namespace Text

theorem isBlank_of_isPlain {c : Char} (plain : Bech32.isPlain c = true) : isBlank c = false := by
  simp only [Bech32.isPlain, Bool.and_eq_true, decide_eq_true_eq] at plain
  simp only [isBlank, Bool.or_eq_false_iff, Bool.and_eq_false_iff, decide_eq_false_iff_not,
    beq_eq_false_iff_ne]
  omega

end Text

namespace Bech32

/-- A written text has no blanks. -/
theorem write_solid {humanPart : List Char} (writable : IsHumanPart humanPart) (variant : Variant)
    {symbols : List Nat} (small : ∀ symbol ∈ symbols, symbol < 32) :
    ∀ c ∈ write variant humanPart symbols, Text.isBlank c = false := by
  refine forall_mem_write variant small ?_ (by decide) ?_
  · intro c member
    exact Text.isBlank_of_isPlain (writable.plain c member)
  · intro symbol inside
    exact (letter_facts symbol inside).2.2.2.2

end Bech32

/-! ### Descriptions that were read -/

namespace Description

/-- Whether a description was read from a request, and not carried along from a document. -/
def IsRead : Description → Prop
  | plain _ => True
  | hashed _ => True
  | unread _ => False

end Description

namespace WireInvoice

/-- The description of a decoded request was read. -/
theorem isRead_of_decode {signer : Signer} {strict : Bool} {text : String} {wire : WireInvoice}
    (decoded : (decode signer strict text).outcome = .ok wire) :
    ∀ description ∈ wire.description, description.IsRead := by
  obtain ⟨symbols, contents, parts, -⟩ := isDecoding_of_decode decoded
  obtain ⟨-, fields, -, -, means⟩ := means_of_isDecoding parts
  intro description said
  obtain ⟨field, -, describes⟩ := means.exists_describes said
  cases description with
  | plain text => trivial
  | hashed digest => trivial
  | unread value => exact describes.elim

end WireInvoice

/-! ### Invoices that were read -/

namespace Invoice

/-- A text with another second letter does not begin with the scheme of a link. -/
theorem dropScheme_of_second {first second : Char} (other : isLetter 'i' second = false)
    (rest : List Char) : dropScheme (first :: second :: rest) = first :: second :: rest := by
  unfold dropScheme
  simp [other]

/-- A text in its normal form: it begins with ln and holds no blank. -/
theorem normalize_of_solid {rest : List Char}
    (solid : ∀ c ∈ 'l' :: 'n' :: rest, Text.isBlank c = false) :
    normalize (some (String.ofList ('l' :: 'n' :: rest))) =
      .ok (String.ofList ('l' :: 'n' :: rest)) := by
  have trimmed : Text.trim ('l' :: 'n' :: rest) = 'l' :: 'n' :: rest :=
    Text.trimBy_of_solid solid
  have kept : dropScheme ('l' :: 'n' :: rest) = 'l' :: 'n' :: rest :=
    dropScheme_of_second (by decide) rest
  rw [normalize, String.toList_ofList]
  simp only [trimmed, kept, List.isEmpty_cons, Bool.false_eq_true, if_false]

/-- A text that is written in the text form for a human readable part that begins with ln is in its
normal form. -/
theorem normalize_write {tail : List Char} (writable : Bech32.IsHumanPart ('l' :: 'n' :: tail))
    {symbols : List Nat} (small : ∀ symbol ∈ symbols, symbol < 32) :
    normalize (some (String.ofList (Bech32.write .bech32 ('l' :: 'n' :: tail) symbols))) =
        .ok (String.ofList (Bech32.write .bech32 ('l' :: 'n' :: tail) symbols)) ∧
      String.ofList (Bech32.write .bech32 ('l' :: 'n' :: tail) symbols) ≠ "" := by
  have solid := Bech32.write_solid writable .bech32 small
  rw [Bech32.write, List.cons_append, List.cons_append] at solid ⊢
  refine ⟨normalize_of_solid solid, ?_⟩
  intro empty
  have letters := congrArg String.toList empty
  rw [String.toList_ofList] at letters
  cases letters

/-- A text is parsed if the normalized text is there and decoded. -/
theorem parse_eq_ok_iff [Runtime] {signer : Signer} {inUse : Network} {settings : Option Settings}
    {text : Option String} {invoice : Invoice} :
    (parse signer inUse settings text).outcome = .ok invoice ↔
      ∃ normalized strict wire, normalize text = .ok normalized ∧ normalized ≠ "" ∧
        strictness inUse settings = .ok strict ∧
        (WireInvoice.decode signer strict normalized).outcome = .ok wire ∧
        invoice = ofWire wire normalized := by
  unfold parse
  constructor
  · intro parsed
    obtain ⟨normalized, isNormalized, parsed⟩ := Traced.bind_outcome_ok_iff.mp parsed
    split at parsed
    · cases parsed
    rename_i nonempty
    obtain ⟨strict, known, parsed⟩ := Traced.bind_outcome_ok_iff.mp parsed
    obtain ⟨wire, decoded, parsed⟩ := Traced.bind_outcome_ok_iff.mp parsed
    obtain ⟨_, -, done⟩ := Traced.bind_outcome_ok_iff.mp parsed
    exact ⟨normalized, strict, wire, isNormalized, nonempty, known, decoded,
      (Except.ok.inj done).symm⟩
  · rintro ⟨normalized, strict, wire, isNormalized, nonempty, known, decoded, rfl⟩
    refine Traced.bind_outcome_ok_iff.mpr ⟨normalized, isNormalized, ?_⟩
    rw [if_neg nonempty]
    refine Traced.bind_outcome_ok_iff.mpr ⟨strict, known, ?_⟩
    refine Traced.bind_outcome_ok_iff.mpr ⟨wire, decoded, ?_⟩
    exact Traced.bind_outcome_ok_iff.mpr ⟨(), rfl, rfl⟩

/-- A text that was just written is parsed as it is decoded. -/
theorem parse_write [Runtime] {signer : Signer} {inUse : Network} {tail : List Char}
    (writable : Bech32.IsHumanPart ('l' :: 'n' :: tail)) {symbols : List Nat}
    (small : ∀ symbol ∈ symbols, symbol < 32) {wire : WireInvoice}
    (decoded : (WireInvoice.decode signer false
      (String.ofList (Bech32.write .bech32 ('l' :: 'n' :: tail) symbols))).outcome = .ok wire) :
    (parse signer inUse none
        (some (String.ofList (Bech32.write .bech32 ('l' :: 'n' :: tail) symbols)))).outcome =
      .ok (ofWire wire (String.ofList (Bech32.write .bech32 ('l' :: 'n' :: tail) symbols))) := by
  obtain ⟨isNormal, nonempty⟩ := normalize_write writable small
  exact parse_eq_ok_iff.mpr ⟨_, false, wire, isNormal, nonempty, rfl, decoded, rfl⟩

/-- What an invoice that comes from a text has, and an invoice in general need not have. -/
structure IsRead (invoice : Invoice) : Prop where
  paymentHash : ∃ octets, invoice.paymentHash.toBytes = .ok octets ∧
    invoice.paymentHash = .text (Text.hexOf octets)
  paymentSecret : invoice.paymentSecret.isSome
  description : ∀ description ∈ invoice.description, description.IsRead

theorem isRead_of_parse [Runtime] {signer : Signer} {inUse : Network} {settings : Option Settings}
    {text : Option String} {invoice : Invoice}
    (parsed : (parse signer inUse settings text).outcome = .ok invoice) : invoice.IsRead := by
  obtain ⟨normalized, strict, wire, -, -, -, decoded, rfl⟩ := parse_eq_ok_iff.mp parsed
  refine ⟨⟨wire.paymentHash, ?_, rfl⟩, rfl, WireInvoice.isRead_of_decode decoded⟩
  simp only [ofWire, Datum.toBytes, Text.readHex_hexOf]

end Invoice

end Bolt11
