/-
This file proves that it does not matter how the text of a request is presented.

People pass requests on with blanks around them, behind the scheme of a link, and in capitals. The
scheme and the blanks cannot be taken off any text once and for all: behind one scheme there may be
another one. Off a text that is accepted they can, since that has no blanks in it and its second
letter is an n where the scheme has an i. The case of letters is settled by the text form. From the
lower case of a text that is read the same is read, and from the text in capitals too; the Kelvin
sign, which passes for a capital K, is its own capital and has the lower case of the letter.
-/

import Bolt11.Proofs.Canonical
import Bolt11.Proofs.Grammar
import Bolt11.Proofs.HumanPart
import Bolt11.Proofs.Parsing

namespace Bolt11

/-! ### Blanks -/

namespace Text

/-- Whether a text is not empty and has no blank at either end. -/
structure HasSolidEnds (text : List Char) : Prop where
  first : ∃ c ∈ text.head?, isBlank c = false
  last : ∃ c ∈ text.getLast?, isBlank c = false

theorem hasSolidEnds_of_solid {text : List Char} (nonempty : text ≠ [])
    (solid : ∀ c ∈ text, isBlank c = false) : HasSolidEnds text where
  first := ⟨text.head nonempty, List.head?_eq_some_head nonempty, solid _ (List.head_mem nonempty)⟩
  last := ⟨text.getLast nonempty, List.getLast?_eq_some_getLast nonempty,
    solid _ (List.getLast_mem nonempty)⟩

theorem HasSolidEnds.append {front back : List Char} (frontSolid : HasSolidEnds front)
    (backSolid : HasSolidEnds back) (between : List Char) :
    HasSolidEnds (front ++ (between ++ back)) := by
  obtain ⟨first, isFirst, firstSolid⟩ := frontSolid.first
  obtain ⟨last, isLast, lastSolid⟩ := backSolid.last
  refine ⟨⟨first, ?_, firstSolid⟩, ⟨last, ?_, lastSolid⟩⟩
  · rw [List.head?_append, Option.mem_def.mp isFirst]
    rfl
  · rw [List.getLast?_append, List.getLast?_append, Option.mem_def.mp isLast]
    rfl

/-- A text is what is left of it with blanks around it. -/
theorem trim_between {before text behind : List Char} (ends : HasSolidEnds text)
    (blankBefore : ∀ c ∈ before, isBlank c = true) (blankBehind : ∀ c ∈ behind, isBlank c = true) :
    trim (before ++ (text ++ behind)) = text := by
  obtain ⟨first, isFirst, firstSolid⟩ := ends.first
  obtain ⟨last, isLast, lastSolid⟩ := ends.last
  have fromHere : ∀ c ∈ (text ++ behind).head?, isBlank c = false := by
    rw [List.head?_append, Option.mem_def.mp isFirst]
    rintro c ⟨⟩
    exact firstSolid
  have toHere : ∀ c ∈ text.reverse.head?, isBlank c = false := by
    rw [List.head?_reverse, Option.mem_def.mp isLast]
    rintro c ⟨⟩
    exact lastSolid
  have blankBackwards : ∀ c ∈ behind.reverse, isBlank c = true := fun c member =>
    blankBehind c (List.mem_reverse.mp member)
  rw [trim, trimBy, List.dropWhile_append_of_pos blankBefore, dropWhile_of_head fromHere,
    List.reverse_append, List.dropWhile_append_of_pos blankBackwards, dropWhile_of_head toHere,
    List.reverse_reverse]

end Text

/-! ### Letters of either case -/

namespace Bech32

/-- A text that is read has no blanks. -/
theorem solid_of_read {anyLength : Bool} {text humanPart : List Char} {variant : Variant}
    {symbols : List Nat} (accepted : read anyLength text = some (variant, humanPart, symbols)) :
    ∀ c ∈ text, Text.isBlank c = false := by
  obtain ⟨before, after, all, reading, rfl, rfl⟩ := read_eq_some_iff.mp accepted
  have plain := plain_of_isFormatted reading.isFormatted
  rw [withLatinK_eq_map reading.cut reading.ascii] at plain
  intro c member
  rcases Text.latin_cases (reading.latin c member) with rfl | ⟨-, same⟩
  · decide
  · exact Text.isBlank_of_isPlain (same ▸ plain _ (List.mem_map_of_mem member))

/-- What is read from a text is read from its lower case. -/
theorem read_lower {text humanPart : List Char} {variant : Variant} {symbols : List Nat}
    (accepted : read true text = some (variant, humanPart, symbols)) :
    read true (Text.lower text) = some (variant, humanPart, symbols) := by
  rw [← write_eq_lower accepted]
  exact read_write (isHumanPart_of_read accepted) variant (read_sound accepted).2

/-- What is read from a text is read from it in capitals. -/
theorem read_upper {text humanPart : List Char} {variant : Variant} {symbols : List Nat}
    (accepted : read true text = some (variant, humanPart, symbols)) :
    read true (Text.upper text) = some (variant, humanPart, symbols) := by
  obtain ⟨before, after, all, reading, rfl, rfl⟩ := read_eq_some_iff.mp accepted
  have capitals : Text.upper text = before.map Char.toUpper ++ '1' :: after.map Char.toUpper := by
    rw [Text.upper_of_latin reading.latin, reading.text_eq, List.map_append, List.map_cons]
    rfl
  have plainUpper : ∀ c : Char, c.toNat < 0x80 → isPlain c = true → isPlain c.toUpper = true :=
    Text.forall_ascii (by decide)
  have separator : ∀ c : Char, c.toNat < 0x80 → c.toUpper = '1' → c = '1' :=
    Text.forall_ascii (by decide)
  have latinUpper : ∀ c ∈ Text.upper text, (Text.latinK c).toNat < 0x80 := by
    rw [Text.upper_of_latin reading.latin]
    exact List.forall_mem_map.mpr fun c member => (Text.toUpper_of_latin (reading.latin c member)).1
  have lowerUpper {part : List Char} (latin : ∀ c ∈ part, (Text.latinK c).toNat < 0x80) :
      Text.lower (part.map Char.toUpper) = Text.lower part := by
    rw [Text.lower_of_latin latin, Text.lower_of_latin (List.forall_mem_map.mpr fun c member =>
      (Text.toUpper_of_latin (latin c member)).1), List.map_map]
    exact List.map_congr_left fun c member => (Text.toUpper_of_latin (latin c member)).2.1
  have latinBefore : ∀ c ∈ before, (Text.latinK c).toNat < 0x80 := fun c member =>
    reading.latin c (by
      rw [reading.text_eq]
      exact List.mem_append_left _ member)
  refine read_eq_some_iff.mpr ⟨before.map Char.toUpper, after.map Char.toUpper, all, {
    unmixed := by
      have twice : Text.upper (Text.upper text) = Text.upper text := by
        rw [Text.upper_of_latin latinUpper, Text.upper_of_latin reading.latin, List.map_map]
        exact List.map_congr_left fun c member =>
          (Text.toUpper_of_latin (reading.latin c member)).2.2
      rw [isMixed, twice, bne_self_eq_false, Bool.and_false]
    cut := by
      rw [capitals]
      refine Text.splitLast_append _ fun member => ?_
      obtain ⟨c, among, same⟩ := List.mem_map.mp member
      rcases Text.latin_cases (reading.latin_after c among) with rfl | ⟨ascii, -⟩
      · exact absurd same (by decide)
      · obtain rfl := separator c ascii same
        exact (Text.splitLast_eq_some_iff.mp reading.cut).2 among
    present := fun nothing => reading.present (List.map_eq_nil_iff.mp nothing)
    long := by
      rw [List.length_map]
      exact reading.long
    short := .inl rfl
    plain := List.forall_mem_map.mpr fun c member =>
      plainUpper c (reading.ascii c member) (reading.plain c member)
    letters := by
      rw [lowerUpper reading.latin_after]
      exact reading.letters
    verified := by
      rw [lowerUpper latinBefore]
      exact reading.verified }, (lowerUpper latinBefore).symm, rfl⟩

end Bech32

/-! ### Texts that are opened -/

namespace WireInvoice

/-- How a text is opened depends on nothing but what is read from it. -/
theorem openText_congr {text other : String} (same : Bech32.decode text = Bech32.decode other) :
    openText text = openText other := by
  rw [openText, openText, same]

theorem decode_congr {text other : String} (same : Bech32.decode text = Bech32.decode other)
    (signer : Signer) (strict : Bool) : decode signer strict text = decode signer strict other := by
  rw [decode, decode, openText_congr same]

/-- A text that is decoded is read, and the human readable part of it begins with ln. -/
theorem read_of_decode {signer : Signer} {strict : Bool} {text : String} {wire : WireInvoice}
    (decoded : (decode signer strict text).outcome = .ok wire) :
    ∃ tail symbols, Bech32.read true text.toList = some (.bech32, 'l' :: 'n' :: tail, symbols) := by
  obtain ⟨symbols, contents, parts, -⟩ := isDecoding_of_decode decoded
  obtain ⟨read, partRead, -⟩ := openText_eq_ok_iff.mp parts.opened
  obtain ⟨tail, marked⟩ := HumanPart.exists_mark_of_read partRead
  exact ⟨tail, symbols, marked ▸ Bech32.decode_eq_ok_iff.mp read⟩

end WireInvoice

namespace Invoice

/-! ### The scheme -/

/-- The scheme of a link in letters of either case. -/
def IsScheme (scheme : List Char) : Prop := scheme.map Char.toLower = "lightning:".toList

theorem dropScheme_append {scheme : List Char} (isScheme : IsScheme scheme) (rest : List Char) :
    dropScheme (scheme ++ rest) = rest := by
  have length : "lightning:".toList.length = scheme.length := by
    rw [← isScheme, List.length_map]
  have matching : ∀ letters : List Char,
      ((letters.map Char.toLower).zip letters).all (fun pair => isLetter pair.1 pair.2) = true := by
    intro letters
    induction letters with
    | nil => rfl
    | cons c others inductionHypothesis =>
      rw [List.map_cons, List.zip_cons_cons, List.all_cons, inductionHypothesis]
      simp [isLetter]
  have whole := matching scheme
  rw [isScheme] at whole
  simp only [dropScheme, length, List.take_left, List.drop_left, whole, beq_self_eq_true,
    Bool.and_self, if_true]

theorem hasSolidEnds_of_isScheme {scheme : List Char} (isScheme : IsScheme scheme) :
    Text.HasSolidEnds scheme := by
  have plain : "lightning:".toList.all Bech32.isPlain = true := by decide
  refine Text.hasSolidEnds_of_solid ?_ fun c member => Text.isBlank_of_isPlain ?_
  · rintro rfl
    cases isScheme
  · exact Bech32.plain_of_toLower
      (List.all_eq_true.mp plain _ (isScheme ▸ List.mem_map_of_mem member))

/-! ### Texts that are parsed -/

/-- A text of a request as it stands: it has no blanks, and it begins with two letters, of which the
second is not that of the scheme. -/
structure IsBare (text : List Char) : Prop where
  solid : ∀ c ∈ text, Text.isBlank c = false
  marked : ∃ first second rest, text = first :: second :: rest ∧ isLetter 'i' second = false

theorem isBare_of_read {text tail : List Char} {symbols : List Nat}
    (accepted : Bech32.read true text = some (.bech32, 'l' :: 'n' :: tail, symbols)) :
    IsBare text := by
  refine ⟨Bech32.solid_of_read accepted, ?_⟩
  obtain ⟨before, after, all, reading, head, -⟩ := Bech32.read_eq_some_iff.mp accepted
  rw [Text.lower_of_ascii reading.ascii] at head
  obtain ⟨first, others, rfl, -, head⟩ := List.map_eq_cons_iff.mp head.symm
  obtain ⟨second, rest, rfl, lower, -⟩ := List.map_eq_cons_iff.mp head
  refine ⟨first, second, rest ++ '1' :: after, reading.text_eq, ?_⟩
  have ascii : second.toNat < 0x80 :=
    reading.ascii second (List.mem_cons_of_mem _ List.mem_cons_self)
  rw [isLetter, lower]
  simp only [Bool.or_eq_false_iff, Bool.and_eq_false_iff, beq_eq_false_iff_ne]
  exact ⟨by decide, .inr ⟨by omega, by omega⟩⟩

/-- Blanks and the scheme around a bare text are taken off. -/
theorem normalize_presented {own : String} (bare : IsBare own.toList)
    {outer scheme inner behind : List Char}
    (blank : ∀ c ∈ outer ++ inner ++ behind, Text.isBlank c = true)
    (isScheme : scheme = [] ∨ IsScheme scheme) :
    normalize (some (String.ofList (outer ++ scheme ++ inner ++ own.toList ++ behind))) =
      .ok own := by
  obtain ⟨first, second, rest, whole, other⟩ := bare.marked
  have nonempty : own.toList ≠ [] := by simp [whole]
  have ends := Text.hasSolidEnds_of_solid nonempty bare.solid
  have kept : dropScheme own.toList = own.toList := by
    rw [whole]
    exact dropScheme_of_second other rest
  simp only [List.forall_mem_append] at blank
  obtain ⟨⟨blankOuter, blankInner⟩, blankBehind⟩ := blank
  have bareTrimmed : Text.trim own.toList = own.toList := Text.trimBy_of_solid bare.solid
  rcases isScheme with rfl | isScheme
  · have trimmed : Text.trim (outer ++ [] ++ inner ++ own.toList ++ behind) = own.toList := by
      rw [List.append_nil, List.append_assoc]
      exact Text.trim_between ends (List.forall_mem_append.mpr ⟨blankOuter, blankInner⟩) blankBehind
    simp only [normalize, String.toList_ofList, trimmed, kept, bareTrimmed, String.ofList_toList]
    rw [if_neg (by simpa using nonempty)]
  · have schemeEnds := hasSolidEnds_of_isScheme isScheme
    have trimmed : Text.trim (outer ++ scheme ++ inner ++ own.toList ++ behind) =
        scheme ++ (inner ++ own.toList) := by
      have inside := Text.trim_between (schemeEnds.append ends inner) blankOuter blankBehind
      simpa only [List.append_assoc] using inside
    have rest : Text.trim (inner ++ own.toList) = own.toList := by
      have inside : Text.trim (inner ++ (own.toList ++ [])) = own.toList :=
        Text.trim_between ends blankInner (by simp)
      rwa [List.append_nil] at inside
    simp only [normalize, String.toList_ofList, trimmed, dropScheme_append isScheme, rest,
      String.ofList_toList]
    rw [if_neg (by simp [nonempty])]

section Parsed

variable {signer : Signer} {inUse : Network} {settings : Option Settings}

/-- A text from which the same is read as from one that is parsed is parsed with the same result but
for the text, whatever blanks stand around it and whether or not it has a scheme. -/
theorem parse_presented [Runtime] {strict : Bool} (known : strictness inUse settings = .ok strict)
    {own other : String} {wire : WireInvoice}
    (decoded : (WireInvoice.decode signer strict own).outcome = .ok wire)
    (same : Bech32.decode other = Bech32.decode own) {outer scheme inner behind : List Char}
    (blank : ∀ c ∈ outer ++ inner ++ behind, Text.isBlank c = true)
    (isScheme : scheme = [] ∨ IsScheme scheme) :
    (parse signer inUse settings
        (some (String.ofList (outer ++ scheme ++ inner ++ other.toList ++ behind)))).outcome =
      .ok (ofWire wire other) := by
  rw [← WireInvoice.decode_congr same] at decoded
  obtain ⟨tail, symbols, accepted⟩ := WireInvoice.read_of_decode decoded
  have bare := isBare_of_read accepted
  refine parse_eq_ok_iff.mpr ⟨other, strict, wire, normalize_presented bare blank isScheme, ?_,
    known, decoded, rfl⟩
  rintro rfl
  obtain ⟨first, second, rest, whole, -⟩ := bare.marked
  cases whole

/-- An invoice that comes from a text comes from its own text as well, from that text with blanks
around it and with the scheme of a link in letters of either case before it, and, but for the text
that it carries, from that text in lower case and in capitals. -/
theorem parse_however_presented [Runtime] {text : Option String} {invoice : Invoice}
    (parsed : (parse signer inUse settings text).outcome = .ok invoice) :
    ∃ own : String, invoice.text = .text own ∧
      (parse signer inUse settings (some own)).outcome = .ok invoice ∧
      (∀ outer scheme inner behind : List Char,
        (∀ c ∈ outer ++ inner ++ behind, Text.isBlank c = true) →
        (scheme = [] ∨ scheme.map Char.toLower = "lightning:".toList) →
        (parse signer inUse settings
            (some (String.ofList (outer ++ scheme ++ inner ++ own.toList ++ behind)))).outcome =
          .ok invoice) ∧
      ∀ recased ∈ [String.ofList (Text.lower own.toList), String.ofList (Text.upper own.toList)],
        (parse signer inUse settings (some recased)).outcome =
          .ok { invoice with text := .text recased } := by
  obtain ⟨own, strict, wire, -, -, known, decoded, rfl⟩ := parse_eq_ok_iff.mp parsed
  have plainly {other : String} (same : Bech32.decode other = Bech32.decode own) :
      (parse signer inUse settings (some other)).outcome = .ok (ofWire wire other) := by
    have presented : (parse signer inUse settings
          (some (String.ofList ([] ++ [] ++ [] ++ other.toList ++ [])))).outcome =
        .ok (ofWire wire other) := parse_presented known decoded same (by simp) (.inl rfl)
    simpa using presented
  obtain ⟨tail, symbols, accepted⟩ := WireInvoice.read_of_decode decoded
  have alike {other : List Char}
      (again : Bech32.read true other = some (.bech32, 'l' :: 'n' :: tail, symbols)) :
      Bech32.decode (String.ofList other) = Bech32.decode own := by
    rw [Bech32.decode, Bech32.decode, String.toList_ofList, again, accepted]
  refine ⟨own, rfl, plainly rfl, fun outer scheme inner behind blank isScheme =>
    parse_presented known decoded rfl blank isScheme, fun recased member => ?_⟩
  rcases List.mem_pair.mp member with rfl | rfl
  · exact plainly (alike (Bech32.read_lower accepted))
  · exact plainly (alike (Bech32.read_upper accepted))

end Parsed

/-- A request behind a scheme with blanks around it, and the same request in capitals. -/
theorem parse_however_presented_of_link :
    let fields : List Field := [⟨'p', List.replicate 52 0⟩, ⟨'d', [12, 4]⟩,
      ⟨'s', List.replicate 52 0⟩]
    let symbols := List.replicate 7 1 ++ fields.flatMap Field.spelling ++ List.replicate 104 22
    let own := String.ofList (Bech32.write .bech32 "lnbc".toList symbols)
    let signer : Signer := ⟨fun _ _ _ => .ok false, fun _ _ _ => .ok [1], fun _ => .ok true⟩
    ∃ invoice, (parse signer .mainnet none (some own)).outcome = .ok invoice ∧
      (parse signer .mainnet none (some (String.ofList ("\n".toList ++ "LightNING:".toList ++
        " \t".toList ++ own.toList ++ [Char.ofNat 0xA0])))).outcome = .ok invoice ∧
      (parse signer .mainnet none (some (String.ofList (Text.upper own.toList)))).outcome =
        .ok { invoice with text := .text (String.ofList (Text.upper own.toList)) } := by
  intro fields symbols own signer
  have small : ∀ symbol ∈ symbols, symbol < 32 := by decide +kernel
  have writable : Bech32.IsHumanPart "lnbc".toList := HumanPart.isHumanPart_form .mainnet none
  have opened : WireInvoice.openText own = .ok ("lnbc", symbols, .mainnet, none) :=
    WireInvoice.openText_without_amount small (by decide +kernel)
  have accepted : (WireInvoice.decode signer false own).outcome.isOk = true := by
    rw [WireInvoice.decode, opened]
    decide +kernel
  obtain ⟨wire, decoded⟩ := exists_of_isOk accepted
  have parsed : (parse signer .mainnet none (some own)).outcome = .ok (ofWire wire own) :=
    parse_write writable small decoded
  obtain ⟨text, isOwn, -, presented, recased⟩ := parse_however_presented parsed
  obtain rfl : own = text := Datum.text.inj isOwn
  have blank : ("\n".toList ++ " \t".toList ++ [Char.ofNat 0xA0]).all Text.isBlank = true := by
    decide
  exact ⟨_, parsed, presented _ _ _ _ (List.all_eq_true.mp blank) (.inr (by decide)),
    recased _ (List.mem_cons_of_mem _ List.mem_cons_self)⟩

end Invoice

end Bolt11
