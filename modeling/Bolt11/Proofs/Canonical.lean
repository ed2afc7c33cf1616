/-
This file proves that a text and what is read from it determine each other, but for the case of
letters.

In one direction nothing is lost: whatever the human readable part holds, separators and digits
among it, and however many symbols there are, reading gives back what was written. In the other
direction nothing can be added: the symbols that are read are followed by the one checksum that
they can have, so writing them again gives the text that was read, in lower case. The lower case of
the whole is taken part by part, which is right even for the one character beyond ASCII that a
text can hold.
-/

import Bolt11.Proofs.Bech32

namespace Bolt11.Bech32

/-! ### From the parts to the text -/

/-- A human readable part and symbols have a text of either variant and of any length that is read
as just these, and the text of the payment request is decoded to them. -/
theorem read_written {humanPart : String} (writable : IsHumanPart humanPart.toList)
    {symbols : List Nat} (small : ∀ symbol ∈ symbols, symbol < 32) :
    (∀ variant, ∃ text,
        writeInts variant humanPart.toList (symbols.map Int.ofNat) = .ok text ∧
          read true text = some (variant, humanPart.toList, symbols)) ∧
      ∃ text, encode humanPart (symbols.map Int.ofNat) = .ok text ∧
        decode text = .ok (humanPart, symbols) := by
  constructor
  · intro variant
    exact ⟨_, writeInts_natCast variant humanPart.toList small, read_write writable variant small⟩
  · obtain ⟨encoded, decoded⟩ := decode_encode writable small
    exact ⟨_, encoded, decoded⟩

/-- A human readable part that holds the separator twice, before all thirty-two symbols. -/
theorem read_written_two_separators :
    (∀ variant, ∃ text,
        writeInts variant "x1y1".toList ((List.range 32).map Int.ofNat) = .ok text ∧
          read true text = some (variant, "x1y1".toList, List.range 32)) ∧
      ∃ text, encode "x1y1" ((List.range 32).map Int.ofNat) = .ok text ∧
        decode text = .ok ("x1y1", List.range 32) := by
  have fit : ∀ c ∈ "x1y1".toList, isPlain c = true ∧ c.toLower = c := plain_of_all (by decide)
  exact read_written ⟨by decide, fun c member => (fit c member).1, fun c member => (fit c member).2⟩
    fun _ member => List.mem_range.mp member

/-! ### From the text to the parts -/

namespace IsReading

variable {anyLength : Bool} {text before after : List Char} {variant : Variant}
  {symbols : List Nat} (reading : IsReading anyLength text variant before after symbols)

include reading

/-- The lower case of a text that is read: that of its human readable part, the separator, and the
characters of its symbols. -/
theorem lower_text :
    Text.lower text = Text.lower before ++ '1' :: symbols.map letter := by
  have head : ∀ c ∈ before, (Text.latinK c).toNat < 0x80 := fun c member =>
    reading.latin c (by
      rw [reading.text_eq]
      exact List.mem_append_left _ member)
  have separator : (Text.latinK '1').toLower = '1' := by decide
  rw [Text.lower_of_latin reading.latin, reading.text_eq, List.map_append, List.map_cons,
    separator, ← Text.lower_of_latin head, ← Text.lower_of_latin reading.latin_after,
    reading.lower_after]

/-- The symbols of a text that is read end with the checksum of those before. -/
theorem symbols_eq :
    symbols = symbols.take (symbols.length - 6) ++
      checksum variant (Text.lower before) (symbols.take (symbols.length - 6)) := by
  have long : 6 ≤ symbols.length := reading.length_symbols ▸ reading.long
  have six : (symbols.drop (symbols.length - 6)).length = 6 := by
    rw [List.length_drop]
    omega
  have verified := reading.verified
  rw [← List.take_append_drop (symbols.length - 6) symbols] at verified
  have check := (verify_append_iff variant (Text.lower before)
    (fun symbol member => reading.small symbol (List.mem_of_mem_take member)) six
    (fun symbol member => reading.small symbol (List.mem_of_mem_drop member))).mp verified
  rw [← check, List.take_append_drop]

end IsReading

/-- Writing what was read gives the text again, in lower case. -/
theorem write_eq_lower {anyLength : Bool} {text humanPart : List Char} {variant : Variant}
    {symbols : List Nat} (accepted : read anyLength text = some (variant, humanPart, symbols)) :
    write variant humanPart symbols = Text.lower text := by
  obtain ⟨before, after, all, reading, rfl, rfl⟩ := read_eq_some_iff.mp accepted
  rw [write, ← reading.symbols_eq, reading.lower_text]

/-- Whatever text is read, with or without the limit of length: writing what was read gives its
lower case. Texts that are read alike have therefore one lower case, and no six symbols but the
checksum could stand behind the others. -/
theorem write_of_read {anyLength : Bool} {text humanPart : List Char} {variant : Variant}
    {symbols : List Nat} (accepted : read anyLength text = some (variant, humanPart, symbols)) :
    writeInts variant humanPart (symbols.map Int.ofNat) = .ok (Text.lower text) ∧
      (∀ otherLength other,
        read otherLength other = some (variant, humanPart, symbols) →
          Text.lower other = Text.lower text) ∧
      ∀ check : List Nat, check.length = 6 → (∀ symbol ∈ check, symbol < 32) →
        verify humanPart (symbols ++ check) = some variant →
          check = checksum variant humanPart symbols := by
  have small := (read_sound accepted).2
  refine ⟨?_, ?_, ?_⟩
  · rw [writeInts_natCast variant humanPart small, write_eq_lower accepted]
  · intro otherLength other alike
    rw [← write_eq_lower alike, write_eq_lower accepted]
  · intro check six checkSmall verified
    exact (verify_append_iff variant humanPart small six checkSmall).mp verified

/-- A text in upper case with a Kelvin sign, which goes to the letter k. -/
theorem write_of_read_kelvin :
    let text := "LN1".toList ++ Text.kelvinSign :: "FUKXAZ".toList
    read false text = some (.bech32, "ln".toList, [22]) ∧
      writeInts .bech32 "ln".toList [22] = .ok (Text.lower text) := by
  intro text
  have accepted : read false text = some (.bech32, "ln".toList, [22]) := by decide +kernel
  exact ⟨accepted, (write_of_read accepted).1⟩

end Bolt11.Bech32
