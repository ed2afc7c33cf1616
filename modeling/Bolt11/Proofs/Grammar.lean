/-
This file proves which texts are read: those of the format, and besides them texts that would be of
the format if a Kelvin sign were the letter K.

The format allows letters of one case, printable ASCII before the last separator, and behind it
characters of the alphabet that end with a good checksum. The reader looks characters of the data
part up only after it has put them into lower case, and that map knows more characters than ASCII.
All but one of them keep something beyond ASCII and are refused. The Kelvin sign goes to the letter
k and counts as upper case, so in the data part of a text in upper case it is taken for a K.
-/

import Bolt11.Proofs.Bech32

namespace Bolt11.Bech32

/-! ### The format -/

/-- What the format asks of a text that is cut at a separator: all letters are of one case; before
the separator there is printable ASCII; behind it there are six characters or more, which are in
lower case those of symbols of five bits; and with these symbols the register comes to the residue
of the variant. -/
structure IsCutText (variant : Variant) (before after : List Char) (symbols : List Nat) :
    Prop where
  oneCase : (∀ c ∈ before ++ '1' :: after, c.isUpper = false) ∨
    ∀ c ∈ before ++ '1' :: after, c.isLower = false
  present : before ≠ []
  plain : ∀ c ∈ before, isPlain c = true
  long : 6 ≤ after.length
  small : ∀ symbol ∈ symbols, symbol < 32
  letters : after.map Char.toLower = symbols.map letter
  checked : polymod (expand (before.map Char.toLower) ++ symbols) = variant.residue

/-- A text of the format: it is cut at its last separator. -/
def IsFormatted (variant : Variant) (text : List Char) : Prop :=
  ∃ before after symbols, text = before ++ '1' :: after ∧ '1' ∉ after ∧
    IsCutText variant before after symbols

/-- A text with the letter K for every Kelvin sign behind its last separator. -/
def withLatinK (text : List Char) : List Char :=
  match Text.splitLast '1' text with
  | none => text
  | some (before, after) => before ++ '1' :: after.map Text.latinK

/-- A text that is read for one of the format: it is of the format, or it has a Kelvin sign and is
of the format once that is the letter K. -/
def PassesFor (variant : Variant) (text : List Char) : Prop :=
  IsFormatted variant text ∨
    (Text.kelvinSign ∈ text ∧ IsFormatted variant (withLatinK text))

theorem withLatinK_of_absent {text : List Char} (absent : Text.kelvinSign ∉ text) :
    withLatinK text = text := by
  unfold withLatinK
  split
  · rfl
  · rename_i before after cut
    have same := (Text.splitLast_eq_some_iff.mp cut).1
    have own : ∀ c ∈ after, Text.latinK c = c := fun c member => Text.latinK_of_ne fun kelvin =>
      absent (by
        rw [same, ← kelvin]
        exact List.mem_append_right _ (List.mem_cons_of_mem _ member))
    rw [Text.map_eq_self_iff.mpr own, ← same]

/-- If there is no other character beyond ASCII before the last separator, every Kelvin sign is
behind it. -/
theorem withLatinK_eq_map {text before after : List Char}
    (cut : Text.splitLast '1' text = some (before, after)) (ascii : ∀ c ∈ before, c.toNat < 0x80) :
    withLatinK text = text.map Text.latinK := by
  have own : before.map Text.latinK = before :=
    Text.map_eq_self_iff.mpr fun c member => Text.latinK_of_ascii (ascii c member)
  have separator : Text.latinK '1' = '1' := by decide
  simp only [withLatinK, cut]
  rw [(Text.splitLast_eq_some_iff.mp cut).1, List.map_append, List.map_cons, own, separator]

theorem absent_map_latinK {text : List Char} (absent : '1' ∉ text) :
    '1' ∉ text.map Text.latinK := by
  intro member
  obtain ⟨c, among, same⟩ := List.mem_map.mp member
  by_cases kelvin : c = Text.kelvinSign
  · rw [kelvin] at same
    exact absurd same (by decide)
  · rw [Text.latinK_of_ne kelvin] at same
    exact absent (same ▸ among)

/-! ### Characters of the format -/

/-- A character with the lower case of one of printable ASCII is in printable ASCII itself. -/
theorem plain_of_toLower {c : Char} (plain : isPlain c.toLower = true) : isPlain c = true := by
  have ofAscii : ∀ c : Char, c.toNat < 0x80 → isPlain c.toLower = true → isPlain c = true :=
    Text.forall_ascii (by decide)
  by_cases ascii : c.toNat < 0x80
  · exact ofAscii c ascii plain
  · have own : c.toLower = c := Text.toLower_of_beyond (Nat.not_lt.mp ascii)
    rwa [own] at plain

namespace IsCutText

variable {variant : Variant} {before after : List Char} {symbols : List Nat}
  (formatted : IsCutText variant before after symbols)

include formatted

theorem plain_after : ∀ c ∈ after, isPlain c = true := by
  have alphabet : ∀ symbol < 32, isPlain (letter symbol) = true := by decide
  intro c member
  have lowered : c.toLower ∈ symbols.map letter :=
    formatted.letters ▸ List.mem_map_of_mem member
  obtain ⟨symbol, among, same⟩ := List.mem_map.mp lowered
  exact plain_of_toLower (same ▸ alphabet symbol (formatted.small symbol among))

theorem plain_all : ∀ c ∈ before ++ '1' :: after, isPlain c = true := by
  intro c member
  rcases List.mem_append.mp member with head | rest
  · exact formatted.plain c head
  · rcases List.mem_cons.mp rest with rfl | data
    · decide
    · exact formatted.plain_after c data

end IsCutText

/-- A text of the format has no character but those of printable ASCII. -/
theorem plain_of_isFormatted {variant : Variant} {text : List Char}
    (formatted : IsFormatted variant text) : ∀ c ∈ text, isPlain c = true := by
  obtain ⟨before, after, symbols, rfl, -, cutText⟩ := formatted
  exact cutText.plain_all

/-! ### Reading and the format -/

/-- A text in ASCII but for Kelvin signs is of one case if the text it passes for is. -/
theorem isMixed_eq_false_iff {text : List Char}
    (latin : ∀ c ∈ text, (Text.latinK c).toNat < 0x80) :
    isMixed text = false ↔ (∀ c ∈ text.map Text.latinK, c.isUpper = false) ∨
      ∀ c ∈ text.map Text.latinK, c.isLower = false := by
  rw [isMixed, Bool.and_eq_false_iff, bne_eq_false_iff_eq, bne_eq_false_iff_eq,
    Text.lower_eq_self_iff latin, Text.upper_eq_self_iff latin, List.forall_mem_map,
    List.forall_mem_map]

/-- What is read passes for a text of the format. -/
theorem IsReading.isFormatted {anyLength : Bool} {text before after : List Char}
    {variant : Variant} {symbols : List Nat}
    (reading : IsReading anyLength text variant before after symbols) :
    IsFormatted variant (withLatinK text) := by
  have absent := (Text.splitLast_eq_some_iff.mp reading.cut).2
  have whole : withLatinK text = before ++ '1' :: after.map Text.latinK := by
    simp only [withLatinK, reading.cut]
  refine ⟨before, after.map Text.latinK, symbols, whole, absent_map_latinK absent, {
    oneCase := ?_
    present := reading.present
    plain := reading.plain
    long := by rw [List.length_map]; exact reading.long
    small := reading.small
    letters := ?_
    checked := ?_ }⟩
  · rw [← whole, withLatinK_eq_map reading.cut reading.ascii]
    exact (isMixed_eq_false_iff reading.latin).mp reading.unmixed
  · rw [← reading.lower_after, Text.lower_of_latin reading.latin_after, List.map_map]
    rfl
  · rw [← Text.lower_of_ascii reading.ascii]
    exact ofResidue_eq_some_iff.mp reading.verified

/-- A text that passes for one of the format is read, and is cut where that is. -/
theorem exists_isReading {text : List Char} {variant : Variant}
    (formatted : IsFormatted variant (withLatinK text)) :
    ∃ before after symbols, IsReading true text variant before after symbols := by
  obtain ⟨before, kept, symbols, whole, absent, cutText⟩ := formatted
  have cut := Text.splitLast_eq_some_iff.mpr ⟨whole, absent⟩
  cases own : Text.splitLast '1' text with
  | none =>
    have same : withLatinK text = text := by simp only [withLatinK, own]
    rw [same, own] at cut
    cases cut
  | some parts =>
    obtain ⟨head, after⟩ := parts
    have same : withLatinK text = head ++ '1' :: after.map Text.latinK := by
      simp only [withLatinK, own]
    have ownAbsent := absent_map_latinK (Text.splitLast_eq_some_iff.mp own).2
    rw [same, Text.splitLast_append head ownAbsent] at cut
    obtain ⟨rfl, rfl⟩ := Prod.mk.inj (Option.some.inj cut)
    have ascii : ∀ c ∈ head, c.toNat < 0x80 :=
      fun c member => toNat_lt_of_isPlain (cutText.plain c member)
    have mapped : withLatinK text = text.map Text.latinK := withLatinK_eq_map own ascii
    have latin : ∀ c ∈ text, (Text.latinK c).toNat < 0x80 := fun c member =>
      toNat_lt_of_isPlain (cutText.plain_all _ (by
        rw [← same, mapped]
        exact List.mem_map_of_mem member))
    have data : ∀ c ∈ after, (Text.latinK c).toNat < 0x80 := fun c member =>
      toNat_lt_of_isPlain (cutText.plain_after _ (List.mem_map_of_mem member))
    have lowered : Text.lower after = symbols.map letter := by
      rw [Text.lower_of_latin data, ← cutText.letters, List.map_map]
      rfl
    exact ⟨head, after, symbols, {
      unmixed := (isMixed_eq_false_iff latin).mpr (by
        rw [← mapped, same]
        exact cutText.oneCase)
      cut := own
      present := cutText.present
      long := by
        have long := cutText.long
        rwa [List.length_map] at long
      short := .inl rfl
      plain := cutText.plain
      letters := symbols_eq_some_iff.mpr ⟨cutText.small, lowered⟩
      verified := by
        rw [verify, Text.lower_of_ascii ascii]
        exact ofResidue_eq_some_iff.mpr cutText.checked }⟩

/-- A text of the format has no Kelvin sign, so replacing them takes no text out of the format. -/
theorem passesFor_iff {variant : Variant} {text : List Char} :
    PassesFor variant text ↔ IsFormatted variant (withLatinK text) := by
  by_cases kelvin : Text.kelvinSign ∈ text
  · have unformatted : ¬ IsFormatted variant text := fun formatted =>
      absurd (plain_of_isFormatted formatted _ kelvin) (by decide)
    simp only [PassesFor, unformatted, kelvin, false_or, true_and]
  · simp only [PassesFor, withLatinK_of_absent kelvin, kelvin, false_and, or_false]

/-- The texts of any length that are read as one of a variant. -/
theorem exists_read_iff {variant : Variant} {text : List Char} :
    (∃ humanPart symbols, read true text = some (variant, humanPart, symbols)) ↔
      PassesFor variant text := by
  rw [passesFor_iff]
  constructor
  · rintro ⟨humanPart, symbols, accepted⟩
    obtain ⟨before, after, all, reading, -, -⟩ := read_eq_some_iff.mp accepted
    exact reading.isFormatted
  · intro formatted
    obtain ⟨before, after, all, reading⟩ := exists_isReading formatted
    exact ⟨_, _, read_eq_some_iff.mpr ⟨before, after, all, reading, rfl, rfl⟩⟩

/-- A text is decoded if it is of the format of payment requests or passes for it by a Kelvin
sign. One that is so for the other variant is refused for its variant, and every other text as
one without a good checksum. -/
theorem decode_iff_passesFor (text : String) :
    ((∃ humanPart symbols, decode text = .ok (humanPart, symbols)) ↔
        PassesFor .bech32 text.toList) ∧
      (decode text = .error .variant ↔ PassesFor .bech32m text.toList) ∧
      (decode text = .error .checksum ↔ ∀ variant, ¬ PassesFor variant text.toList) := by
  simp only [← exists_read_iff, decode]
  cases accepted : read true text.toList with
  | none => simp
  | some parts =>
    obtain ⟨variant, humanPart, symbols⟩ := parts
    cases variant <;> simp

/-- The text of the letters ln and the symbol of k, in upper case and with the Kelvin sign for K:
it is not of the format but it is decoded. -/
theorem decode_kelvin :
    let text := "LN1".toList ++ Text.kelvinSign :: "FUKXAZ".toList
    decode (String.ofList text) = .ok ("ln", [22]) ∧ ¬ IsFormatted .bech32 text := by
  intro text
  refine ⟨by decide +kernel, fun formatted => ?_⟩
  exact absurd (plain_of_isFormatted formatted Text.kelvinSign (by decide)) (by decide)

end Bolt11.Bech32
