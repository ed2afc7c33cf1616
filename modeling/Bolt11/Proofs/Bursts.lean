/-
This file proves that the checksum notices every burst: if symbols of a text are changed, but only
within six places in a row, the text is no longer decoded.

A step of the register can be undone, for the five bits that leave it are told apart by what comes
back for them. Registers that differ therefore stay apart for as long as the same symbols enter
both. Six symbols that enter a register stand in it as the digits of a number, so other symbols in
their six places leave another register. Up to these places the registers are the same, behind them
they differ, and however many symbols follow, they never come to the same residue.
-/

import Bolt11.Proofs.Canonical
import Mathlib.Data.Nat.Bitwise

namespace Bolt11.Bech32

/-! ### Registers stay apart -/

/-- The low bits of what comes back tell apart the bits that left. -/
theorem feedback_low : ∀ top < 32, feedback top generators 0 % 32 = 0 → top = 0 := by decide

theorem eq_zero_of_step {register : Nat} (narrow : register < 2 ^ 30)
    (emptied : step register 0 = 0) : register = 0 := by
  have moved : register % 2 ^ 25 * 2 ^ 5 = feedback (register / 2 ^ 25) generators 0 := by
    rw [step_eq, Nat.xor_zero] at emptied
    exact Nat.xor_left_inj.mp (emptied.trans (Nat.xor_self _).symm)
  have nothingLeft : register / 2 ^ 25 = 0 := by
    refine feedback_low _ (by omega) ?_
    rw [← moved]
    exact Nat.mul_mod_left _ _
  have nothingBack : feedback 0 generators 0 = 0 := by decide
  rw [nothingLeft, nothingBack] at moved
  omega

/-- A register is determined by what a step makes of it. -/
theorem step_injective {left right value : Nat} (leftNarrow : left < 2 ^ 30)
    (rightNarrow : right < 2 ^ 30) (same : step left value = step right value) : left = right := by
  have combined : step (left ^^^ right) 0 = 0 := by
    calc step (left ^^^ right) 0 = step (left ^^^ right) (value ^^^ value) := by rw [Nat.xor_self]
      _ = step left value ^^^ step right value := step_xor left right value value
      _ = 0 := by rw [same, Nat.xor_self]
  have nothing := eq_zero_of_step (Nat.xor_lt_two_pow leftNarrow rightNarrow) combined
  exact Nat.xor_left_inj.mp (nothing.trans (Nat.xor_self right).symm)

/-- So it is by what is left of it after any number of steps. -/
theorem foldl_step_injective {values : List Nat} (small : ∀ value ∈ values, value < 2 ^ 30)
    {left right : Nat} (leftNarrow : left < 2 ^ 30) (rightNarrow : right < 2 ^ 30)
    (same : values.foldl step left = values.foldl step right) : left = right := by
  induction values generalizing left right with
  | nil => exact same
  | cons value rest inductionHypothesis =>
    have entering : value < 2 ^ 30 := small value List.mem_cons_self
    have restSmall : ∀ other ∈ rest, other < 2 ^ 30 := fun other member =>
      small other (List.mem_cons_of_mem _ member)
    have later := inductionHypothesis restSmall (step_lt entering left) (step_lt entering right) same
    exact step_injective leftNarrow rightNarrow later

theorem polymod_append (values more : List Nat) :
    polymod (values ++ more) = more.foldl step (polymod values) :=
  List.foldl_append

/-- Six symbols are determined by what the register holds once others have followed them. -/
theorem eq_of_polymod_eq {before burst other after : List Nat}
    (beforeSmall : ∀ value ∈ before, value < 2 ^ 30) (afterSmall : ∀ symbol ∈ after, symbol < 32)
    (six : burst.length = 6) (otherSix : other.length = 6)
    (small : ∀ symbol ∈ burst, symbol < 32) (otherSmall : ∀ symbol ∈ other, symbol < 32)
    (same : polymod (before ++ burst ++ after) = polymod (before ++ other ++ after)) :
    burst = other := by
  have narrow : ∀ six : List Nat, (∀ symbol ∈ six, symbol < 32) → polymod (before ++ six) < 2 ^ 30 :=
    fun six sixSmall => polymod_lt fun value member =>
      (List.mem_append.mp member).elim (beforeSmall value)
        fun among => Nat.lt_trans (sixSmall value among) (by decide)
  have registers : polymod (before ++ burst) = polymod (before ++ other) := by
    refine foldl_step_injective (fun symbol member => Nat.lt_trans (afterSmall symbol member) ?_)
      (narrow burst small) (narrow other otherSmall) ?_
    · decide
    · rwa [polymod_append (before ++ burst), polymod_append (before ++ other)] at same
  rw [polymod_append_six before six small, polymod_append_six before otherSix otherSmall] at registers
  exact Symbols.toNat_injective (six.trans otherSix.symm) small otherSmall
    (Nat.xor_right_inj.mp registers)

/-! ### Bursts -/

/-- Symbols that differ from a word of the same length, but only within six places in a row. -/
structure IsBurst (word other : List Nat) : Prop where
  length_eq : other.length = word.length
  small : ∀ symbol ∈ other, symbol < 32
  changed : other ≠ word
  near : ∃ start, ∀ place, place < start ∨ start + 6 ≤ place → other[place]? = word[place]?

/-- Around a burst a word and its change are cut alike, with six symbols between the cuts. -/
theorem IsBurst.exists_cut {word other : List Nat} (burst : IsBurst word other)
    (long : 6 ≤ word.length) :
    ∃ before six changed after, word = before ++ six ++ after ∧ other = before ++ changed ++ after ∧
      six.length = 6 ∧ changed.length = 6 := by
  obtain ⟨start, outside⟩ := burst.near
  have length := burst.length_eq
  -- six places that reach beyond the end are moved back until they fit
  obtain ⟨first, fits, outside⟩ : ∃ first, first + 6 ≤ word.length ∧
      ∀ place, place < first ∨ first + 6 ≤ place → other[place]? = word[place]? := by
    refine ⟨min start (word.length - 6), by omega, fun place out => ?_⟩
    by_cases inside : place < word.length
    · exact outside place (by omega)
    · rw [List.getElem?_eq_none (by omega), List.getElem?_eq_none (by omega)]
  have front : other.take first = word.take first := by
    refine List.ext_getElem? fun place => ?_
    rw [List.getElem?_take, List.getElem?_take]
    split
    · rename_i below
      exact outside place (.inl below)
    · rfl
  have back : other.drop (first + 6) = word.drop (first + 6) := by
    refine List.ext_getElem? fun place => ?_
    rw [List.getElem?_drop, List.getElem?_drop]
    exact outside _ (.inr (Nat.le_add_right _ _))
  have cut : ∀ symbols : List Nat,
      symbols = symbols.take first ++ (symbols.drop first).take 6 ++ symbols.drop (first + 6) := by
    intro symbols
    rw [List.append_assoc, ← List.drop_drop, List.take_append_drop, List.take_append_drop]
  refine ⟨word.take first, (word.drop first).take 6, (other.drop first).take 6,
    word.drop (first + 6), cut word, ?_, ?_, ?_⟩
  · rw [← front, ← back]
    exact cut other
  · rw [List.length_take, List.length_drop]
    omega
  · rw [List.length_take, List.length_drop]
    omega

/-- No burst leads from symbols with a good checksum to others with one of the same variant. -/
theorem verify_burst {variant : Variant} {humanPart : List Char} {word other : List Nat}
    (small : ∀ symbol ∈ word, symbol < 32) (long : 6 ≤ word.length)
    (verified : verify humanPart word = some variant) (burst : IsBurst word other) :
    verify humanPart other ≠ some variant := by
  intro alike
  have otherSmall := burst.small
  obtain ⟨before, six, changed, after, rfl, rfl, length, changedLength⟩ := burst.exists_cut long
  have same : polymod (expand humanPart ++ before ++ six ++ after) =
      polymod (expand humanPart ++ before ++ changed ++ after) := by
    have register := ofResidue_eq_some_iff.mp verified
    have otherRegister := ofResidue_eq_some_iff.mp alike
    simp only [List.append_assoc] at register otherRegister ⊢
    exact register.trans otherRegister.symm
  simp only [List.mem_append] at small otherSmall
  have equal : six = changed := by
    refine eq_of_polymod_eq (fun value member => ?_) (fun symbol member => small symbol (.inr member))
      length changedLength (fun symbol member => small symbol (.inl (.inr member)))
      (fun symbol member => otherSmall symbol (.inl (.inr member))) same
    rcases List.mem_append.mp member with head | data
    · exact expand_lt humanPart value head
    · exact Nat.lt_trans (small value (.inl (.inl data))) (by decide)
  exact burst.changed (by rw [equal])

/-! ### Texts -/

/-- The lower case of a text in ASCII is its own lower case. -/
theorem lower_lower_of_ascii {text : List Char} (ascii : ∀ c ∈ text, c.toNat < 0x80) :
    Text.lower (Text.lower text) = Text.lower text := by
  have own : ∀ c : Char, c.toNat < 0x80 → c.toLower.toNat < 0x80 ∧ c.toLower.toLower = c.toLower :=
    Text.forall_ascii (by decide)
  refine Text.lower_of_lowered fun image member => ?_
  rw [Text.lower_of_ascii ascii] at member
  obtain ⟨c, among, rfl⟩ := List.mem_map.mp member
  exact own c (ascii c among)

/-- A symbol's character in either case is no separator and goes to the character of the symbol. -/
theorem either_case {c : Char} {symbol : Nat} (found : symbol? c.toLower = some symbol) :
    c ≠ '1' ∧ (Text.latinK c).toNat < 0x80 ∧ (Text.latinK c).toLower = letter symbol := by
  have image : letter symbol = c.toLower := letter_of_symbol found
  have facts := letter_facts symbol (symbol_lt found)
  have ascii : c.toNat < 0x80 := by
    by_contra beyond
    have own : c.toLower = c := Text.toLower_of_beyond (Nat.not_lt.mp beyond)
    rw [image, own] at facts
    exact beyond facts.2.1
  refine ⟨?_, ?_, ?_⟩
  · rintro rfl
    exact facts.2.2.2.1 image
  · rwa [Text.latinK_of_ascii ascii]
  · rw [Text.latinK_of_ascii ascii, image]

namespace IsReading

variable {text before after : List Char} {word : List Nat}
  (reading : IsReading true text .bech32 before after word)

include reading

/-- A text with the human readable part of one that is decoded is refused if its symbols are a
burst away. -/
theorem error_of_burst {head data : List Char} {other : List Nat}
    (sameHead : Text.lower head = Text.lower before) (absent : '1' ∉ data)
    (letters : Text.lower data = other.map letter) (burst : IsBurst word other) :
    ∃ cause, decode (String.ofList (head ++ '1' :: data)) = .error cause := by
  cases outcome : decode (String.ofList (head ++ '1' :: data)) with
  | error cause => exact ⟨cause, rfl⟩
  | ok parts =>
    have accepted := decode_eq_ok_iff.mp outcome
    rw [String.toList_ofList] at accepted
    obtain ⟨ownHead, ownData, ownWord, ownReading, -, -⟩ := read_eq_some_iff.mp accepted
    obtain ⟨rfl, rfl⟩ : head = ownHead ∧ data = ownData := by
      simpa [Text.splitLast_append head absent] using ownReading.cut
    have sameWord : other = ownWord := by
      have read := symbols_eq_some_iff.mpr ⟨burst.small, letters⟩
      exact Option.some.inj (read.symm.trans ownReading.letters)
    have verified := ownReading.verified
    rw [sameHead, ← sameWord] at verified
    have long : 6 ≤ word.length := reading.length_symbols ▸ reading.long
    exact absurd verified (verify_burst reading.small long reading.verified burst)

/-- The data part with one character exchanged. -/
theorem lower_set (place : Nat) {c : Char} {symbol : Nat} (found : symbol? c.toLower = some symbol) :
    Text.lower (after.set place c) = (word.set place symbol).map letter := by
  obtain ⟨-, ascii, image⟩ := either_case found
  have latin : ∀ d ∈ after.set place c, (Text.latinK d).toNat < 0x80 := by
    intro d member
    rcases List.mem_or_eq_of_mem_set member with among | rfl
    · exact reading.latin_after d among
    · exact ascii
  have letters := reading.lower_after
  rw [Text.lower_of_latin reading.latin_after] at letters
  rw [Text.lower_of_latin latin, List.map_set, letters, image, List.map_set]

end IsReading

theorem isBurst_set {word : List Nat} (small : ∀ symbol ∈ word, symbol < 32) {place symbol : Nat}
    (inside : place < word.length) (symbolSmall : symbol < 32) (other : word[place]? ≠ some symbol) :
    IsBurst word (word.set place symbol) where
  length_eq := List.length_set
  small := fun value member => (List.mem_or_eq_of_mem_set member).elim (small value)
    fun same => same ▸ symbolSmall
  changed := fun same => other (by rw [← same, List.getElem?_set_self inside])
  near := ⟨place, fun _ out => List.getElem?_set_ne (by omega)⟩

/-- Whatever text is decoded, its symbols and their checksum are a word; a text with the same human
readable part and a word that is a burst away is refused. In particular the text itself is refused
once a character behind the separator is exchanged for that of another symbol, in either case. -/
theorem decode_burst {text humanPart : String} {symbols : List Nat}
    (decoded : decode text = .ok (humanPart, symbols)) :
    let word := symbols ++ checksum .bech32 humanPart.toList symbols
    Text.lower text.toList = humanPart.toList ++ '1' :: word.map letter ∧
      (∀ other, IsBurst word other →
        ∃ cause, decode (String.ofList (humanPart.toList ++ '1' :: other.map letter)) =
          .error cause) ∧
      ∀ before after, text.toList = before ++ '1' :: after → '1' ∉ after →
        ∀ place c symbol, place < after.length → symbol? c.toLower = some symbol →
          word[place]? ≠ some symbol →
            ∃ cause, decode (String.ofList (before ++ '1' :: after.set place c)) = .error cause := by
  have accepted := decode_eq_ok_iff.mp decoded
  obtain ⟨head, data, whole, reading, part, taken⟩ := read_eq_some_iff.mp accepted
  have wordIs : symbols ++ checksum .bech32 humanPart.toList symbols = whole := by
    rw [part, taken, ← reading.symbols_eq]
  simp only [wordIs]
  refine ⟨?_, ?_, ?_⟩
  · rw [reading.lower_text, part]
  · intro other burst
    refine reading.error_of_burst ?_ (absent_map_letter burst.small) (lower_map_letter burst.small)
      burst
    rw [part, lower_lower_of_ascii reading.ascii]
  · intro before after cutText absent place c symbol inside found other
    have cut := Text.splitLast_eq_some_iff.mpr ⟨cutText, absent⟩
    obtain ⟨rfl, rfl⟩ : before = head ∧ after = data := by
      simpa [cut] using reading.cut
    refine reading.error_of_burst rfl ?_ (reading.lower_set place found) ?_
    · intro member
      rcases List.mem_or_eq_of_mem_set member with among | same
      · exact absent among
      · exact (either_case found).1 same.symm
    · refine isBurst_set reading.small ?_ (symbol_lt found) other
      rwa [reading.length_symbols]

/-- All thirty-two symbols behind a human readable part with two separators; the six in the middle
in reverse. -/
theorem decode_burst_reversed :
    let text := String.ofList (write .bech32 "x1y1".toList (List.range 32))
    let word := List.range 32 ++ checksum .bech32 "x1y1".toList (List.range 32)
    let other := word.take 13 ++ ((word.drop 13).take 6).reverse ++ word.drop 19
    decode text = .ok ("x1y1", List.range 32) ∧ IsBurst word other ∧
      ∃ cause, decode (String.ofList ("x1y1".toList ++ '1' :: other.map letter)) = .error cause := by
  intro text word other
  have fit : ∀ c ∈ "x1y1".toList, isPlain c = true ∧ c.toLower = c := plain_of_all (by decide)
  have decoded : decode text = .ok ("x1y1", List.range 32) :=
    (decode_encode ⟨by decide, fun c member => (fit c member).1, fun c member => (fit c member).2⟩
      fun _ member => List.mem_range.mp member).2
  have burst : IsBurst word other := by
    have length : other.length = word.length := by decide +kernel
    have outside : ∀ place < 38, place < 13 ∨ 19 ≤ place → other[place]? = word[place]? := by
      decide +kernel
    refine ⟨length, by decide +kernel, by decide +kernel, 13, fun place out => ?_⟩
    by_cases inside : place < 38
    · exact outside place inside out
    · have wordLength : word.length = 38 := by decide +kernel
      rw [List.getElem?_eq_none (by omega), List.getElem?_eq_none (by omega)]
  exact ⟨decoded, burst, (decode_burst decoded).2.1 other burst⟩

end Bolt11.Bech32
