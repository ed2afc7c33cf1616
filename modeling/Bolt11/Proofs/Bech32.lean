/-
This file proves that the text form gives back what was written, and what a text that is read is
sure to be.

A human readable part in lower case may hold the separator; the data part never does, so the last
separator is the one that was put there. Lower-casing leaves such a text alone. In the other
direction, whatever text is read, its human readable part is made of ASCII characters and its
data part of symbols below thirty-two: no later stage meets anything else.
-/

import Bolt11.Proofs.Checksum
import Bolt11.Proofs.LetterCase

namespace Bolt11

/-! ### The separator -/

namespace Text

theorem splitLast_eq_none_iff {separator : Char} {text : List Char} :
    splitLast separator text = none ↔ separator ∉ text := by
  induction text with
  | nil => exact iff_of_true rfl List.not_mem_nil
  | cons c rest inductionHypothesis =>
    rw [splitLast, List.mem_cons]
    cases later : splitLast separator rest with
    | none =>
      have absent := inductionHypothesis.mp later
      by_cases here : c = separator
      · simp [here]
      · simp [here, absent, Ne.symm here]
    | some parts =>
      have present : separator ∈ rest := by
        by_contra absent
        rw [inductionHypothesis.mpr absent] at later
        cases later
      simp [present]

/-- The last separator is the one behind which there is no other. -/
theorem splitLast_append {separator : Char} (before : List Char) {after : List Char}
    (absent : separator ∉ after) :
    splitLast separator (before ++ separator :: after) = some (before, after) := by
  induction before with
  | nil =>
    rw [List.nil_append, splitLast, splitLast_eq_none_iff.mpr absent]
    exact if_pos rfl
  | cons c rest inductionHypothesis => rw [List.cons_append, splitLast, inductionHypothesis]

/-- A text is cut where there is a separator and none behind it, which is one place at most. -/
theorem splitLast_eq_some_iff {separator : Char} {text before after : List Char} :
    splitLast separator text = some (before, after) ↔
      text = before ++ separator :: after ∧ separator ∉ after := by
  constructor
  · intro found
    refine ⟨eq_of_splitLast found, ?_⟩
    induction text generalizing before with
    | nil => cases found
    | cons c rest inductionHypothesis =>
      rw [splitLast] at found
      cases later : splitLast separator rest with
      | some parts =>
        rw [later] at found
        obtain ⟨-, rfl⟩ := by simpa using found
        exact inductionHypothesis later
      | none =>
        rw [later] at found
        obtain ⟨-, -, rfl⟩ := by simpa using found
        exact splitLast_eq_none_iff.mp later
  · rintro ⟨rfl, absent⟩
    exact splitLast_append before absent

end Text

namespace Bech32

/-! ### The alphabet -/

/-- What the characters of the data part are like: each is the character of its symbol, a
lower-case letter or digit of ASCII, and neither the separator nor blank. -/
theorem letter_facts : ∀ symbol < 32, symbol? (letter symbol) = some symbol ∧
    (letter symbol).toNat < 0x80 ∧ (letter symbol).toLower = letter symbol ∧
    letter symbol ≠ '1' ∧ Text.isBlank (letter symbol) = false := by
  decide

theorem symbol_lt {c : Char} {symbol : Nat} (found : symbol? c = some symbol) : symbol < 32 :=
  (List.findIdx?_eq_some_iff_findIdx_eq.mp found).1

theorem letter_of_symbol {c : Char} {symbol : Nat} (found : symbol? c = some symbol) :
    letter symbol = c := by
  obtain ⟨inside, same, -⟩ := List.findIdx?_eq_some_iff_getElem.mp found
  rw [letter, List.getD_eq_getElem?_getD, List.getElem?_eq_getElem inside]
  exact eq_of_beq same

theorem symbols_map_letter {symbols : List Nat} (small : ∀ symbol ∈ symbols, symbol < 32) :
    symbols? (symbols.map letter) = some symbols := by
  induction symbols with
  | nil => rfl
  | cons symbol rest inductionHypothesis =>
    have head := (letter_facts symbol (small symbol List.mem_cons_self)).1
    have tail := inductionHypothesis fun other member => small other (List.mem_cons_of_mem _ member)
    rw [symbols?] at tail ⊢
    rw [List.map_cons, List.mapM_cons, head, tail]
    rfl

/-- The characters of symbols hold no separator. -/
theorem absent_map_letter {symbols : List Nat} (small : ∀ symbol ∈ symbols, symbol < 32) :
    '1' ∉ symbols.map letter := by
  intro member
  obtain ⟨symbol, among, same⟩ := List.mem_map.mp member
  exact (letter_facts symbol (small symbol among)).2.2.2.1 same

/-- They are in lower case. -/
theorem lower_map_letter {symbols : List Nat} (small : ∀ symbol ∈ symbols, symbol < 32) :
    Text.lower (symbols.map letter) = symbols.map letter := by
  refine Text.lower_of_lowered fun c member => ?_
  obtain ⟨symbol, among, rfl⟩ := List.mem_map.mp member
  have facts := letter_facts symbol (small symbol among)
  exact ⟨facts.2.1, facts.2.2.1⟩

/-- What is read from the data part: symbols, and the text is their characters. -/
theorem symbols_eq_some_iff {text : List Char} {symbols : List Nat} :
    symbols? text = some symbols ↔
      (∀ symbol ∈ symbols, symbol < 32) ∧ text = symbols.map letter := by
  constructor
  · intro read
    induction text generalizing symbols with
    | nil =>
      obtain rfl := Option.some.inj read
      exact ⟨List.forall_mem_nil _, rfl⟩
    | cons c rest inductionHypothesis =>
      rw [symbols?, List.mapM_cons] at read
      obtain ⟨head, headRead, others⟩ := Option.bind_eq_some_iff.mp read
      obtain ⟨tail, tailRead, done⟩ := Option.bind_eq_some_iff.mp others
      obtain rfl := Option.some.inj done
      obtain ⟨small, same⟩ := inductionHypothesis tailRead
      exact ⟨List.forall_mem_cons.mpr ⟨symbol_lt headRead, small⟩, by
        rw [List.map_cons, letter_of_symbol headRead, ← same]⟩
  · rintro ⟨small, rfl⟩
    exact symbols_map_letter small

/-! ### How a text is read -/

theorem toNat_lt_of_isPlain {c : Char} (plain : isPlain c = true) : c.toNat < 0x80 := by
  simp only [isPlain, Bool.and_eq_true, decide_eq_true_eq] at plain
  omega

/-- What is checked when a text is read: it is in one case and not too long, it is cut at its last
separator, what stands before that is printable ASCII, and what stands behind it is made of
symbols that end with their checksum. -/
structure IsReading (anyLength : Bool) (text : List Char) (variant : Variant)
    (before after : List Char) (symbols : List Nat) : Prop where
  unmixed : isMixed text = false
  cut : Text.splitLast '1' text = some (before, after)
  present : before ≠ []
  long : 6 ≤ after.length
  short : anyLength = true ∨ text.length ≤ 90
  plain : ∀ c ∈ before, isPlain c = true
  letters : symbols? (Text.lower after) = some symbols
  verified : verify (Text.lower before) symbols = some variant

theorem read_eq_some_iff {anyLength : Bool} {text humanPart : List Char} {variant : Variant}
    {symbols : List Nat} :
    read anyLength text = some (variant, humanPart, symbols) ↔
      ∃ before after all, IsReading anyLength text variant before after all ∧
        humanPart = Text.lower before ∧ symbols = all.take (all.length - 6) := by
  constructor
  · intro succeeded
    unfold read at succeeded
    split at succeeded
    · cases succeeded
    rename_i unmixed
    split at succeeded
    · cases succeeded
    rename_i before after cut
    split at succeeded
    · cases succeeded
    rename_i sized
    split at succeeded
    · cases succeeded
    rename_i plain
    split at succeeded
    · cases succeeded
    rename_i all letters
    simp only at succeeded
    split at succeeded
    · cases succeeded
    rename_i verified
    obtain ⟨rfl, rfl, rfl⟩ := by simpa using succeeded
    simp only [Bool.or_eq_true, Bool.and_eq_true, Bool.not_eq_true', decide_eq_true_eq, not_or,
      not_and, Nat.not_lt, List.isEmpty_iff] at sized
    obtain ⟨⟨present, long⟩, short⟩ := sized
    refine ⟨before, after, all, ⟨by simpa using unmixed, cut, present, long, ?_, ?_, letters,
      verified⟩, rfl, rfl⟩
    · cases anyLength with
      | true => exact .inl rfl
      | false => exact .inr (short rfl)
    · exact List.all_eq_true.mp (by simpa using plain)
  · rintro ⟨before, after, all, reading, rfl, rfl⟩
    have sized : (before.isEmpty || decide (after.length < 6) ||
        (!anyLength && decide (90 < text.length))) = false := by
      have long := reading.long
      rw [List.isEmpty_eq_false_iff.mpr reading.present, decide_eq_false (by omega)]
      rcases reading.short with rfl | short
      · rfl
      · rw [decide_eq_false (by omega), Bool.and_false]
        rfl
    have plain : before.all isPlain = true := List.all_eq_true.mpr reading.plain
    simp only [read, reading.unmixed, reading.cut, sized, plain, reading.letters, reading.verified,
      Bool.not_true, Bool.false_eq_true, if_false]

namespace IsReading

variable {anyLength : Bool} {text before after : List Char} {variant : Variant}
  {symbols : List Nat} (reading : IsReading anyLength text variant before after symbols)

include reading

theorem text_eq : text = before ++ '1' :: after :=
  (Text.splitLast_eq_some_iff.mp reading.cut).1

theorem small : ∀ symbol ∈ symbols, symbol < 32 :=
  (symbols_eq_some_iff.mp reading.letters).1

theorem lower_after : Text.lower after = symbols.map letter :=
  (symbols_eq_some_iff.mp reading.letters).2

theorem ascii : ∀ c ∈ before, c.toNat < 0x80 :=
  fun c member => toNat_lt_of_isPlain (reading.plain c member)

/-- The data part is in ASCII but for Kelvin signs: its lower case is made of characters of the
alphabet. -/
theorem latin_after : ∀ c ∈ after, (Text.latinK c).toNat < 0x80 := by
  refine Text.latin_of_lower_ascii fun image member => ?_
  rw [reading.lower_after] at member
  obtain ⟨symbol, among, rfl⟩ := List.mem_map.mp member
  exact (letter_facts symbol (reading.small symbol among)).2.1

/-- So is the whole text. -/
theorem latin : ∀ c ∈ text, (Text.latinK c).toNat < 0x80 := by
  intro c member
  rw [reading.text_eq] at member
  rcases List.mem_append.mp member with head | rest
  · rw [Text.latinK_of_ascii (reading.ascii c head)]
    exact reading.ascii c head
  · rcases List.mem_cons.mp rest with rfl | data
    · decide
    · exact reading.latin_after c data

/-- No character is gained or lost in lower case. -/
theorem length_symbols : symbols.length = after.length := by
  have lowered := reading.lower_after.symm.trans (Text.lower_of_latin reading.latin_after)
  simpa using congrArg List.length lowered

end IsReading

/-! ### Reading what was written -/

/-- A human readable part that can be written: ASCII without blanks, control characters and
upper-case letters, and not empty. -/
structure IsHumanPart (humanPart : List Char) : Prop where
  nonempty : humanPart ≠ []
  plain : ∀ c ∈ humanPart, isPlain c = true
  lowered : ∀ c ∈ humanPart, c.toLower = c

/-- That a few characters are fit for the text form can be computed. -/
theorem plain_of_all {text : List Char}
    (checked : (text.all fun c => isPlain c && c.toLower == c) = true) :
    ∀ c ∈ text, isPlain c = true ∧ c.toLower = c := by
  intro c member
  have own := List.all_eq_true.mp checked c member
  rwa [Bool.and_eq_true, beq_iff_eq] at own

theorem append_checksum_lt (variant : Variant) (humanPart : List Char) {symbols : List Nat}
    (small : ∀ symbol ∈ symbols, symbol < 32) :
    ∀ symbol ∈ symbols ++ checksum variant humanPart symbols, symbol < 32 := by
  intro symbol member
  rcases List.mem_append.mp member with body | check
  · exact small symbol body
  · exact checksum_lt variant humanPart symbols symbol check

/-- What holds of the human readable part, of the separator and of the alphabet holds of the
whole text. -/
theorem forall_mem_write {property : Char → Prop} {humanPart : List Char} (variant : Variant)
    {symbols : List Nat} (small : ∀ symbol ∈ symbols, symbol < 32)
    (head : ∀ c ∈ humanPart, property c) (separator : property '1')
    (alphabet : ∀ symbol < 32, property (letter symbol)) :
    ∀ c ∈ write variant humanPart symbols, property c := by
  intro c member
  rcases List.mem_append.mp member with first | rest
  · exact head c first
  · rcases List.mem_cons.mp rest with rfl | data
    · exact separator
    · obtain ⟨symbol, among, rfl⟩ := List.mem_map.mp data
      exact alphabet symbol (append_checksum_lt variant humanPart small symbol among)

/-- The characters of a written text are lower-case ASCII. -/
theorem write_lowered {humanPart : List Char} (writable : IsHumanPart humanPart)
    (variant : Variant) {symbols : List Nat} (small : ∀ symbol ∈ symbols, symbol < 32) :
    ∀ c ∈ write variant humanPart symbols, c.toNat < 0x80 ∧ c.toLower = c := by
  refine forall_mem_write variant small ?_ (by decide) ?_
  · intro c member
    exact ⟨toNat_lt_of_isPlain (writable.plain c member), writable.lowered c member⟩
  · intro symbol inside
    exact ⟨(letter_facts symbol inside).2.1, (letter_facts symbol inside).2.2.1⟩

/-- A text of either variant and of any length gives back what was written. -/
theorem read_write {humanPart : List Char} (writable : IsHumanPart humanPart) (variant : Variant)
    {symbols : List Nat} (small : ∀ symbol ∈ symbols, symbol < 32) :
    read true (write variant humanPart symbols) = some (variant, humanPart, symbols) := by
  have combinedSmall := append_checksum_lt variant humanPart small
  have loweredHead : Text.lower humanPart = humanPart :=
    Text.lower_of_lowered fun c member =>
      ⟨toNat_lt_of_isPlain (writable.plain c member), writable.lowered c member⟩
  refine read_eq_some_iff.mpr ⟨humanPart, _, symbols ++ checksum variant humanPart symbols, {
    unmixed := by
      have lowered := Text.lower_of_lowered (write_lowered writable variant small)
      rw [isMixed, lowered, bne_self_eq_false, Bool.false_and]
    cut := Text.splitLast_append humanPart (absent_map_letter combinedSmall)
    present := writable.nonempty
    long := by
      rw [List.length_map, List.length_append, length_checksum]
      exact Nat.le_add_left 6 _
    short := .inl rfl
    plain := writable.plain
    letters := by rw [lower_map_letter combinedSmall, symbols_map_letter combinedSmall]
    verified := by rw [loweredHead, verify_append_checksum variant humanPart small] },
    loweredHead.symm, ?_⟩
  rw [List.length_append, length_checksum, Nat.add_sub_cancel, List.take_left]

/-- Whatever the human readable part is, symbols are encoded and nothing else is. -/
theorem encode_eq_ok_iff {humanPart text : String} {values : List Int} :
    encode humanPart values = .ok text ↔
      ∃ symbols : List Nat, values = symbols.map Int.ofNat ∧ (∀ symbol ∈ symbols, symbol < 32) ∧
        text = String.ofList (write .bech32 humanPart.toList symbols) := by
  constructor
  · intro encoded
    unfold encode at encoded
    split at encoded
    · rename_i inRange
      obtain rfl := Except.ok.inj encoded
      have bounds : ∀ value ∈ values, 0 ≤ value ∧ value < 32 := fun value member =>
        of_decide_eq_true (List.all_eq_true.mp inRange value member)
      refine ⟨values.map Int.toNat, ?_, ?_, rfl⟩
      · have own : values.map (Int.ofNat ∘ Int.toNat) = values.map id :=
          List.map_congr_left fun value member => Int.toNat_of_nonneg (bounds value member).1
        rw [List.map_map, own, List.map_id]
      · intro symbol member
        obtain ⟨value, among, rfl⟩ := List.mem_map.mp member
        have := bounds value among
        omega
    · cases encoded
  · rintro ⟨symbols, rfl, small, rfl⟩
    have inRange : ((symbols.map Int.ofNat).all fun value => decide (0 ≤ value ∧ value < 32)) =
        true := by
      rw [List.all_eq_true]
      intro value member
      obtain ⟨symbol, among, rfl⟩ := List.mem_map.mp member
      have := small symbol among
      rw [decide_eq_true_eq, Int.ofNat_eq_natCast]
      omega
    have back : (symbols.map Int.ofNat).map Int.toNat = symbols := by
      rw [List.map_map]
      exact List.map_id'' (fun _ => rfl) symbols
    rw [encode, if_pos inRange, back]

/-- The text of a payment request exists and is decoded to what it was made of. -/
theorem decode_encode {humanPart : String} (writable : IsHumanPart humanPart.toList)
    {symbols : List Nat} (small : ∀ symbol ∈ symbols, symbol < 32) :
    encode humanPart (symbols.map Int.ofNat) =
        .ok (String.ofList (write .bech32 humanPart.toList symbols)) ∧
      decode (String.ofList (write .bech32 humanPart.toList symbols)) =
        .ok (humanPart, symbols) := by
  refine ⟨encode_eq_ok_iff.mpr ⟨symbols, rfl, small, rfl⟩, ?_⟩
  rw [decode, String.toList_ofList, read_write writable .bech32 small]
  simp only [String.ofList_toList]

/-! ### What is read -/

/-- Whatever text is read: the human readable part is in ASCII, and the data part is made of
symbols. -/
theorem read_sound {anyLength : Bool} {text humanPart : List Char} {variant : Variant}
    {symbols : List Nat} (succeeded : read anyLength text = some (variant, humanPart, symbols)) :
    (∀ c ∈ humanPart, c.toNat < 0x80) ∧ ∀ symbol ∈ symbols, symbol < 32 := by
  obtain ⟨before, after, all, reading, rfl, rfl⟩ := read_eq_some_iff.mp succeeded
  refine ⟨?_, fun symbol member => reading.small symbol (List.mem_of_mem_take member)⟩
  rw [Text.lower_of_ascii reading.ascii]
  intro c member
  obtain ⟨original, among, rfl⟩ := List.mem_map.mp member
  exact Text.toLower_ascii original (reading.ascii original among)

/-- A human readable part that is read can be written. -/
theorem isHumanPart_of_read {anyLength : Bool} {text humanPart : List Char} {variant : Variant}
    {symbols : List Nat} (succeeded : read anyLength text = some (variant, humanPart, symbols)) :
    IsHumanPart humanPart := by
  obtain ⟨before, after, all, reading, rfl, rfl⟩ := read_eq_some_iff.mp succeeded
  have plainLower : ∀ c : Char, c.toNat < 0x80 → isPlain c = true → isPlain c.toLower = true :=
    Text.forall_ascii (by decide)
  have lowerTwice : ∀ c : Char, c.toNat < 0x80 → c.toLower.toLower = c.toLower :=
    Text.forall_ascii (by decide)
  rw [Text.lower_of_ascii reading.ascii]
  exact {
    nonempty := fun nothing => reading.present (List.map_eq_nil_iff.mp nothing)
    plain := List.forall_mem_map.mpr fun c member =>
      plainLower c (reading.ascii c member) (reading.plain c member)
    lowered := List.forall_mem_map.mpr fun c member => lowerTwice c (reading.ascii c member) }

theorem decode_eq_ok_iff {text humanPart : String} {symbols : List Nat} :
    decode text = .ok (humanPart, symbols) ↔
      read true text.toList = some (.bech32, humanPart.toList, symbols) := by
  unfold decode
  split
  · rename_i refused
    simp [refused]
  · rename_i head data accepted
    simp [accepted, String.ext_iff]
  · rename_i accepted
    simp [accepted]

theorem decode_sound {text humanPart : String} {symbols : List Nat}
    (decoded : decode text = .ok (humanPart, symbols)) :
    (∀ c ∈ humanPart.toList, c.toNat < 0x80) ∧ ∀ symbol ∈ symbols, symbol < 32 :=
  read_sound (decode_eq_ok_iff.mp decoded)

end Bech32

end Bolt11
