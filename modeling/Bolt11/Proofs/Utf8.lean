/-
This file proves that octets are read as a text exactly if they are its form in UTF-8.

The four lengths of a sequence are four ranges of code points. In each, the lead octet announces
how many octets follow and in which range the first of them lies; the shortest form is what makes
that octet fall into its range. The code point is then put together from the same pieces that it
was taken apart into. The other way round, the ranges leave room for nothing but shortest forms of
characters, so octets that are read as a text are the octets that the text is written with.
-/

import Bolt11.Text.Utf8

namespace Bolt11.Text.Utf8

/-! ### Continuation octets -/

theorem toNat_continuation (value : Nat) : (continuation value).toNat = 0x80 + value % 64 := by
  rw [continuation, UInt8.toNat_ofNat']
  omega

/-- A continuation octet that lies in the range is read, and adds its six bits. -/
theorem follow_continuation {length lowest highest code count value : Nat} (rest : Bytes)
    (within : lowest ≤ 0x80 + value % 64 ∧ 0x80 + value % 64 ≤ highest) :
    follow length lowest highest code (count + 1) (continuation value :: rest) =
      follow (length + 1) 0x80 0xBF (64 * code + value % 64) count rest := by
  have bits : (0x80 + value % 64) % 64 = value % 64 := by omega
  rw [follow, toNat_continuation, if_pos within, bits]

/-- Any continuation octet lies in the range of the later ones. -/
theorem follow_later {length code count value : Nat} (rest : Bytes) :
    follow length 0x80 0xBF code (count + 1) (continuation value :: rest) =
      follow (length + 1) 0x80 0xBF (64 * code + value % 64) count rest :=
  follow_continuation rest (by omega)

/-! ### Lead octets -/

theorem lead?_one {code : Nat} (small : code < 0x80) :
    lead? code = some ⟨0, 0x80, 0xBF, code⟩ := by
  rw [lead?, if_pos small]

theorem lead?_two {high : Nat} (shortest : 2 ≤ high) (small : high < 32) :
    lead? (0xC0 + high) = some ⟨1, 0x80, 0xBF, high⟩ := by
  rw [lead?, if_neg (by omega), if_neg (by omega), if_pos (by omega), Nat.add_sub_cancel_left]

theorem lead?_three {high : Nat} (small : high < 16) :
    lead? (0xE0 + high) = some ⟨2, if high = 0 then 0xA0 else 0x80,
      if high = 13 then 0x9F else 0xBF, high⟩ := by
  have lowest : 0xE0 + high = 0xE0 ↔ high = 0 := by omega
  have highest : 0xE0 + high = 0xED ↔ high = 13 := by omega
  rw [lead?, if_neg (by omega), if_neg (by omega), if_neg (by omega), if_pos (by omega),
    Nat.add_sub_cancel_left]
  simp only [lowest, highest]

theorem lead?_four {high : Nat} (small : high < 5) :
    lead? (0xF0 + high) = some ⟨3, if high = 0 then 0x90 else 0x80,
      if high = 4 then 0x8F else 0xBF, high⟩ := by
  have lowest : 0xF0 + high = 0xF0 ↔ high = 0 := by omega
  have highest : 0xF0 + high = 0xF4 ↔ high = 4 := by omega
  rw [lead?, if_neg (by omega), if_neg (by omega), if_neg (by omega), if_neg (by omega),
    if_pos (by omega), Nat.add_sub_cancel_left]
  simp only [lowest, highest]

/-! ### One character -/

/-- A lead octet whose announcement is kept by the octets behind it gives one character. -/
theorem decodeFrom_of_follow {octet : UInt8} {rest left : Bytes} {lead : Lead} {code length : Nat}
    (announced : lead? octet.toNat = some lead)
    (kept : follow 1 lead.lowest lead.highest lead.bits lead.following rest =
      .ok (code, length, left)) (position : Nat) :
    decodeFrom position (octet :: rest) =
      match decodeFrom (position + length) left with
      | .ok characters => .ok (Char.ofNat code :: characters)
      | .error fault => .error fault := by
  rw [decodeFrom, announced]
  simp only
  split
  · rename_i failed
    rw [kept] at failed
    cases failed
  · rename_i followed
    rw [kept] at followed
    obtain ⟨rfl, rfl, rfl⟩ := by simpa using followed
    rfl

theorem toNat_ofNat_of_lt {value : Nat} (small : value < 0x100) :
    (UInt8.ofNat value).toNat = value := by
  rw [UInt8.toNat_ofNat']
  exact Nat.mod_eq_of_lt small

/-- The octets of a character are read as this character, whatever stands behind them. -/
theorem decodeFrom_encodeChar (c : Char) (position : Nat) (rest : Bytes) :
    decodeFrom position (encodeChar c ++ rest) =
      match decodeFrom (position + (encodeChar c).length) rest with
      | .ok characters => .ok (c :: characters)
      | .error fault => .error fault := by
  have valid : c.toNat < 0xD800 ∨ 0xDFFF < c.toNat ∧ c.toNat < 0x110000 := c.valid
  -- it is enough that the lead octet announces what the others keep
  suffices kept : ∃ octet others lead, encodeChar c = octet :: others ∧
      lead? octet.toNat = some lead ∧
      follow 1 lead.lowest lead.highest lead.bits lead.following (others ++ rest) =
        .ok (c.toNat, (encodeChar c).length, rest) by
    obtain ⟨octet, others, lead, octets, announced, followed⟩ := kept
    have read := decodeFrom_of_follow announced followed position
    rwa [Char.ofNat_toNat, ← List.cons_append, ← octets] at read
  unfold encodeChar
  by_cases one : c.toNat < 0x80
  · rw [if_pos one]
    exact ⟨_, [], _, rfl, by rw [toNat_ofNat_of_lt (by omega), lead?_one one], rfl⟩
  by_cases two : c.toNat < 0x800
  · rw [if_neg one, if_pos two]
    refine ⟨_, [continuation c.toNat], _, rfl,
      by rw [toNat_ofNat_of_lt (by omega), lead?_two (by omega) (by omega)], ?_⟩
    have whole : 64 * (c.toNat / 64) + c.toNat % 64 = c.toNat := Nat.div_add_mod _ _
    rw [List.singleton_append, follow_later, whole]
    rfl
  by_cases three : c.toNat < 0x10000
  · rw [if_neg one, if_neg two, if_pos three]
    refine ⟨_, [continuation (c.toNat / 64), continuation c.toNat], _, rfl,
      by rw [toNat_ofNat_of_lt (by omega), lead?_three (by omega)], ?_⟩
    have whole : 64 * (64 * (c.toNat / 4096) + c.toNat / 64 % 64) + c.toNat % 64 = c.toNat := by
      omega
    simp only [List.cons_append, List.nil_append]
    rw [follow_continuation _ (by split <;> split <;> omega), follow_later, whole]
    rfl
  · rw [if_neg one, if_neg two, if_neg three]
    refine ⟨_, [continuation (c.toNat / 4096), continuation (c.toNat / 64), continuation c.toNat],
      _, rfl, by rw [toNat_ofNat_of_lt (by omega), lead?_four (by omega)], ?_⟩
    have whole : 64 * (64 * (64 * (c.toNat / 262144) + c.toNat / 4096 % 64) + c.toNat / 64 % 64) +
        c.toNat % 64 = c.toNat := by
      omega
    simp only [List.cons_append, List.nil_append]
    rw [follow_continuation _ (by split <;> split <;> omega), follow_later, follow_later, whole]
    rfl

/-! ### Texts -/

theorem decodeFrom_encode (text : List Char) (position : Nat) :
    decodeFrom position (text.flatMap encodeChar) = .ok text := by
  induction text generalizing position with
  | nil => rw [List.flatMap_nil, decodeFrom]
  | cons c rest inductionHypothesis =>
    rw [List.flatMap_cons, decodeFrom_encodeChar, inductionHypothesis]

/-- A text comes back from its octets. -/
theorem decode_encode (text : String) : decode (encode text) = .ok text := by
  rw [decode, encode, decodeFrom_encode]
  exact congrArg Except.ok String.ofList_toList

/-! ### Octets that are read -/

/-- An octet that is due and was read lies in its range. -/
theorem exists_of_follow_succ {length lowest highest code count : Nat} {octets : Bytes}
    {result : Nat × Nat × Bytes}
    (kept : follow length lowest highest code (count + 1) octets = .ok result) :
    ∃ octet rest, octets = octet :: rest ∧ lowest ≤ octet.toNat ∧ octet.toNat ≤ highest ∧
      follow (length + 1) 0x80 0xBF (64 * code + octet.toNat % 64) count rest = .ok result := by
  cases octets with
  | nil => cases kept
  | cons octet rest =>
    rw [follow] at kept
    split at kept
    · rename_i within
      exact ⟨octet, rest, rfl, within.1, within.2, kept⟩
    · cases kept

theorem of_follow_zero {length lowest highest code : Nat} {octets : Bytes}
    {result : Nat × Nat × Bytes}
    (kept : follow length lowest highest code 0 octets = .ok result) :
    result = (code, length, octets) := by
  cases octets <;> exact (Except.ok.inj kept).symm

/-- An octet is determined by its number. -/
theorem ofNat_eq_of_toNat (octet : UInt8) {value : Nat} (same : value = octet.toNat) :
    UInt8.ofNat value = octet := by
  rw [same, UInt8.ofNat_toNat]

/-- A continuation octet is determined by its lowest six bits. -/
theorem continuation_eq {octet : UInt8} {value : Nat} (low : 0x80 ≤ octet.toNat)
    (high : octet.toNat ≤ 0xBF) (bits : value % 64 = octet.toNat % 64) :
    continuation value = octet :=
  ofNat_eq_of_toNat octet (by omega)

theorem toNat_charOfNat {code : Nat} (valid : code < 0xD800 ∨ 0xDFFF < code ∧ code < 0x110000) :
    (Char.ofNat code).toNat = code := by
  have isValid : code.isValidChar := valid
  rw [Char.ofNat, dif_pos isValid]
  rfl

/-- A lead octet and the octets that keep what it announces are the octets of the character that
is read from them. -/
theorem encodeChar_of_follow {octet : UInt8} {rest left : Bytes} {lead : Lead} {code length : Nat}
    (announced : lead? octet.toNat = some lead)
    (kept : follow 1 lead.lowest lead.highest lead.bits lead.following rest =
      .ok (code, length, left)) :
    octet :: rest = encodeChar (Char.ofNat code) ++ left := by
  unfold lead? at announced
  split at announced
  · rename_i one
    obtain rfl := Option.some.inj announced
    obtain ⟨rfl, -, rfl⟩ := by simpa using of_follow_zero kept
    rw [encodeChar, toNat_charOfNat (.inl (by omega)), if_pos one, ofNat_eq_of_toNat octet rfl]
    rfl
  split at announced
  · cases announced
  rename_i notOne notContinuation
  split at announced
  · obtain rfl := Option.some.inj announced
    obtain ⟨first, rest, rfl, low, high, kept⟩ := exists_of_follow_succ kept
    obtain ⟨rfl, -, rfl⟩ := by simpa using of_follow_zero kept
    rw [encodeChar, toNat_charOfNat (.inl (by omega)), if_neg (by omega), if_pos (by omega),
      ofNat_eq_of_toNat octet (by omega), continuation_eq low high (by omega)]
    rfl
  rename_i notTwo
  split at announced
  · obtain rfl := Option.some.inj announced
    obtain ⟨first, rest, rfl, low, high, kept⟩ := exists_of_follow_succ kept
    obtain ⟨second, rest, rfl, low', high', kept⟩ := exists_of_follow_succ kept
    obtain ⟨rfl, -, rfl⟩ := by simpa using of_follow_zero kept
    -- the range of the first octet keeps shorter forms and surrogates out
    have lowest : 0x80 ≤ first.toNat ∧ (octet.toNat = 0xE0 → 0xA0 ≤ first.toNat) := by
      simp only at low
      split at low <;> omega
    have highest : first.toNat ≤ 0xBF ∧ (octet.toNat = 0xED → first.toNat ≤ 0x9F) := by
      simp only at high
      split at high <;> omega
    rw [encodeChar, toNat_charOfNat (by omega), if_neg (by omega), if_neg (by omega),
      if_pos (by omega), ofNat_eq_of_toNat octet (by omega),
      continuation_eq lowest.1 highest.1 (by omega), continuation_eq low' high' (by omega)]
    rfl
  rename_i notThree
  split at announced
  · obtain rfl := Option.some.inj announced
    obtain ⟨first, rest, rfl, low, high, kept⟩ := exists_of_follow_succ kept
    obtain ⟨second, rest, rfl, low', high', kept⟩ := exists_of_follow_succ kept
    obtain ⟨third, rest, rfl, low'', high'', kept⟩ := exists_of_follow_succ kept
    obtain ⟨rfl, -, rfl⟩ := by simpa using of_follow_zero kept
    have lowest : 0x80 ≤ first.toNat ∧ (octet.toNat = 0xF0 → 0x90 ≤ first.toNat) := by
      simp only at low
      split at low <;> omega
    have highest : first.toNat ≤ 0xBF ∧ (octet.toNat = 0xF4 → first.toNat ≤ 0x8F) := by
      simp only at high
      split at high <;> omega
    rw [encodeChar, toNat_charOfNat (by omega), if_neg (by omega), if_neg (by omega),
      if_neg (by omega), ofNat_eq_of_toNat octet (by omega),
      continuation_eq lowest.1 highest.1 (by omega), continuation_eq low' high' (by omega),
      continuation_eq low'' high'' (by omega)]
    rfl
  · cases announced

/-- Octets that are read as characters are the octets of these characters. -/
theorem encode_of_decodeFrom {position : Nat} {octets : Bytes} {characters : List Char}
    (read : decodeFrom position octets = .ok characters) :
    characters.flatMap encodeChar = octets := by
  fun_induction decodeFrom position octets generalizing characters with
  | case1 position =>
    obtain rfl := Except.ok.inj read
    rfl
  | case2 position octet rest unannounced => cases read
  | case3 position octet rest lead announced length reason failed => cases read
  | case4 position octet rest lead announced code length left followed others readOthers
      inductionHypothesis =>
    obtain rfl := Except.ok.inj read
    rw [List.flatMap_cons, inductionHypothesis readOthers]
    exact (encodeChar_of_follow announced followed).symm
  | case5 position octet rest lead announced code length left followed fault failed => cases read

/-- Octets that are read as a text are the octets of this text. -/
theorem encode_of_decode {octets : Bytes} {text : String} (read : decode octets = .ok text) :
    encode text = octets := by
  unfold decode at read
  split at read
  · rename_i characters charactersRead
    obtain rfl := Except.ok.inj read
    rw [encode, String.toList_ofList]
    exact encode_of_decodeFrom charactersRead
  · cases read

end Bolt11.Text.Utf8
