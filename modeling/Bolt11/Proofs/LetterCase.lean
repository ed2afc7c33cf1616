/-
This file proves which texts are in ASCII once they are in lower case.

ASCII stays ASCII letter by letter. Of all other characters only the Kelvin sign moves into it: its
lower case is the letter k, and it is its own upper case, so it passes for a capital K wherever
texts are compared by their cases. Every other letter beyond ASCII keeps at least one character
beyond it, the dotted capital I its second dot and the capital sigma whatever form it takes. So a
text whose lower case is in ASCII is in ASCII itself but for Kelvin signs, and it goes to either
case letter by letter.
-/

import Bolt11.Text.LetterCase
import Mathlib.Data.List.Basic

namespace Bolt11.Text

/-! ### Facts that can be computed -/

/-- What holds of the first code points holds of every character of ASCII. -/
theorem forall_ascii {property : Char → Prop} (codes : ∀ code < 0x80, property (Char.ofNat code)) :
    ∀ c : Char, c.toNat < 0x80 → property c := by
  intro c ascii
  have own := codes c.toNat ascii
  rwa [Char.ofNat_toNat] at own

/-- A text is left alone by a map just if each of its characters is. -/
theorem map_eq_self_iff {change : Char → Char} {text : List Char} :
    text.map change = text ↔ ∀ c ∈ text, change c = c := by
  have pointwise : text.map change = text.map id ↔ ∀ c ∈ text, change c = id c :=
    List.map_inj_left
  rwa [List.map_id] at pointwise

/-! ### One character -/

/-- The sign of the unit of temperature, which is not the letter K but has its lower case. -/
def kelvinSign : Char := Char.ofNat 0x212A

/-- The letter that a character passes for: K for the Kelvin sign, itself for any other. -/
def latinK (c : Char) : Char := if c = kelvinSign then 'K' else c

theorem latinK_of_ne {c : Char} (other : c ≠ kelvinSign) : latinK c = c := if_neg other

theorem latinK_of_ascii {c : Char} (ascii : c.toNat < 0x80) : latinK c = c := by
  refine latinK_of_ne ?_
  rintro rfl
  exact absurd ascii (by decide)

/-- A character that passes for one of ASCII is the Kelvin sign or in ASCII itself. -/
theorem latin_cases {c : Char} (latin : (latinK c).toNat < 0x80) :
    c = kelvinSign ∨ (c.toNat < 0x80 ∧ latinK c = c) := by
  by_cases kelvin : c = kelvinSign
  · exact .inl kelvin
  · have same := latinK_of_ne kelvin
    rw [same] at latin
    exact .inr ⟨latin, same⟩

theorem lowerChar_of_latin {c : Char} (latin : (latinK c).toNat < 0x80) :
    lowerChar c = [(latinK c).toLower] := by
  rcases latin_cases latin with rfl | ⟨ascii, same⟩
  · decide
  · rw [same]
    exact if_pos ascii

theorem upperChar_of_latin {c : Char} (latin : (latinK c).toNat < 0x80) :
    upperChar c = [c.toUpper] := by
  rcases latin_cases latin with rfl | ⟨ascii, -⟩
  · decide
  · exact if_pos ascii

/-- Lower case stays within ASCII. -/
theorem toLower_ascii : ∀ c : Char, c.toNat < 0x80 → c.toLower.toNat < 0x80 :=
  forall_ascii (by decide)

/-- The map of ASCII letters leaves every other character alone. -/
theorem toLower_of_beyond {c : Char} (beyond : 0x80 ≤ c.toNat) : c.toLower = c := by
  refine dif_neg fun capital => ?_
  have most : c.toNat ≤ 'Z'.toNat := UInt32.le_iff_toNat_le.mp capital.2
  exact absurd (Nat.le_trans beyond most) (by decide)

/-- A character is its own lower case if the letter it passes for is not a capital, and its own
upper case if that letter is not a small one. -/
theorem own_case_iff {c : Char} (latin : (latinK c).toNat < 0x80) :
    ((latinK c).toLower = c ↔ (latinK c).isUpper = false) ∧
      (c.toUpper = c ↔ (latinK c).isLower = false) := by
  have ofAscii : ∀ c : Char, c.toNat < 0x80 →
      (c.toLower = c ↔ c.isUpper = false) ∧ (c.toUpper = c ↔ c.isLower = false) :=
    forall_ascii (by decide)
  rcases latin_cases latin with rfl | ⟨ascii, same⟩
  · decide
  · rw [same]
    exact ofAscii c ascii

/-- The capital of a character that passes for one of ASCII does so too, has the same lower case and
is its own capital. -/
theorem toUpper_of_latin {c : Char} (latin : (latinK c).toNat < 0x80) :
    (latinK c.toUpper).toNat < 0x80 ∧ (latinK c.toUpper).toLower = (latinK c).toLower ∧
      c.toUpper.toUpper = c.toUpper := by
  have ofAscii : ∀ c : Char, c.toNat < 0x80 →
      c.toUpper.toNat < 0x80 ∧ c.toUpper.toLower = c.toLower ∧ c.toUpper.toUpper = c.toUpper :=
    forall_ascii (by decide)
  rcases latin_cases latin with rfl | ⟨ascii, same⟩
  · decide
  · obtain ⟨stays, lower, twice⟩ := ofAscii c ascii
    rw [latinK_of_ascii stays, same]
    exact ⟨stays, lower, twice⟩

/-! ### Characters beyond ASCII -/

/-- No row of the table but that of the Kelvin sign leads into ASCII, and no row leads outside the
characters. -/
theorem lowerRows_facts : ∀ row ∈ lowerRows,
    (row.first = 0x212A ∧ row.last = 0x212A) ∨
      (0x80 ≤ row.first + row.shift ∧ (row.last + row.shift < 0xD800 ∨
        (0xDFFF < row.first + row.shift ∧ row.last + row.shift < 0x110000))) := by
  decide +kernel

/-- A character that a row moves to a code point of a character becomes that character. -/
theorem toNat_target {row : CaseRow} {code : Nat}
    (valid : (code + row.shift).toNat.isValidChar) :
    (row.target code).toNat = (code + row.shift).toNat := by
  rw [CaseRow.target, Char.ofNat, dif_pos valid]
  rfl

/-- The lower case of a character beyond ASCII has a character beyond ASCII, unless it is that of
the Kelvin sign. -/
theorem exists_beyond_of_lowerChar {c : Char} (beyond : 0x80 ≤ c.toNat) (other : c ≠ kelvinSign) :
    ∃ image ∈ lowerChar c, 0x80 ≤ image.toNat := by
  rw [lowerChar, if_neg (Nat.not_lt.mpr beyond)]
  unfold recase
  split
  · rename_i entry spelled
    obtain rfl := List.mem_singleton.mp (List.mem_of_find?_eq_some spelled)
    exact ⟨Char.ofNat 0x307, by decide, by decide⟩
  split
  · rename_i row found
    have covered := List.find?_some found
    simp only [CaseRow.covers, Bool.and_eq_true, decide_eq_true_eq] at covered
    obtain ⟨⟨atLeast, atMost⟩, -⟩ := covered
    refine ⟨row.target c.toNat, List.mem_singleton_self _, ?_⟩
    rcases lowerRows_facts row (List.mem_of_find?_eq_some found) with ⟨first, last⟩ | ⟨far, valid⟩
    · have code : c.toNat = 0x212A := by omega
      exact absurd (by rw [kelvinSign, ← code, Char.ofNat_toNat]) other
    · rw [toNat_target (by unfold Nat.isValidChar; omega)]
      omega
  · exact ⟨c, List.mem_singleton_self c, beyond⟩

/-- The lower case of a capital sigma is beyond ASCII, whatever stands around it. -/
theorem exists_beyond_of_capitalSigma {text : List Char} (before : List Char)
    (member : capitalSigma ∈ text) : ∃ image ∈ lowerAfter before text, 0x80 ≤ image.toNat := by
  induction text generalizing before with
  | nil => cases member
  | cons c rest inductionHypothesis =>
    rw [lowerAfter]
    rcases List.mem_cons.mp member with rfl | later
    · refine ⟨lowerSigma before rest, List.mem_append_left _ ?_, ?_⟩
      · rw [if_pos rfl]
        exact List.mem_singleton_self _
      · unfold lowerSigma
        split <;> decide
    · obtain ⟨image, among, beyond⟩ := inductionHypothesis (c :: before) later
      exact ⟨image, List.mem_append_right _ among, beyond⟩

/-- A text whose lower case is in ASCII is in ASCII but for Kelvin signs. -/
theorem latin_of_lower_ascii {text : List Char} (ascii : ∀ image ∈ lower text, image.toNat < 0x80) :
    ∀ c ∈ text, (latinK c).toNat < 0x80 := by
  have absent : capitalSigma ∉ text := by
    intro member
    obtain ⟨image, among, beyond⟩ := exists_beyond_of_capitalSigma [] member
    exact absurd (ascii image among) (Nat.not_lt.mpr beyond)
  rw [lower_eq_flatMap absent] at ascii
  intro c member
  by_cases kelvin : c = kelvinSign
  · rw [kelvin]
    decide
  · rw [latinK_of_ne kelvin]
    by_contra beyond
    obtain ⟨image, among, far⟩ := exists_beyond_of_lowerChar (Nat.not_lt.mp beyond) kelvin
    exact absurd (ascii image (List.mem_flatMap.mpr ⟨c, member, among⟩)) (Nat.not_lt.mpr far)

/-! ### Texts in ASCII but for Kelvin signs -/

section

variable {text : List Char} (latin : ∀ c ∈ text, (latinK c).toNat < 0x80)

include latin

/-- Such a text has no capital sigma, so it goes to lower case letter by letter. -/
theorem lower_of_latin : lower text = text.map fun c => (latinK c).toLower := by
  have absent : capitalSigma ∉ text := fun member => absurd (latin _ member) (by decide)
  rw [lower_eq_flatMap absent, List.map_eq_flatMap, List.flatMap_def, List.flatMap_def]
  exact congrArg List.flatten
    (List.map_congr_left fun c member => lowerChar_of_latin (latin c member))

theorem upper_of_latin : upper text = text.map Char.toUpper := by
  rw [upper, List.map_eq_flatMap, List.flatMap_def, List.flatMap_def]
  exact congrArg List.flatten
    (List.map_congr_left fun c member => upperChar_of_latin (latin c member))

/-- Such a text is in lower case if it passes for a text without capitals. -/
theorem lower_eq_self_iff : lower text = text ↔ ∀ c ∈ text, (latinK c).isUpper = false := by
  rw [lower_of_latin latin, map_eq_self_iff]
  exact forall₂_congr fun c member => (own_case_iff (latin c member)).1

/-- Such a text is in upper case if it passes for a text without small letters. -/
theorem upper_eq_self_iff : upper text = text ↔ ∀ c ∈ text, (latinK c).isLower = false := by
  rw [upper_of_latin latin, map_eq_self_iff]
  exact forall₂_congr fun c member => (own_case_iff (latin c member)).2

end

/-- A text in ASCII goes to lower case letter by letter. -/
theorem lower_of_ascii {text : List Char} (ascii : ∀ c ∈ text, c.toNat < 0x80) :
    lower text = text.map Char.toLower := by
  rw [lower_of_latin fun c member => by rw [latinK_of_ascii (ascii c member)]; exact ascii c member]
  exact List.map_congr_left fun c member => by rw [latinK_of_ascii (ascii c member)]

/-- A text in ASCII without upper-case letters is its own lower case. -/
theorem lower_of_lowered {text : List Char}
    (lowered : ∀ c ∈ text, c.toNat < 0x80 ∧ c.toLower = c) : lower text = text := by
  rw [lower_of_ascii fun c member => (lowered c member).1]
  exact (List.map_congr_left fun c member => (lowered c member).2).trans (List.map_id text)

/-- The lower case of a text has no capital letters if it is in ASCII. -/
theorem lowered_of_ascii {text : List Char} (ascii : ∀ c ∈ lower text, c.toNat < 0x80) :
    ∀ c ∈ lower text, c.isUpper = false := by
  have latin := latin_of_lower_ascii ascii
  have small : ∀ c : Char, c.toNat < 0x80 → c.toLower.isUpper = false := forall_ascii (by decide)
  rw [lower_of_latin latin]
  intro c member
  obtain ⟨own, among, rfl⟩ := List.mem_map.mp member
  exact small _ (latin own among)

end Bolt11.Text
