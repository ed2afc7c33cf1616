/-
This file fixes which characters are blank, and how a text loses the blanks at its two ends.

The class is the white space of the character standard together with the four ASCII information
separators. The zero-width space, the byte order mark and the Mongolian vowel separator are not
blank.
-/

namespace Bolt11.Text

/-- Whether a character is blank. -/
def isBlank (c : Char) : Bool :=
  let code := c.toNat
  (0x09 ≤ code && code ≤ 0x0D) || (0x1C ≤ code && code ≤ 0x20) || code == 0x85 || code == 0xA0 ||
  code == 0x1680 || (0x2000 ≤ code && code ≤ 0x200A) || code == 0x2028 || code == 0x2029 ||
  code == 0x202F || code == 0x205F || code == 0x3000

/-- A text without the characters of a class at its two ends. -/
def trimBy (margin : Char → Bool) (text : List Char) : List Char :=
  ((text.dropWhile margin).reverse.dropWhile margin).reverse

theorem dropWhile_of_head {margin : Char → Bool} {text : List Char}
    (solid : ∀ c ∈ text.head?, margin c = false) : text.dropWhile margin = text := by
  cases text with
  | nil => rfl
  | cons c rest =>
    have first : ¬ margin c = true := by simp [solid c rfl]
    rw [List.dropWhile_cons_of_neg first]

/-- A text without characters of the class is left as it is. -/
theorem trimBy_of_solid {margin : Char → Bool} {text : List Char}
    (solid : ∀ c ∈ text, margin c = false) : trimBy margin text = text := by
  have first : ∀ c ∈ text.head?, margin c = false := fun c member =>
    solid c (List.mem_of_head? member)
  have last : ∀ c ∈ text.reverse.head?, margin c = false := fun c member =>
    solid c (List.mem_reverse.mp (List.mem_of_head? member))
  rw [trimBy, dropWhile_of_head first, dropWhile_of_head last, List.reverse_reverse]

/-- A text without the blanks at its two ends. -/
def trim (text : List Char) : List Char := trimBy isBlank text

end Bolt11.Text
