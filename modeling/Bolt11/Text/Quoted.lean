/-
This file writes a text the way messages quote it: between quotation marks, in visible
characters only.

The mark is the apostrophe, unless the text holds an apostrophe and no double quotation mark;
then it is the double one. A backslash and the mark in use get a backslash in front, line feed,
carriage return and tab have short escapes, and every other invisible character is written as
its code point in two, four or eight hexadecimal digits.
-/

import Bolt11.Text.Visible

namespace Bolt11.Text

/-- The lower-case hexadecimal digit of a number below sixteen. -/
def hexDigit (value : Nat) : Char :=
  "0123456789abcdef".toList.getD value '0'

/-- A number as `width` hexadecimal digits, leading zeros included. -/
def hexDigits : Nat → Nat → List Char
  | 0, _ => []
  | width + 1, value => hexDigits width (value / 16) ++ [hexDigit (value % 16)]

/-- A character by its code point, in the shortest of the three widths. -/
def escapedCode (code : Nat) : List Char :=
  if code < 0x100 then '\\' :: 'x' :: hexDigits 2 code
  else if code < 0x10000 then '\\' :: 'u' :: hexDigits 4 code
  else '\\' :: 'U' :: hexDigits 8 code

/-- A character as it stands between the given quotation marks. -/
def escapedChar (mark c : Char) : List Char :=
  if c = mark || c = '\\' then ['\\', c]
  else if c = '\n' then ['\\', 'n']
  else if c = '\r' then ['\\', 'r']
  else if c = '\t' then ['\\', 't']
  else if isVisible c then [c]
  else escapedCode c.toNat

/-- The quotation mark for a text. -/
def quotationMark (text : List Char) : Char :=
  if text.contains '\'' && !text.contains '"' then '"' else '\''

/-- A text between quotation marks. -/
def quoted (text : String) : String :=
  let characters := text.toList
  let mark := quotationMark characters
  String.ofList (mark :: characters.flatMap (escapedChar mark) ++ [mark])

/-- A list of texts, each between quotation marks. -/
def quotedList (texts : List String) : String :=
  "[" ++ String.intercalate ", " (texts.map quoted) ++ "]"

end Bolt11.Text
