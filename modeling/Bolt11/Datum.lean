/-
This file holds the values that settings and stored invoices are made of: the values of a JSON
document. Texts are made of characters; the lone halves of surrogate pairs that a document can spell
are none.
-/

import Bolt11.Fraction
import Bolt11.Text.Numeral
import Bolt11.Text.Quoted

namespace Bolt11

/-- A value of a document. The entries of an object have different keys and keep their order. -/
inductive Datum where
  | null
  | bool (value : Bool)
  | int (value : Int)
  | fraction (value : Fraction)
  | text (value : String)
  | list (items : List Datum)
  | object (entries : List (String × Datum))
  deriving Inhabited, Repr

namespace Datum

/-! ### Looking up -/

/-- The entry of an object under a key. -/
def lookup (key : String) : List (String × Datum) → Option Datum
  | [] => none
  | (name, value) :: rest => if name = key then some value else lookup key rest

/-- The absent value as null. -/
def ofOption : Option Datum → Datum
  | none => null
  | some value => value

/-- Whether the value is null. -/
def isNull : Datum → Bool
  | null => true
  | _ => false

/-! ### Numbers -/

/-- The integer of a value that is one; the truth values count as one and zero. -/
def asInt? : Datum → Option Int
  | bool value => some (if value then 1 else 0)
  | int value => some value
  | _ => none

/-- A value that is a finite number, as an integer and a count of decimal places. -/
def asNumber? : Datum → Option (Int × Nat)
  | bool value => some (if value then 1 else 0, 0)
  | int value => some (value, 0)
  | fraction value => value.value?
  | _ => none

/-- Whether a value counts as true: every number but zero, and whatever is not empty. -/
def isTruthy : Datum → Bool
  | null => false
  | bool value => value
  | int value => value != 0
  | fraction value => !value.isZero
  | text value => value != ""
  | list items => !items.isEmpty
  | object entries => !entries.isEmpty

/-! ### Equality -/

mutual

/-- Whether two values are equal. Numbers are compared by value, and the truth values are the
numbers one and zero. The order of the entries of an object does not matter. -/
def same : Datum → Datum → Bool
  | null, null => true
  | text left, text right => left == right
  | list left, list right => sameItems left right
  | object left, object right => left.length == right.length && sameEntries left right
  | fraction (.infinite left), fraction (.infinite right) => left == right
  | left, right =>
    match left.asNumber?, right.asNumber? with
    | some (digits, places), some (others, otherPlaces) =>
      digits * Nat.pow 10 otherPlaces == others * Nat.pow 10 places
    | _, _ => false

/-- Item-wise equality. -/
def sameItems : List Datum → List Datum → Bool
  | [], [] => true
  | left :: lefts, right :: rights => same left right && sameItems lefts rights
  | _, _ => false

/-- Whether every entry has an equal one under its key. -/
def sameEntries : List (String × Datum) → List (String × Datum) → Bool
  | [], _ => true
  | (key, left) :: lefts, rights =>
    match lookup key rights with
    | some right => same left right && sameEntries lefts rights
    | none => false

end

instance : BEq Datum := ⟨same⟩

/-! ### Printing -/

mutual

/-- A value as messages quote it. -/
def print : Datum → String
  | null => "None"
  | bool value => if value then "True" else "False"
  | int value => toString value
  | fraction value => value.print
  | text value => Text.quoted value
  | list items => "[" ++ String.intercalate ", " (printItems items) ++ "]"
  | object entries => "\x7b" ++ String.intercalate ", " (printEntries entries) ++ "\x7d"

/-- The items of a list, printed. -/
def printItems : List Datum → List String
  | [] => []
  | item :: rest => print item :: printItems rest

/-- The entries of an object, printed. -/
def printEntries : List (String × Datum) → List String
  | [] => []
  | (key, value) :: rest => (Text.quoted key ++ ": " ++ print value) :: printEntries rest

end

mutual

/-- Whether a value can be printed: the runtime writes every number in it. -/
def isPrintable [Runtime] : Datum → Bool
  | int value => Runtime.writes value
  | list items => arePrintable items
  | object entries => areEntriesPrintable entries
  | _ => true

/-- Whether the items of a list can be printed. -/
def arePrintable [Runtime] : List Datum → Bool
  | [] => true
  | item :: rest => isPrintable item && arePrintable rest

/-- Whether the entries of an object can be printed. -/
def areEntriesPrintable [Runtime] : List (String × Datum) → Bool
  | [] => true
  | (_, value) :: rest => isPrintable value && areEntriesPrintable rest

end

mutual

/-- Without a limit every value can be printed. -/
theorem isPrintable_of_unlimited [Runtime] (unlimited : Runtime.digitLimit = none)
    (value : Datum) : value.isPrintable = true := by
  cases value with
  | int value =>
    rw [isPrintable]
    exact Runtime.writes_of_unlimited unlimited value
  | list items =>
    rw [isPrintable]
    exact arePrintable_of_unlimited unlimited items
  | object entries =>
    rw [isPrintable]
    exact areEntriesPrintable_of_unlimited unlimited entries
  | _ => rfl

theorem arePrintable_of_unlimited [Runtime] (unlimited : Runtime.digitLimit = none)
    (items : List Datum) : arePrintable items = true := by
  cases items with
  | nil => rfl
  | cons item rest =>
    rw [arePrintable, isPrintable_of_unlimited unlimited item,
      arePrintable_of_unlimited unlimited rest]
    rfl

theorem areEntriesPrintable_of_unlimited [Runtime] (unlimited : Runtime.digitLimit = none)
    (entries : List (String × Datum)) : areEntriesPrintable entries = true := by
  cases entries with
  | nil => rfl
  | cons entry rest =>
    rw [areEntriesPrintable, isPrintable_of_unlimited unlimited entry.2,
      areEntriesPrintable_of_unlimited unlimited rest]
    rfl

end

/-- A value as text: a text is itself, anything else is printed. -/
def toText : Datum → String
  | text value => value
  | value => value.print

end Datum

end Bolt11
