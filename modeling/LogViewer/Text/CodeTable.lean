/-!
# Code point tables

Properties of characters are given as tables of code point ranges, in the notation of the
Unicode character database: hexadecimal numbers, an entry a word, the fields of an entry
separated by commas. `readRows` reads such a text and `RangeTable` answers membership.

## Main definitions

- `readRows`: the entries of a table text, each a list of its fields
- `RangeTable`: inclusive ranges of code points
- `RangeTable.holds`: membership
-/

namespace LogViewer.Text

/-! ## §1 Reading table texts -/

/-- Value of a hexadecimal digit in lower case, 0 for any other character. -/
def hexValue (c : Char) : Nat :=
  if '0' ≤ c ∧ c ≤ '9' then c.toNat - 48
  else if 'a' ≤ c ∧ c ≤ 'f' then c.toNat - 87
  else 0

/-- Reads the entries of a table text, with the number and the fields read so far. -/
def readRowsFrom : List Char → Nat → List Nat → List (List Nat)
  | [], number, fields => [(number :: fields).reverse]
  | ' ' :: rest, number, fields => (number :: fields).reverse :: readRowsFrom rest 0 []
  | ',' :: rest, number, fields => readRowsFrom rest 0 (number :: fields)
  | c :: rest, number, fields => readRowsFrom rest (number * 16 + hexValue c) fields

/-- Entries of a table text: words of hexadecimal fields separated by commas. -/
def readRows (text : String) : List (List Nat) :=
  readRowsFrom text.toList 0 []

/-! ## §2 Ranges -/

/-- Inclusive ranges of code points. -/
structure RangeTable where
  /-- First and last code point of each range. -/
  ranges : List (Nat × Nat)

namespace RangeTable

/-- Reads ranges: a word is one code point or the first and the last of a range. -/
def ofText (text : String) : RangeTable :=
  ⟨(readRows text).filterMap fun
    | [code] => some (code, code)
    | [first, last] => some (first, last)
    | _ => none⟩

/-- A code point is in the table when one of the ranges holds it. -/
def holds (table : RangeTable) (code : Nat) : Bool :=
  table.ranges.any fun r => r.1 ≤ code && code ≤ r.2

end RangeTable

end LogViewer.Text
