import LogViewer.Text.CharacterName.Aliases
import LogViewer.Text.CharacterName.Alphabets
import LogViewer.Text.CharacterName.Ancient
import LogViewer.Text.CharacterName.Historic
import LogViewer.Text.CharacterName.Music
import LogViewer.Text.CharacterName.Pictures
import LogViewer.Text.CharacterName.Scripts
import LogViewer.Text.CharacterName.Syllabaries
import LogViewer.Text.CharacterName.Symbols
import LogViewer.Text.NameTable

/-!
# Character names

Every character has a name in the Unicode character database. Most names are listed; those of the
Hangul syllables are composed of the short names of their parts, and those of ideographs are made of
the code point. Case does not count in listed names, but it does in the names of Hangul syllables
and unified ideographs.

## Main definitions

- `characterNamed?`: the code point of a name
-/

namespace LogViewer.Text

namespace CharacterName

/-! ## §1 Hangul syllables -/

/-- Short names of the leading consonants. -/
def leading : List (List Char) :=
  ["G", "GG", "N", "D", "DD", "R", "M", "B", "BB", "S", "SS", "", "J", "JJ", "C", "K", "T", "P",
    "H"].map String.toList

/-- Short names of the vowels. -/
def vowels : List (List Char) :=
  ["A", "AE", "YA", "YAE", "EO", "E", "YEO", "YE", "O", "WA", "WAE", "OE", "YO", "U", "WEO", "WE",
    "WI", "YU", "EU", "YI", "I"].map String.toList

/-- Short names of the trailing consonants, where the first is none. -/
def trailing : List (List Char) :=
  ["", "G", "GG", "GS", "N", "NJ", "NH", "D", "L", "LG", "LM", "LB", "LS", "LT", "LP", "LH", "M", "B",
    "BS", "S", "SS", "NG", "J", "C", "K", "T", "P", "H"].map String.toList

/-- The longest of some names that a text begins with, as its place in the list, and what follows.
-/
def longest? (names : List (List Char)) (text : List Char) : Option (Nat × List Char) :=
  let fits := names.zipIdx.filter fun n => n.1.isPrefixOf text
  let best := fits.foldl (fun best n =>
    match best with
    | none => some n
    | some b => if b.1.length < n.1.length then some n else best) none
  best.map fun b => (b.2, text.drop b.1.length)

/-- What follows a given beginning. -/
def after? (beginning : String) (text : List Char) : Option (List Char) :=
  if beginning.toList.isPrefixOf text then some (text.drop beginning.length) else none

/-- A Hangul syllable. -/
def hangul? (name : List Char) : Option Nat := do
  let rest ← after? "HANGUL SYLLABLE " name
  let (l, rest) ← longest? leading rest
  let (v, rest) ← longest? vowels rest
  let (t, rest) ← longest? trailing rest
  if rest.isEmpty then some (0xac00 + (l * 21 + v) * 28 + t) else none

/-! ## §2 Ideographs -/

/-- Value of a hexadecimal digit in upper case. -/
def upperHex? (c : Char) : Option Nat :=
  if '0' ≤ c ∧ c ≤ '9' then some (c.toNat - 48)
  else if 'A' ≤ c ∧ c ≤ 'F' then some (c.toNat - 55)
  else none

/-- Value of a hexadecimal number in upper case. -/
def upperNumber? (digits : List Char) : Option Nat :=
  digits.foldlM (fun n c => (upperHex? c).map (n * 16 + ·)) 0

/-- The unified ideographs. -/
def unified : RangeTable := .ofText
  "3400,4dbf 4e00,9fff 20000,2a6df 2a700,2b738 2b740,2b81d 2b820,2cea1 2ceb0,2ebe0 30000,3134a"

/-- A unified ideograph: its code point in four or five digits. -/
def unified? (name : List Char) : Option Nat := do
  let digits ← after? "CJK UNIFIED IDEOGRAPH-" name
  let code ← upperNumber? digits
  if (digits.length = 4 ∨ digits.length = 5) ∧ unified.holds code then some code else none

/-- Other characters whose name ends in their code point: how their names begin, and which they
are. -/
def numbered : List (String × RangeTable) :=
  [("CJK COMPATIBILITY IDEOGRAPH-", .ofText "f900,fa6d fa70,fad9 2f800,2fa1d"),
    ("KHITAN SMALL SCRIPT CHARACTER-", .ofText "18b00,18cd5"),
    ("NUSHU CHARACTER-", .ofText "1b170,1b2fb")]

/-- A character whose name ends in its code point, written in as few digits as there are, but at
least four. -/
def numbered? (name : List Char) : Option Nat :=
  numbered.findSome? fun (start, codes) => do
    let digits ← after? start name
    let code ← upperNumber? digits
    let length := if code < 0x10000 then 4 else 5
    if digits.length = length ∧ codes.holds code then some code else none

/-! ## §3 Variation selectors -/

/-- The short name of a variation selector: its number from 1 to 256. -/
def selector? (name : List Char) : Option Nat := do
  let digits ← after? "VS" name
  let number := digits.foldl (fun n c => n * 10 + (c.toNat - 48)) 0
  if digits.all Char.isDigit ∧ digits.head? ≠ some '0' ∧ 1 ≤ number ∧ number ≤ 256 then
    some (if number ≤ 16 then 0xfe00 + number - 1 else 0xe0100 + number - 17)
  else none

/-! ## §4 Listed names -/

/-- The tables of names. -/
def tables : List String :=
  [alphabets, scripts, symbols, syllabaries, ancient, historic, music, pictures, aliases]

/-- A name that is listed. -/
def listed? (name : List Char) : Option Nat :=
  let words := NameTable.wordsOf name
  tables.findSome? fun table => NameTable.find? table words

/-- An ASCII letter in upper case, and any other character as it is. -/
def upper (c : Char) : Char := if 'a' ≤ c ∧ c ≤ 'z' then Char.ofNat (c.toNat - 32) else c

end CharacterName

open CharacterName

/-- The code point of a character name. -/
def characterNamed? (name : List Char) : Option Nat :=
  let capital := name.map upper
  (hangul? name).or ((unified? name).or ((numbered? capital).or ((selector? capital).or
    (listed? capital))))

end LogViewer.Text
