import LogViewer.Text.CodeTable

/-!
# Tables of names

The names of characters are written as a text of entries, separated by commas or line ends. An entry
begins with the hexadecimal code point and a colon, unless that follows the one of the entry before.
A small letter says how many words the name shares with the one before it, `a` for none, and the
rest of the name follows.

    20:aSPACE,aEXCLAMATION MARK,41:aLATIN CAPITAL LETTER A,dB

## Main definitions

- `NameTable.entries`: the entries of a text
- `NameTable.find?`: the code point of a name
-/

namespace LogViewer.Text.NameTable

/-- The words of a name. -/
abbrev Name := List (List Char)

/-- Cuts at characters of a class, with the piece read so far in reverse. -/
def cut (ends : Char → Bool) : List Char → List Char → List (List Char)
  | [], piece => [piece.reverse]
  | c :: rest, piece =>
    if ends c then piece.reverse :: cut ends rest [] else cut ends rest (c :: piece)

/-- The entries of a text. -/
def entries (text : String) : List (List Char) :=
  cut (fun c => c == ',' || c == '\n') text.toList []

/-- The words of a text. -/
def wordsOf (text : List Char) : Name :=
  cut (· == ' ') text []

/-- The name of an entry, given the name before it. -/
def nameAfter (before : Name) : List Char → Name
  | [] => before
  | [shared] => before.take (shared.toNat - 97)
  | shared :: rest => before.take (shared.toNat - 97) ++ wordsOf rest

/-- The code point and the name of an entry, given those before it. -/
def readEntry (code : Nat) (before : Name) (entry : List Char) : Nat × Name :=
  match entry.dropWhile (· != ':') with
  | ':' :: rest =>
    let digits := entry.takeWhile (· != ':')
    (digits.foldl (fun n c => n * 16 + hexValue c) 0, nameAfter before rest)
  | _ => (code + 1, nameAfter before entry)

/-- The code point of a name among some entries, given what is before them. -/
def findFrom (name : Name) : Nat → Name → List (List Char) → Option Nat
  | _, _, [] => none
  | code, before, entry :: rest =>
    let (code, found) := readEntry code before entry
    if found = name then some code else findFrom name code found rest

/-- The code point of a name in a table. -/
def find? (table : String) (name : Name) : Option Nat :=
  findFrom name 0 [] (entries table)

end LogViewer.Text.NameTable
