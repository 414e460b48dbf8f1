import LogViewer.Text.Basic

/-!
# White space

White space is the 29 characters with one of the bidirectional types B, S and WS or of category Zs:
the ASCII controls from tab to carriage return and from file to unit separator, the space, next
line, no-break space and the wider spaces of Unicode.

## Main definitions

- `isBlank`: white space
- `dropBlanks`, `trimRight`, `trim`: cutting white space off the ends
- `words`: the maximal pieces without white space
-/

namespace LogViewer.Text

/-! ## §1 The class -/

/-- A white space code point. -/
def isBlankCode (code : Nat) : Bool :=
  (9 ≤ code && code ≤ 13) || (28 ≤ code && code ≤ 32) || code == 0x85 || code == 0xa0
    || code == 0x1680 || (0x2000 ≤ code && code ≤ 0x200a) || code == 0x2028 || code == 0x2029
    || code == 0x202f || code == 0x205f || code == 0x3000

/-- A white space character. -/
def isBlank (c : CodePoint) : Bool :=
  isBlankCode c.toNat

/-- A code point of ASCII white space in the sense of patterns: tab to carriage return and space. -/
def isAsciiBlankCode (code : Nat) : Bool :=
  (9 ≤ code && code ≤ 13) || code == 32

/-! ## §2 Trimming -/

/-- Cuts white space off the front. -/
def dropBlanks (s : List CodePoint) : List CodePoint :=
  s.dropWhile isBlank

/-- Cuts white space off the end. -/
def trimRight (s : List CodePoint) : List CodePoint :=
  (s.reverse.dropWhile isBlank).reverse

/-- Cuts white space off both ends. -/
def trim (s : List CodePoint) : List CodePoint :=
  trimRight (dropBlanks s)

/-- Cuts white space off both ends of a string. -/
def trimmed (s : Text) : Text :=
  Text.ofList (trim s.toList)

/-! ## §3 Words -/

/-- Splits at white space, with the word read so far in reverse. -/
def wordsFrom : List CodePoint → List CodePoint → List (List CodePoint)
  | [], [] => []
  | [], word => [word.reverse]
  | c :: rest, word =>
    if isBlank c then
      match word with
      | [] => wordsFrom rest []
      | _ => word.reverse :: wordsFrom rest []
    else wordsFrom rest (c :: word)

/-- The maximal non-empty pieces without white space, in order. -/
def words (s : Text) : List Text :=
  (wordsFrom s.toList []).map Text.ofList

end LogViewer.Text
