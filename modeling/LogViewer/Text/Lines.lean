import LogViewer.Text.Basic

/-!
# Lines

A text is cut into lines at every line boundary of Unicode: line feed, carriage return (with the
line feed after it), vertical tab, form feed, the separators U+001C to U+001E, next line, line
separator and paragraph separator. A boundary at the very end starts no further line. The plain
cut at line feeds is beside it.

## Main definitions

- `isLineBreak`: the boundary characters
- `lines`: the lines of a text without their boundaries
- `linesKept`: the pieces that end after each line feed, as a stream delivers them
-/

namespace LogViewer.Text

/-- A character that ends a line. -/
def isLineBreak (c : CodePoint) : Bool :=
  let code := c.toNat
  (10 ≤ code && code ≤ 13) || (28 ≤ code && code ≤ 30) || code == 0x85 || code == 0x2028
    || code == 0x2029

/-- Cuts at line boundaries, with the line read so far in reverse. -/
def linesFrom : List CodePoint → List CodePoint → List (List CodePoint)
  | [], [] => []
  | [], line => [line.reverse]
  | '\r' :: '\n' :: rest, line => line.reverse :: linesFrom rest []
  | c :: rest, line =>
    if isLineBreak c then line.reverse :: linesFrom rest [] else linesFrom rest (c :: line)

/-- The lines of a text. -/
def lines (s : Text) : List Text :=
  (linesFrom s.toList []).map Text.ofList

/-- Cuts after each line feed, with the piece read so far in reverse. -/
def linesKeptFrom : List CodePoint → List CodePoint → List (List CodePoint)
  | [], [] => []
  | [], line => [line.reverse]
  | c :: rest, line =>
    if c = '\n' then (c :: line).reverse :: linesKeptFrom rest [] else linesKeptFrom rest (c :: line)

/-- The lines of a stream, each with the line feed that ends it. -/
def linesKept (s : Text) : List Text :=
  (linesKeptFrom s.toList []).map Text.ofList

/-- Universal newlines: a carriage return, alone or before a line feed, reads as a line feed. -/
def newlinesUnified : List CodePoint → List CodePoint
  | [] => []
  | '\r' :: '\n' :: rest => '\n' :: newlinesUnified rest
  | '\r' :: rest => '\n' :: newlinesUnified rest
  | c :: rest => c :: newlinesUnified rest

end LogViewer.Text
