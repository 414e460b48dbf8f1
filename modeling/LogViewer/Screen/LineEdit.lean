import LogViewer.Text.Basic

/-!
# Editing a line

The search bar is a line of text with a cursor. What a key does to it is decided by the library that
draws it: the key is given back, moves the cursor, or changes the text.

## Main definitions

- `LineEdit`: text and cursor
- `LineEdit.Effect`: what a key does
- `LineEdit.setText`
-/

namespace LogViewer

/-- A text with a cursor. -/
structure LineEdit where
  text : Text
  /-- How many characters are before the cursor. -/
  cursor : Nat
deriving DecidableEq, Repr

namespace LineEdit

/-- Nothing is written. -/
def empty : LineEdit := ⟨"", 0⟩

/-- Replaces the text; the cursor stays as far as there is text. -/
def setText (e : LineEdit) (text : Text) : LineEdit :=
  ⟨text, min e.cursor text.length⟩

/-- What a key does: it is given back, moves the cursor, or changes the text and then moves the
cursor. -/
inductive Effect where
  | refused
  | moved (cursor : Nat)
  | changed (text : Text) (cursor : Nat)
deriving DecidableEq, Repr

end LineEdit

end LogViewer
