import LogViewer.Index
import LogViewer.Message

/-!
# The rows of the log

The log view asks for rows by position, one at a time, and only for those it paints. Rows that were
made are kept, up to a limit, until the messages change; the oldest one gives way to a new one. A
negative position counts from the end where the view asks for the row itself.

## Main definitions

- `Rows`: messages, the focused position, and the rows that are kept
- `Rows.reset`, `Rows.setFocus`: changes
- `Rows.current`, `Rows.next`, `Rows.previous`: what the view asks for
- `rowAt?`: the row of a position, made anew
-/

namespace LogViewer

/-- A row of the log. -/
abbrev Row := List Styled

/-- The row of a position, made anew. -/
def rowAt? (messages : List Message) (pos : Int) : Except OutOfRange Row :=
  match itemAt? messages pos with
  | some m => .ok m.row
  | none => .error ⟨⟩

/-- The state of the log view. -/
structure Rows where
  messages : List Message
  focus : Nat
  /-- Rows that were made, with their positions, the oldest first. -/
  kept : List (Int × Row)

namespace Rows

/-- The greatest number of rows that are kept. -/
def keepLimit : Nat := 600

/-- No messages. -/
def empty : Rows := ⟨[], 0, []⟩

/-- The number of rows. -/
def size (r : Rows) : Nat := r.messages.length

/-- Shows other messages; the focus stays as far as there is a row. -/
def reset (r : Rows) (messages : List Message) : Rows :=
  ⟨messages, min r.focus (messages.length - 1), []⟩

/-- Focuses a row, if there is one. -/
def setFocus (r : Rows) (pos : Int) : Rows :=
  if 0 ≤ pos ∧ pos < r.size then { r with focus := pos.toNat } else r

/-- The message of a row, if there is one. -/
def messageAt? (r : Rows) (pos : Int) : Option Message :=
  if 0 ≤ pos then r.messages[pos.toNat]? else none

/-- The kept row of a position. -/
def kept? (r : Rows) (pos : Int) : Option Row := r.kept.lookup pos

/-- Keeps a row; the oldest gives way if there are too many. -/
def keep (r : Rows) (pos : Int) (row : Row) : Rows :=
  let old := if keepLimit ≤ r.kept.length then r.kept.drop 1 else r.kept
  { r with kept := old ++ [(pos, row)] }

/-- The row of a position: a kept one, or one made now. -/
def obtain (r : Rows) (pos : Int) : Except OutOfRange (Rows × Row) :=
  match r.kept? pos with
  | some row => .ok (r, row)
  | none => (rowAt? r.messages pos).map fun row => (r.keep pos row, row)

/-- What the view learns: a row with its position, or that there is none. -/
abbrev Answer := Option (Row × Int)

/-- The row of a position as an answer. -/
def answer (r : Rows) (pos : Int) : Except OutOfRange (Rows × Answer) :=
  (r.obtain pos).map fun (r, row) => (r, some (row, pos))

/-- The focused row. -/
def current (r : Rows) : Except OutOfRange (Rows × Answer) :=
  if r.messages.isEmpty then .ok (r, none) else r.answer r.focus

/-- The row after a position. -/
def next (r : Rows) (pos : Int) : Except OutOfRange (Rows × Answer) :=
  if (r.size : Int) ≤ pos + 1 then .ok (r, none) else r.answer (pos + 1)

/-- The row before a position. -/
def previous (r : Rows) (pos : Int) : Except OutOfRange (Rows × Answer) :=
  if pos - 1 < 0 then .ok (r, none) else r.answer (pos - 1)

/-- The focused position, if there are rows. -/
def focus? (r : Rows) : Option Nat :=
  if r.messages.isEmpty then none else some r.focus

end Rows

end LogViewer
