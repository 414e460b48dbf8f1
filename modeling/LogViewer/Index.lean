/-!
# Positions counted from either end

A position in a list is a whole number. A negative one counts from the end: the last item has the
position -1.

## Main definitions

- `itemAt?`: the item of a position
- `OutOfRange`: there is none
-/

namespace LogViewer

/-- A position that is outside the list. -/
structure OutOfRange where
deriving DecidableEq, Repr

/-- The text of the complaint. -/
def OutOfRange.message (_ : OutOfRange) : String := "list index out of range"

/-- The item of a position, counted from the end if it is negative. -/
def itemAt? {α : Type} (xs : List α) (pos : Int) : Option α :=
  if 0 ≤ pos then xs[pos.toNat]?
  else if pos.natAbs ≤ xs.length then xs[xs.length - pos.natAbs]? else none

end LogViewer
