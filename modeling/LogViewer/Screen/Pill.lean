import LogViewer.Level

/-!
# Level pills

For each level the screen has a pill that can be pressed. The pill of the least level that is shown
is marked.

## Main definitions

- `Pill`: a level, and whether it is the marked one
- `Pill.pressedByKey`, `Pill.pressedByMouse`: what presses a pill
-/

namespace LogViewer

/-- The pill of a level. -/
structure Pill where
  level : Level
  active : Bool
deriving DecidableEq, Repr

namespace Pill

/-- What a pill shows. -/
def text (p : Pill) : Text :=
  let mark : Text := if p.active then "▶" else " "
  " " ++ mark ++ p.level.letterText ++ " "

/-- The style of a pill. -/
def style (p : Pill) : String := if p.active then "pill_a" else "pill"

/-- Whether a key presses the focused pill. -/
def pressedByKey (key : String) : Bool := key == "enter" || key == " "

/-- Whether a mouse event on a pill presses it. -/
def pressedByMouse (event : String) (button : Int) : Bool :=
  event == "mouse press" && button == 1

/-- The pills of all levels, of which the given one is marked. -/
def row (active : Level) : List Pill := Level.all.map fun l => ⟨l, l = active⟩

end Pill

end LogViewer
