import LogViewer.Screen.Basic

/-!
# Keys of the screen

The keys that the search bar and the dialog do not take. While a dialog is open only the escape key
counts.

## Main definitions

- `Screen.handle`: what a key does
- `Screen.KeyEffect`: whether the program goes on
-/

namespace LogViewer.Screen

/-- Whether the program goes on after a key. -/
inductive KeyEffect where
  | goOn
  | quit
deriving DecidableEq, Repr

/-- The program goes on with a new screen. -/
def goingOn (s : Screen) : Screen × Except Fault KeyEffect := (s, .ok .goOn)

/-- The program goes on unless an operation fails. -/
def goingOnAfter (r : Screen × Outcome) : Screen × Except Fault KeyEffect :=
  (r.1, r.2.map fun _ => .goOn)

/-- Handles a key while no dialog is open; `stamp` is the time for the name of a saved log. -/
def handleKey (s : Screen) (key : String) (stamp : Text) : Screen × Except Fault KeyEffect :=
  match key with
  | "q" => (s, .ok .quit)
  | "Q" => (s, .ok .quit)
  | "/" => goingOn s.focusSearch
  | "enter" => goingOn (if s.part = .header then s.focusLog else s)
  | "esc" => goingOnAfter s.clearSearch
  | "l" => goingOnAfter (s.shiftLevel 1)
  | "L" => goingOnAfter (s.shiftLevel (-1))
  | "f" => goingOn s.focusPane
  | "n" => goingOn s.openNew
  | "e" => goingOn s.openEdit
  | "x" => goingOnAfter s.delete
  | "delete" => goingOnAfter s.delete
  | "a" => goingOnAfter s.selectAppOfFocus
  | "c" => goingOn s.clearLog
  | "s" => goingOnAfter (s.saveLog stamp)
  | "g" => goingOn s.goTop
  | "G" => goingOn s.scrollToLatest
  | _ => goingOn s

/-- Handles a key. -/
def handle (s : Screen) (key : String) (stamp : Text) : Screen × Except Fault KeyEffect :=
  if s.dialog.isSome then goingOn (if key = "esc" then s.closeDialog else s)
  else s.handleKey key stamp

end LogViewer.Screen
