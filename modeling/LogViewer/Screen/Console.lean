import LogViewer.Screen.Keys

/-!
# The screen on a console of lines

A console that reads and prints whole lines shows the screen as plain text: the title, the search
bar with the level pills, the pane of saved rules, the rows of the log with a mark at the focused
one, the dialog if it is open, and the line at the bottom. Each line that is typed is a key by its
name; while the search bar has the focus, a line is the whole search text.

## Main definitions

- `Screen.drawnLines`: what is printed
- `Screen.handleLine`: what a typed line does
-/

namespace LogViewer.Screen

/-- The line of the search bar. -/
def searchLine (s : Screen) : Text :=
  " Search: " ++ s.search.text ++ Text.join (s.pills.map Pill.text) ++ s.searchError

/-- The lines of the log; the focused row is marked. -/
def logLines (s : Screen) : List Text :=
  s.rows.messages.mapIdx fun i m =>
    (if i = s.rows.focus then ">" else " ") ++ Text.join (m.row.map Styled.text)

/-- The lines of an open dialog. -/
def dialogLines (d : Dialog) : List Text :=
  let f := d.fields
  [d.title, " Name   : " ++ f.name, " Tag    : " ++ f.tag, " Text   : " ++ f.text,
    " PID    : " ++ f.pid, " App    : " ++ f.app, " Level  : " ++ f.level, d.complaint]

/-- The screen as lines. -/
def drawnLines (s : Screen) : List Text :=
  [s.title, s.searchLine] ++ s.pane.map PaneRow.label ++ s.logLines
    ++ (s.dialog.map dialogLines).getD [] ++ [s.footer.text]

/-- Makes a line the search text at once and leaves the search bar. -/
def searchFor (s : Screen) (line : Text) : Screen × Outcome :=
  match s.setSearch line with
  | (s, .ok ()) =>
    let (s, rung) := s.focusLog.ring
    (s, rung.map fun _ => ())
  | (s, .error e) => (s, .error e)

/-- Handles a typed line, and the refreshes that it asks for. -/
def handleLine (s : Screen) (line : String) (stamp : Text) : Screen × Except Fault KeyEffect :=
  let (s, effect) :=
    if s.part = .header ∧ line ≠ "esc" ∧ line ≠ "enter" then goingOnAfter (s.searchFor line)
    else s.handle line stamp
  (s.runTasks.1, effect)

end LogViewer.Screen
