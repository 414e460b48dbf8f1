import LogViewer.Panel
import LogViewer.Screen.Dialog
import LogViewer.Screen.LineEdit
import LogViewer.Screen.Pane
import LogViewer.Screen.Pill
import LogViewer.Screen.Rows

/-!
# The screen

The screen shows a panel: a title, the search bar with the level pills, the pane of saved rules, the
rows of the log, and a line with counts at the bottom. It shows the panel as it was when it was last
drawn; a refresh draws it again. What the user does goes to the panel, and the panel asks for the
refresh.

An operation gives the new state together with its outcome, as one that fails may have changed
something before.

## Main definitions

- `Screen`, `Screen.ofPanel`
- `Screen.refresh`, `Screen.runTask`: drawing
- `Screen.applySearch`, `setSearch`, `press`, `ring`: the search bar
- `Screen.select`, `delete`, `selectAppOfFocus`, the dialog operations: rules
- `Screen.clearLog`, `saveLog`: the log
-/

namespace LogViewer

/-! ## §1 What is shown -/

/-- The line at the bottom. -/
structure Footer where
  /-- The number of visible messages. -/
  visible : Nat
  /-- The number of stored messages. -/
  stored : Nat
  status : Text
deriving DecidableEq, Repr

/-- The keys that the line at the bottom tells. -/
def Footer.keys : Text :=
  "  q:quit  /:search  l/L:level  f:filters  n/e/x:new/edit/del  a:app  c:clear  s:save  "

/-- The counts and the status. -/
def Footer.counts (f : Footer) : Text :=
  let counts := "  " ++ Text.grouped f.visible ++ " / " ++ Text.grouped f.stored ++ " messages"
  if f.status.isEmpty then counts else (counts ++ "  " ++ f.status)

/-- The whole line. -/
def Footer.text (f : Footer) : Text := Footer.keys ++ f.counts

/-- The title for a source and the name of the selected rule. -/
def titleText (source rule : Text) : Text := " ◉  logcatpanel  " ++ source ++ "  [" ++ rule ++ "]  "

/-- The part of the screen that has the focus. -/
inductive Part where
  | body
  | header
deriving DecidableEq, Repr

/-- The name of a part. -/
def Part.name : Part → String
  | body => "body"
  | header => "header"

/-- The column of the body that has the focus. -/
inductive Column where
  | pane
  | log
deriving DecidableEq, Repr

/-- The number of a column. -/
def Column.number : Column → Nat
  | pane => 0
  | log => 1

/-- The screen and the panel that it shows. -/
structure Screen where
  panel : Panel
  /-- The name of the source of messages. -/
  source : Text
  /-- Whether a change of the search text waits for an alarm. -/
  deferred : Bool
  /-- An alarm is set. -/
  alarm : Bool
  search : LineEdit
  /-- What is shown beside a search text that is no query. -/
  searchError : Text
  visible : List Message
  rows : Rows
  title : Text
  footer : Footer
  pills : List Pill
  pane : List PaneRow
  /-- The row of the pane that has the focus. -/
  paneFocus : Nat
  part : Part
  column : Column
  dialog : Option Dialog

namespace Screen

/-- Why an operation fails. -/
inductive Fault where
  | rule (e : RuleError)
  | save (e : RuleFile.SaveFault)
  | «export» (e : Panel.ExportFault)
  | outOfRange (e : OutOfRange)
deriving DecidableEq, Repr

/-- The text of the complaint. -/
def Fault.message : Fault → Text
  | rule e => e.message
  | save e => e.message
  | «export» e => e.message
  | outOfRange e => e.message

/-- How an operation went. -/
abbrev Outcome := Except Fault Unit

/-! ## §2 Drawing -/

/-- Draws the title. -/
def drawTitle (s : Screen) : Screen :=
  { s with title := titleText s.source s.panel.rules.selectedRule.name }

/-- Draws the pane of saved rules. The focus stays on its row as far as there is one. -/
def drawPane (s : Screen) : Screen :=
  let pane := LogViewer.pane s.panel.rules
  { s with pane, paneFocus := min s.paneFocus (pane.length - 1) }

/-- Draws the line at the bottom with a status. -/
def setStatus (s : Screen) (status : Text) : Screen :=
  { s with footer := ⟨s.visible.length, s.panel.store.size, status⟩ }

/-- Draws the line at the bottom. -/
def drawFooter (s : Screen) : Screen := s.setStatus s.footer.status

/-- The screen of a panel. Nothing of the log is shown until the first refresh, and the pane has its
focus on the selected rule. -/
def ofPanel (panel : Panel) (source : Text) (deferred : Bool) : Screen where
  panel := panel
  source := source
  deferred := deferred
  alarm := false
  search := .empty
  searchError := ""
  visible := []
  rows := .empty
  title := titleText source panel.rules.selectedRule.name
  footer := ⟨0, panel.store.size, ""⟩
  pills := Pill.row panel.level
  pane := LogViewer.pane panel.rules
  paneFocus := min panel.rules.selected ((LogViewer.pane panel.rules).length - 1)
  part := .body
  column := .log
  dialog := none

/-- Attaches the screen to its panel as the view. -/
def attach (s : Screen) : Screen := { s with panel := s.panel.attach }

/-- Draws everything. -/
def refresh (s : Screen) : Screen :=
  let visible := s.panel.visible
  drawFooter <| drawTitle <| drawPane { s with visible, rows := s.rows.reset visible }

/-- Whether the focus is on the last row, or there is none. -/
def isAtLatest (s : Screen) : Bool :=
  match s.rows.focus? with
  | some pos => s.rows.size ≤ pos + 1
  | none => true

/-- Focuses a row, if there is one. -/
def focusRow (s : Screen) (pos : Int) : Screen := { s with rows := s.rows.setFocus pos }

/-- Focuses the last row. -/
def scrollToLatest (s : Screen) : Screen :=
  if s.visible.isEmpty then s else s.focusRow (s.visible.length - 1)

/-- Focuses the first row. -/
def goTop (s : Screen) : Screen :=
  if s.visible.isEmpty then s else s.focusRow 0

/-- Draws the screen for a refresh that has started, and scrolls if it is to, or if the focus was on
the last row. -/
def draw (s : Screen) (forced : Bool) : Screen :=
  let follow := forced || s.isAtLatest
  let s := s.refresh
  let s := { s with panel := { s.panel with refresher := s.panel.refresher.map Refresher.finish } }
  if follow then s.scrollToLatest else s

/-- Runs an outstanding refresh, if there is one; says whether there was. -/
def runTask (s : Screen) : Screen × Bool :=
  match s.panel.refresher with
  | none => (s, false)
  | some r =>
    if r.outstanding = 0 then (s, false)
    else
      let (r, forced) := r.start
      (draw { s with panel := { s.panel with refresher := some r } } forced, true)

/-- Runs as many outstanding refreshes as there are; gives how many. -/
def runTasks (s : Screen) : Screen × Nat :=
  let rec go : Nat → Screen → Screen
    | 0, s => s
    | n + 1, s => go n s.runTask.1
  (go s.panel.outstanding s, s.panel.outstanding)

/-! ## §3 The search bar -/

/-- What is shown beside a search text whose pattern is refused. -/
def searchMarker (e : RuleError) (reason : Text) : Text :=
  "  ⚠ invalid regex (" ++ e.field.name ++ ": " ++ reason ++ ")"

/-- Marks the pill of the level that is shown. -/
def drawPills (s : Screen) : Screen := { s with pills := Pill.row s.panel.level }

/-- Makes the search text the live query, with a level. -/
def applySearch (s : Screen) (level : Level) : Screen × Outcome :=
  match s.panel.setQuery s.search.text level with
  | .ok panel => (drawPills { s with panel, searchError := "" }, .ok ())
  | .error e =>
    match e.reason? with
    | some reason => (drawPills { s with searchError := searchMarker e reason }, .ok ())
    | none => (s, .error (.rule e))

/-- The search text has changed: it is applied, or an alarm is set in place of the one before. -/
def searchChanged (s : Screen) : Screen × Outcome :=
  if s.deferred then ({ s with alarm := true }, .ok ())
  else s.applySearch s.panel.level

/-- Replaces the search text. -/
def setSearch (s : Screen) (text : Text) : Screen × Outcome :=
  searchChanged { s with search := s.search.setText text }

/-- The alarm rings, if it is set; gives how many alarms there were. -/
def ring (s : Screen) : Screen × Except Fault Nat :=
  if s.alarm then
    let (s, outcome) := applySearch { s with alarm := false } s.panel.level
    (s, outcome.map fun _ => 1)
  else (s, .ok 0)

/-- Presses a key in the search bar, which has some effect there; says whether the key was taken. -/
def press (s : Screen) (effect : LineEdit.Effect) : Screen × Except Fault Bool :=
  match effect with
  | .refused => (s, .ok false)
  | .moved cursor => ({ s with search := ⟨s.search.text, cursor⟩ }, .ok true)
  | .changed text cursor =>
    match s.setSearch text with
    | (s, .ok ()) => ({ s with search := ⟨s.search.text, cursor⟩ }, .ok true)
    | (s, .error e) => (s, .error e)

/-- Moves the least level up or down. -/
def shiftLevel (s : Screen) (step : Int) : Screen × Outcome :=
  s.applySearch (s.panel.level.shift step)

/-- Focuses the search bar. -/
def focusSearch (s : Screen) : Screen := { s with part := .header }

/-- Focuses the pane of saved rules. -/
def focusPane (s : Screen) : Screen := { s with part := .body, column := .pane }

/-- Focuses a row of the pane, if there is one. -/
def focusPaneRow (s : Screen) (pos : Int) : Screen :=
  if 0 ≤ pos ∧ pos < s.pane.length then { s with paneFocus := pos.toNat } else s

/-- Focuses the log. -/
def focusLog (s : Screen) : Screen := { s with part := .body, column := .log }

/-- Clears the search text and leaves the search bar. -/
def clearSearch (s : Screen) : Screen × Outcome :=
  match s.setSearch "" with
  | (s, .ok ()) => ({ s with part := .body }, .ok ())
  | (s, .error e) => (s, .error e)

/-! ## §4 Rules -/

/-- Selects a rule and focuses the log. -/
def select (s : Screen) (index : Int) : Screen :=
  focusLog { s with panel := (s.panel.select index).1 }

/-- Presses a drawn row of the pane, which selects its position. -/
def click (s : Screen) (index : Int) : Screen × Outcome :=
  match itemAt? (List.range s.pane.length) index with
  | some i => (s.select i, .ok ())
  | none => (s, .error (.outOfRange ⟨⟩))

/-- Removes the selected rule. -/
def delete (s : Screen) : Screen × Outcome :=
  match s.panel.remove s.panel.rules.selected with
  | (panel, .ok true) => ({ s with panel }, .ok ())
  | (panel, .ok false) =>
    (setStatus { s with panel } "the default filter cannot be deleted", .ok ())
  | (panel, .error e) => ({ s with panel }, .error (.save e))

/-- The application of the focused message, if it is known. -/
def appOfFocus? (s : Screen) : Option Text := do
  let pos ← s.rows.focus?
  let m ← s.rows.messageAt? pos
  if m.app = "?" then none else some m.app

/-- Selects the session rule for the application of the focused message. -/
def selectAppOfFocus (s : Screen) : Screen × Outcome :=
  match s.appOfFocus? with
  | none => (s.setStatus "no application known for this message", .ok ())
  | some app =>
    match s.panel.selectApp app with
    | .ok (panel, _) => ({ s with panel }, .ok ())
    | .error e => (s, .error (.rule e))

/-! ## §5 The dialog -/

/-- Opens the dialog for a new rule. -/
def openNew (s : Screen) : Screen := { s with dialog := some .forNew }

/-- Opens the dialog for the selected rule. -/
def openEdit (s : Screen) : Screen :=
  if s.panel.rules.selected = 0 then s.setStatus "the default filter cannot be edited"
  else { s with dialog := some (.forRule s.panel.rules.selected s.panel.rules.selectedRule) }

/-- Closes the dialog. -/
def closeDialog (s : Screen) : Screen := { s with dialog := none }

/-- Puts a rule to the use that the dialog is for, and closes the dialog. -/
def commit (s : Screen) (goal : DialogGoal) (r : Rule) : Screen × Outcome :=
  match goal with
  | .add =>
    match s.panel.add r with
    | (panel, .ok i) => (select (closeDialog { s with panel }) i, .ok ())
    | (panel, .error e) => ({ s with panel }, .error (.save e))
  | .edit position =>
    match s.panel.edit position r with
    | (panel, .ok _) => (closeDialog { s with panel }, .ok ())
    | (panel, .error e) => ({ s with panel }, .error (.save e))

/-- Shows a complaint in the dialog, unless it is a fault that is not reported. -/
def complain (s : Screen) (d : Dialog) (refusal : Dialog.Refusal) : Screen × Outcome :=
  let shown := { s with dialog := some { d with complaint := refusal.message } }
  match refusal with
  | .rule e => if e.isUncounted then (s, .error (.rule e)) else (shown, .ok ())
  | _ => (shown, .ok ())

/-- Saves the dialog, if it is open; says whether it is. -/
def saveDialog (s : Screen) : Screen × Except Fault Bool :=
  match s.dialog with
  | none => (s, .ok false)
  | some d =>
    let (s, outcome) := match d.rule with
      | .ok r => s.commit d.goal r
      | .error refusal => s.complain d refusal
    (s, outcome.map fun _ => true)

/-! ## §6 The log -/

/-- Removes all messages. -/
def clearLog (s : Screen) : Screen := { s with panel := s.panel.clear }

/-- The name of the file that the visible messages are saved in. -/
def logFileName (stamp : Text) : Text := "logcat_" ++ stamp ++ ".txt"

/-- Saves the visible messages in a file of the working folder, whose name has a time stamp. What
the system refuses is said in the footer. -/
def saveLog (s : Screen) (stamp : Text) : Screen × Outcome :=
  let name := logFileName stamp
  let failed (e : FileError) : Screen × Outcome :=
    (s.setStatus ("save failed: " ++ e.message), .ok ())
  match s.panel.disk.workingPath with
  | .error fault => failed ⟨fault, []⟩
  | .ok folder =>
    match s.panel.exportMessages s.visible (folder.child name) with
    | (panel, .ok n) =>
      (setStatus { s with panel } ("saved " ++ Text.grouped n ++ " -> " ++ name), .ok ())
    | (_, .error (.refused e)) => failed e
    | (panel, .error e) => ({ s with panel }, .error (.export e))

end Screen

end LogViewer
