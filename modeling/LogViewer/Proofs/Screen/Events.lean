import LogViewer.Proofs.Panel.Requests
import LogViewer.Proofs.Refresher.Coalescing
import LogViewer.Screen.Basic

/-!
# Events of a screen

Operations on the panel and refreshes of the screen happen in any order, and an operation can come
in while a refresh runs. A refresh starts, reads the visible messages, draws them and scrolls, one
after the other. The screen is at rest when no refresh waits or runs.

## Main definitions

- `Screen.Viewing`, `Screen.Event`: a screen with its running refresh, and what can happen
- `Screen.Step`, `Screen.Run`: one event and a sequence of events
- `Screen.Viewing.AtRest`, `Screen.Viewing.Fresh`: nothing is to be done, and nothing is out of date

## Main statements

- `Screen.run_runTask`: a refresh is a sequence of events
- `Screen.outstanding_of_attached`, `Screen.waiting_request`: the refreshes that wait
-/

namespace LogViewer.Screen

/-! ## §1 Events -/

/-- How far a running refresh has come. -/
inductive Task where
  /-- It has started, and is to scroll in any case or not. -/
  | started (forced : Bool)
  /-- It has read the visible messages. -/
  | reading (follow : Bool) (messages : List Message)
  /-- It has drawn them. -/
  | drawn (follow : Bool)

/-- A screen with the refresh that is running, if any. -/
structure Viewing where
  screen : Screen
  running : Option Task

/-- The panel that is shown. -/
def Viewing.panel (v : Viewing) : Panel := v.screen.panel

/-- What can happen to a screen. -/
inductive Event where
  | op (op : Panel.Op)
  | start
  | read
  | draw
  | scroll

/-- An operation on the panel. -/
def operate (s : Screen) (op : Panel.Op) : Screen := { s with panel := s.panel.step op }

/-- A refresh starts. -/
def begin (s : Screen) (r : Refresher) : Screen :=
  { s with panel := { s.panel with refresher := some r.start.1 } }

/-- Draws everything, with given messages. -/
def drawMessages (s : Screen) (messages : List Message) : Screen :=
  drawFooter <| drawTitle <| drawPane
    { s with visible := messages, rows := s.rows.reset messages }

/-- Counts a refresh as done. -/
def countRefresh (s : Screen) : Screen :=
  { s with panel := { s.panel with refresher := s.panel.refresher.map Refresher.finish } }

/-- One event. -/
inductive Step : Viewing → Event → Viewing → Prop
  | op (s : Screen) (running : Option Task) (op : Panel.Op) :
      Step ⟨s, running⟩ (.op op) ⟨s.operate op, running⟩
  | start (s : Screen) (r : Refresher) (attached : s.panel.refresher = some r)
      (waiting : 0 < r.outstanding) :
      Step ⟨s, none⟩ .start ⟨s.begin r, some (.started r.start.2)⟩
  | read (s : Screen) (forced : Bool) :
      Step ⟨s, some (.started forced)⟩ .read
        ⟨s, some (.reading (forced || s.isAtLatest) s.panel.visible)⟩
  | draw (s : Screen) (follow : Bool) (messages : List Message) :
      Step ⟨s, some (.reading follow messages)⟩ .draw
        ⟨(s.drawMessages messages).countRefresh, some (.drawn follow)⟩
  | scroll (s : Screen) (follow : Bool) :
      Step ⟨s, some (.drawn follow)⟩ .scroll ⟨if follow then s.scrollToLatest else s, none⟩

/-- A sequence of events, the first one first. -/
inductive Run : Viewing → List Event → Viewing → Prop
  | nil (v : Viewing) : Run v [] v
  | concat {u v w : Viewing} {events : List Event} {e : Event} :
      Run u events v → Step v e w → Run u (events ++ [e]) w

/-- A refresh that waits runs as four events. -/
theorem run_runTask {s : Screen} {r : Refresher} (attached : s.panel.refresher = some r)
    (waiting : 0 < r.outstanding) :
    Run ⟨s, none⟩ [.start, .read, .draw, .scroll] ⟨s.runTask.1, none⟩ := by
  have hstart := (Run.nil ⟨s, none⟩).concat (.start s r attached waiting)
  have hread := hstart.concat (.read _ _)
  have hdraw := hread.concat (.draw _ _ _)
  have hscroll := hdraw.concat (.scroll _ _)
  have htask : s.runTask.1 = draw (s.begin r) r.start.2 := by
    unfold runTask
    rw [attached]
    simp only [if_neg (Nat.ne_of_gt waiting)]
    rfl
  rw [htask]
  exact hscroll

/-- No refresh waits or runs. -/
def Viewing.AtRest (v : Viewing) : Prop :=
  v.running = none ∧ v.panel.outstanding = 0

/-- The screen and its rows show what is visible. -/
def Viewing.Fresh (v : Viewing) : Prop :=
  v.screen.visible = v.panel.visible ∧ v.screen.rows.messages = v.panel.visible

/-- A rule that lets errors through, for examples. -/
def errorsRule : Rule :=
  ⟨{ Criteria.named "errors" with level := .error }, ⟨none, none, none⟩, false, 0, rfl⟩

/-! ## §2 Small facts -/

/-- The refreshes that wait for an attached view. -/
theorem outstanding_of_attached {p : Panel} {r : Refresher} (h : p.refresher = some r) :
    p.outstanding = r.outstanding := by
  unfold Panel.outstanding
  rw [h]

/-- After a request a refresh waits. -/
theorem waiting_request {r : Refresher} (h : r.InStep) (scroll : Bool) :
    0 < (r.request scroll).1.outstanding := by
  have hstep : (r.request scroll).1.outstanding = if (r.request scroll).1.pending then 1 else 0 :=
    h.request scroll
  rw [hstep, Refresher.request_pending]
  decide

/-- Scrolling changes neither the messages nor the panel. -/
theorem scrollToLatest_eq (s : Screen) : ∃ focus,
    s.scrollToLatest = { s with rows := { s.rows with focus } } := by
  unfold scrollToLatest focusRow Rows.setFocus
  split
  · exact ⟨s.rows.focus, rfl⟩
  · split
    · exact ⟨_, rfl⟩
    · exact ⟨s.rows.focus, rfl⟩

end LogViewer.Screen
