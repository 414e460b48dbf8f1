import LogViewer.Proofs.Panel.Requests
import LogViewer.Proofs.Screen.SearchBar

/-!
# What a screen asks of its panel

Whatever a user does comes to a few operations on the panel, whether it succeeds or not; besides, a
log may be written to the disk. A key is an action or nothing. With the events that come about by
themselves, that is all that happens to a screen, and so what happens to the panel, and what is
requested of the view, can be read off the inputs.

## Main definitions

- `Screen.calls`, `Screen.keyAction?`: the operations of an action, and the action of a key
- `Screen.Occurs`: any input
- `Screen.Viewing.calls`, `Screen.Viewing.requests`: the operations of an input and their requests

## Main statements

- `Screen.panel_perform_calls`, `Screen.screen_handle_eq`: an action and a key
- `Screen.panel_occurs`, `Screen.refresher_occurs`: the panel and its refresher after an input
- `Screen.pane_occurs`: the pane after an input
-/

namespace LogViewer.Screen

/-! ## §1 Actions -/

/-- The operations that putting a rule to use comes to: a new one is added, and selected if that
succeeds. -/
def commitCalls (s : Screen) (goal : DialogGoal) (r : Rule) : List Panel.Op :=
  match goal with
  | .add =>
    match (s.panel.add r).2 with
    | .ok i => [.add r, .select i]
    | .error _ => [.add r]
  | .edit position => [.edit position r]

/-- The operations that an action does on the panel. -/
def calls (s : Screen) : Action → List Panel.Op
  | .select index => [.select index]
  | .click index =>
    match itemAt? (List.range s.pane.length) index with
    | some i => [.select i]
    | none => []
  | .delete => [.remove s.panel.rules.selected]
  | .selectAppOfFocus =>
    match s.appOfFocus? with
    | some app => [.selectApp app]
    | none => []
  | .saveDialog =>
    match s.dialog with
    | none => []
    | some d =>
      match d.rule with
      | .ok r => s.commitCalls d.goal r
      | .error _ => []
  | .clearLog => [.clear]
  | a =>
    match s.applied? a with
    | some (text, level) => [.setQuery text level]
    | none => []

theorem panel_applySearch (s : Screen) (level : Level) :
    (s.applySearch level).1.panel = s.panel.step (.setQuery s.search.text level) := by
  have hstep : s.panel.step (.setQuery s.search.text level)
      = s.panel.orKeep (s.panel.setQuery s.search.text level) := rfl
  rw [hstep]
  unfold applySearch
  cases s.panel.setQuery s.search.text level with
  | ok panel => rfl
  | error e =>
    dsimp only
    split <;> rfl

theorem panel_setSearch (s : Screen) (text : Text) : (s.setSearch text).1.panel =
    if s.deferred then s.panel else s.panel.step (.setQuery text s.panel.level) := by
  unfold setSearch searchChanged
  dsimp only
  split
  · rfl
  · exact panel_applySearch _ _

/-- An action that types a text sets it. -/
theorem panel_typing {s : Screen} {a : Action} {text : Text} (h : typed? a = some text) :
    (s.perform a).1.panel =
      if s.deferred then s.panel else s.panel.step (.setQuery text s.panel.level) := by
  obtain ⟨cursor, part, hperform⟩ := perform_typed h
  rw [hperform]
  exact s.panel_setSearch text

theorem panel_ring (s : Screen) : s.ring.1.panel =
    if s.alarm then s.panel.step (.setQuery s.search.text s.panel.level) else s.panel := by
  unfold ring
  split
  · exact panel_applySearch { s with alarm := false } s.panel.level
  · rfl

theorem panel_press_of_none {s : Screen} {effect : LineEdit.Effect}
    (h : typed? (.press effect) = none) : (s.press effect).1.panel = s.panel := by
  unfold press
  cases effect with
  | refused => rfl
  | moved cursor => rfl
  | changed text cursor => cases h

/-- A text that is applied is made the live query if it is one. -/
theorem panel_search (s : Screen) {a : Action} (hnone : typed? a = none → (s.perform a).1.panel = s.panel)
    (happlied : s.applied? a = if s.deferred then none else
      (typed? a).map fun text => (text, s.panel.level)) :
    (s.perform a).1.panel = s.panel.run
      (match s.applied? a with | some (text, level) => [.setQuery text level] | none => []) := by
  rw [happlied]
  cases htyped : typed? a with
  | none =>
    rw [hnone htyped]
    split
    · next h => simp at h
    · rfl
  | some text =>
    rw [panel_typing htyped]
    cases s.deferred <;> rfl

theorem panel_click (s : Screen) (index : Int) :
    (s.click index).1.panel = s.panel.run (s.calls (.click index)) := by
  dsimp only [click, calls]
  cases itemAt? (List.range s.pane.length) index with
  | none => rfl
  | some i => rfl

theorem panel_delete (s : Screen) :
    s.delete.1.panel = s.panel.step (.remove s.panel.rules.selected) := by
  have hstep : s.panel.step (.remove s.panel.rules.selected)
      = (s.panel.remove s.panel.rules.selected).1 := rfl
  rw [hstep]
  unfold delete
  split
  · next hremove => rw [hremove]
  · next hremove =>
    rw [hremove]
    rfl
  · next hremove => rw [hremove]

theorem panel_selectAppOfFocus (s : Screen) :
    s.selectAppOfFocus.1.panel = s.panel.run (s.calls .selectAppOfFocus) := by
  unfold selectAppOfFocus calls
  cases s.appOfFocus? with
  | none => rfl
  | some app =>
    show _ = s.panel.orKeep ((s.panel.selectApp app).map (·.1))
    dsimp only
    cases s.panel.selectApp app with
    | ok selected => rfl
    | error e => rfl

theorem panel_commit (s : Screen) (goal : DialogGoal) (r : Rule) :
    (s.commit goal r).1.panel = s.panel.run (s.commitCalls goal r) := by
  unfold commit commitCalls
  cases goal with
  | add =>
    dsimp only
    have hadd : s.panel.step (.add r) = (s.panel.add r).1 := rfl
    cases hresult : s.panel.add r with
    | mk panel outcome =>
      rw [hresult] at hadd
      cases outcome with
      -- The new rule is selected once it is saved.
      | ok i =>
        show (panel.select i).1 = (s.panel.step (.add r)).step (.select i)
        rw [hadd]
        rfl
      | error e => exact hadd.symm
  | edit position =>
    dsimp only
    have hedit : s.panel.step (.edit position r) = (s.panel.edit position r).1 := rfl
    cases hresult : s.panel.edit position r with
    | mk panel outcome =>
      rw [hresult] at hedit
      cases outcome with
      | ok done => exact hedit.symm
      | error e => exact hedit.symm

theorem panel_saveDialog (s : Screen) :
    s.saveDialog.1.panel = s.panel.run (s.calls .saveDialog) := by
  cases hdialog : s.dialog with
  | none =>
    unfold saveDialog calls
    rw [hdialog]
    rfl
  | some d =>
    dsimp only [calls]
    rw [hdialog]
    cases hrule : d.rule with
    | ok r =>
      rw [saveDialog_of_ok hdialog hrule]
      simp only [hrule]
      exact s.panel_commit d.goal r
    | error refusal =>
      rw [saveDialog_of_error hdialog hrule]
      simp only [hrule]
      exact panel_complain s d refusal

/-- An action does its operations on the panel, and at most writes to the disk besides. -/
theorem panel_perform_calls (s : Screen) (a : Action) :
    ∃ disk, (s.perform a).1.panel = { s.panel.run (s.calls a) with disk } := by
  have hexact : (s.perform a).1.panel = s.panel.run (s.calls a) →
      ∃ disk, (s.perform a).1.panel = { s.panel.run (s.calls a) with disk } := fun h => ⟨_, h⟩
  cases a with
  | search text => exact hexact (s.panel_search (by simp [typed?]) rfl)
  | press key => exact hexact (s.panel_search panel_press_of_none rfl)
  | clearSearch => exact hexact (s.panel_search (by simp [typed?]) rfl)
  | ring =>
    apply hexact
    show s.ring.1.panel = _
    rw [panel_ring]
    dsimp only [calls, applied?]
    cases s.alarm <;> rfl
  | pill level => exact hexact (s.panel_applySearch level)
  | shiftLevel step => exact hexact (s.panel_applySearch _)
  | select index => exact hexact rfl
  | click index => exact hexact (s.panel_click index)
  | delete => exact hexact s.panel_delete
  | selectAppOfFocus => exact hexact s.panel_selectAppOfFocus
  | saveDialog => exact hexact s.panel_saveDialog
  | clearLog => exact hexact rfl
  | saveLog stamp =>
    have hcalls : s.calls (.saveLog stamp) = [] := by
      dsimp only [calls, applied?]
      cases s.deferred <;> rfl
    rw [hcalls]
    exact s.panel_saveLog stamp
  -- The other actions type no text, and do nothing to the panel.
  | openEdit => exact hexact (s.panel_search (fun _ => s.panel_openEdit) rfl)
  | goTop => exact hexact (s.panel_search (fun _ => s.panel_goTop) rfl)
  | scrollToLatest => exact hexact (s.panel_search (fun _ => s.panel_scrollToLatest) rfl)
  | focusSearch => exact hexact (s.panel_search (fun _ => rfl) rfl)
  | focusPane => exact hexact (s.panel_search (fun _ => rfl) rfl)
  | focusPaneRow pos => exact hexact (s.panel_search (fun _ => s.panel_focusPaneRow pos) rfl)
  | focusLog => exact hexact (s.panel_search (fun _ => rfl) rfl)
  | openNew => exact hexact (s.panel_search (fun _ => rfl) rfl)
  | fill fields => exact hexact (s.panel_search (fun _ => rfl) rfl)
  | closeDialog => exact hexact (s.panel_search (fun _ => rfl) rfl)
  | focusRow pos => exact hexact (s.panel_search (fun _ => rfl) rfl)
  | setStatus status => exact hexact (s.panel_search (fun _ => rfl) rfl)

/-! ## §2 Keys -/

/-- The action of a key, if it has one; `stamp` is the time for the name of a saved log. -/
def keyAction? (s : Screen) (key : String) (stamp : Text) : Option Action :=
  if s.dialog.isSome then if key = "esc" then some .closeDialog else none
  else
    match key with
    | "/" => some .focusSearch
    | "enter" => if s.part = .header then some .focusLog else none
    | "esc" => some .clearSearch
    | "l" => some (.shiftLevel 1)
    | "L" => some (.shiftLevel (-1))
    | "f" => some .focusPane
    | "n" => some .openNew
    | "e" => some .openEdit
    | "x" => some .delete
    | "delete" => some .delete
    | "a" => some .selectAppOfFocus
    | "c" => some .clearLog
    | "s" => some (.saveLog stamp)
    | "g" => some .goTop
    | "G" => some .scrollToLatest
    | _ => none

/-- The screen after an action, if there is one. -/
def performed (s : Screen) : Option Action → Screen
  | some a => (s.perform a).1
  | none => s

/-- A key does its action. -/
theorem screen_handle_eq (s : Screen) (key : String) (stamp : Text) :
    (s.handle key stamp).1 = s.performed (s.keyAction? key stamp) := by
  unfold handle keyAction?
  by_cases hdialog : s.dialog.isSome = true
  · rw [if_pos hdialog, if_pos hdialog]
    by_cases hkey : key = "esc"
    · rw [if_pos hkey, if_pos hkey]
      rfl
    · rw [if_neg hkey, if_neg hkey]
      rfl
  · rw [if_neg hdialog, if_neg hdialog]
    unfold handleKey
    split
    case h_4 =>
      by_cases hpart : s.part = .header
      · simp only [if_pos hpart]
        rfl
      · simp only [if_neg hpart]
        rfl
    -- What is none of the keys does nothing on either side.
    case h_18 => split <;> first | rfl | contradiction
    all_goals rfl

/-! ## §3 Everything that happens -/

/-- Any input: an action or a key, whether it succeeds or not, or an event. -/
inductive Occurs : Viewing → Input → Viewing → Prop
  | act (s : Screen) (running : Option Task) (a : Action) :
      Occurs ⟨s, running⟩ (.act a) ⟨(s.perform a).1, running⟩
  | key (s : Screen) (running : Option Task) (key : String) (stamp : Text) :
      Occurs ⟨s, running⟩ (.key key stamp) ⟨(s.handle key stamp).1, running⟩
  | event {v w : Viewing} {e : Event} (step : Step v e w) : Occurs v (.event e) w

/-- The operations that an input does on the panel. -/
def Viewing.calls (v : Viewing) : Input → List Panel.Op
  | .act a => v.screen.calls a
  | .key key stamp =>
    match v.screen.keyAction? key stamp with
    | some a => v.screen.calls a
    | none => []
  | .event (.op op) => [op]
  | .event _ => []

/-- The requests that an input makes, each with whether the refresh is to scroll. -/
def Viewing.requests (v : Viewing) (i : Input) : List Bool := v.panel.requestsIn (v.calls i)

variable {v w : Viewing} {i : Input}

/-- An input is an event, or it does what an action does, or nothing. -/
theorem occurs_cases (h : Occurs v i w) : (∃ e, i = .event e ∧ Step v e w) ∨
    (∀ e, i ≠ .event e) ∧ ((∃ a, w = ⟨(v.screen.perform a).1, v.running⟩ ∧
      v.calls i = v.screen.calls a) ∨ (w = v ∧ v.calls i = [])) := by
  cases h with
  | act s running a => exact .inr ⟨by simp, .inl ⟨a, rfl, rfl⟩⟩
  | key s running key stamp =>
    refine .inr ⟨by simp, ?_⟩
    rw [screen_handle_eq]
    dsimp only [Viewing.calls]
    cases s.keyAction? key stamp with
    | some a => exact .inl ⟨a, rfl, rfl⟩
    | none => exact .inr ⟨rfl, rfl⟩
  | event step => exact .inl ⟨_, rfl, step⟩

/-- An input does its operations on the panel, and a refresh changes nothing in it but the
refresher. -/
theorem panel_occurs (h : Occurs v i w) :
    ∃ disk refresher, w.panel = { v.panel.run (v.calls i) with disk, refresher } ∧
      (i ≠ .event .start → i ≠ .event .draw → refresher = (v.panel.run (v.calls i)).refresher) := by
  rcases occurs_cases h with ⟨e, rfl, hstep⟩ | ⟨-, ⟨a, rfl, hcalls⟩ | ⟨rfl, hcalls⟩⟩
  · cases hstep with
    | op s running op => exact ⟨_, _, rfl, fun _ _ => rfl⟩
    | start s r attached waiting => exact ⟨_, _, rfl, fun hstart => absurd rfl hstart⟩
    | read s forced => exact ⟨_, _, rfl, fun _ _ => rfl⟩
    | draw s follow messages => exact ⟨_, _, rfl, fun _ hdraw => absurd rfl hdraw⟩
    | scroll s follow =>
      obtain ⟨focus, hscroll⟩ := s.scroll_eq follow
      rw [hscroll]
      exact ⟨_, _, rfl, fun _ _ => rfl⟩
  · obtain ⟨disk, hpanel⟩ := v.screen.panel_perform_calls a
    rw [hcalls]
    exact ⟨disk, _, hpanel, fun _ _ => rfl⟩
  · rw [hcalls]
    exact ⟨_, _, rfl, fun _ _ => rfl⟩

theorem rules_occurs (h : Occurs v i w) : w.panel.rules = (v.panel.run (v.calls i)).rules := by
  obtain ⟨disk, refresher, hpanel, -⟩ := panel_occurs h
  rw [hpanel]

/-- A refresh that starts or is drawn does so for the refresher. Otherwise the refresher has had the
requests of the input. -/
theorem refresher_occurs (h : Occurs v i w) :
    (i = .event .start ∧ ∃ r, v.panel.refresher = some r ∧ w.panel.refresher = some r.start.1) ∨
    (i = .event .draw ∧ v.requests i = [] ∧
      w.panel.refresher = v.panel.refresher.map Refresher.finish) ∨
    (i ≠ .event .start ∧
      w.panel.refresher = v.panel.refresher.map fun r => (r.requests (v.requests i)).1) := by
  -- Two steps of a refresh are the only inputs that reach the refresher past the panel.
  by_cases hstart : i = .event .start
  · subst hstart
    left
    cases h with
    | event step =>
      cases step with
      | start s r attached waiting => exact ⟨rfl, r, attached, rfl⟩
  by_cases hdraw : i = .event .draw
  · subst hdraw
    right
    left
    cases h with
    | event step =>
      cases step with
      | draw s follow messages => exact ⟨rfl, rfl, rfl⟩
  · obtain ⟨disk, refresher, hpanel, hrefresher⟩ := panel_occurs h
    rw [hpanel]
    exact .inr (.inr ⟨hstart, (hrefresher hstart hdraw).trans (v.panel.refresher_run _)⟩)

/-- The pane is drawn by refreshes only. -/
theorem pane_occurs (h : Occurs v i w) (hdraw : i ≠ .event .draw) : w.screen.pane = v.screen.pane := by
  rcases occurs_cases h with ⟨e, rfl, hstep⟩ | ⟨-, ⟨a, rfl, -⟩ | ⟨rfl, -⟩⟩
  · cases hstep with
    | op s running op => rfl
    | start s r attached waiting => rfl
    | read s forced => rfl
    | draw s follow messages => exact absurd rfl hdraw
    | scroll s follow =>
      obtain ⟨focus, hscroll⟩ := s.scroll_eq follow
      rw [hscroll]
  · exact (v.screen.undrawn_perform a).pane
  · rfl

/-! ## §4 Refreshes among the inputs -/

theorem trace_of_run {events : List Event} (h : Run v events w) : Trace Step v events w := by
  induction h with
  | nil => exact .nil _
  | concat _ hstep ih => exact ih.concat hstep

/-- Events are inputs. -/
theorem occurs_of_trace {events : List Event} (h : Trace Step v events w) :
    Trace Occurs v (events.map .event) w := by
  induction h with
  | nil => exact .nil _
  | concat _ hstep ih =>
    rw [List.map_append]
    exact ih.concat (.event hstep)

/-- A refresh that waits can run. -/
theorem occurs_runTask {s : Screen} {r : Refresher} (attached : s.panel.refresher = some r)
    (waiting : 0 < r.outstanding) :
    Trace Occurs ⟨s, none⟩ [.event .start, .event .read, .event .draw, .event .scroll]
      ⟨s.runTask.1, none⟩ :=
  occurs_of_trace (trace_of_run (run_runTask attached waiting))

end LogViewer.Screen
