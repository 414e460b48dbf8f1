import LogViewer.Proofs.Outcomes
import LogViewer.Proofs.Screen.Events
import LogViewer.Proofs.Trace
import LogViewer.Screen.Keys

/-!
# What is done to a screen

A user acts on the screen by its parts or by keys, messages come in, and refreshes run in between.
An action never draws more than the line at the bottom and the level pills: what else is shown stays
as it was until a refresh. To the panel it does some operations, of which the last one asks for a
refresh, or nothing but write to the disk.

## Main definitions

- `Screen.Action`, `Screen.perform`: the actions
- `Screen.Input`, `Screen.Input.Step`: an action, a key or an event, and what it leads to
- `Screen.Undrawn`, `Screen.Untouched`: what an action leaves as it is, and what an event does

## Main statements

- `Screen.undrawn_perform`: what an action does to the screen
- `Screen.panel_perform`: what an action does to the panel
- `Screen.handle_cases`, `Screen.screen_handle`: a key is an action
- `Screen.untouched_outside`: what an event leaves as it is
-/

namespace LogViewer

/-! ## §1 Actions -/

namespace Screen

/-- What a user does. -/
inductive Action where
  | search (text : Text)
  | press (effect : LineEdit.Effect)
  /-- The alarm for the search text rings. -/
  | ring
  | pill (level : Level)
  | shiftLevel (step : Int)
  | clearSearch
  | focusSearch
  | focusPane
  | focusPaneRow (pos : Int)
  | focusLog
  | select (index : Int)
  | click (index : Int)
  | delete
  | selectAppOfFocus
  | openNew
  | openEdit
  | fill (fields : DialogFields)
  | saveDialog
  | closeDialog
  | clearLog
  | saveLog (stamp : Text)
  | goTop
  | scrollToLatest
  | focusRow (pos : Int)
  | setStatus (status : Text)

/-- Writes the texts of the dialog, if one is open. -/
def fill (s : Screen) (fields : DialogFields) : Screen :=
  { s with dialog := s.dialog.map fun d => { d with fields } }

/-- An outcome with a result that does not matter. -/
def done (s : Screen) : Screen × Outcome := (s, .ok ())

/-- An operation whose result does not matter. -/
def dropping {α : Type} (r : Screen × Except Fault α) : Screen × Outcome :=
  (r.1, r.2.map fun _ => ())

/-- Nothing but the result is dropped. -/
theorem dropping_eq_ok_iff {α : Type} {r : Screen × Except Fault α} :
    (dropping r).2 = .ok () ↔ ∃ a, r.2 = .ok a := by
  unfold dropping
  rw [map_eq_ok_iff]
  simp

/-- Performs an action. -/
def perform (s : Screen) : Action → Screen × Outcome
  | .search text => s.setSearch text
  | .press effect => dropping (s.press effect)
  | .ring => dropping s.ring
  | .pill level => s.applySearch level
  | .shiftLevel step => s.shiftLevel step
  | .clearSearch => s.clearSearch
  | .focusSearch => done s.focusSearch
  | .focusPane => done s.focusPane
  | .focusPaneRow pos => done (s.focusPaneRow pos)
  | .focusLog => done s.focusLog
  | .select index => done (s.select index)
  | .click index => s.click index
  | .delete => s.delete
  | .selectAppOfFocus => s.selectAppOfFocus
  | .openNew => done s.openNew
  | .openEdit => done s.openEdit
  | .fill fields => done (s.fill fields)
  | .saveDialog => dropping s.saveDialog
  | .closeDialog => done s.closeDialog
  | .clearLog => done s.clearLog
  | .saveLog stamp => s.saveLog stamp
  | .goTop => done s.goTop
  | .scrollToLatest => done s.scrollToLatest
  | .focusRow pos => done (s.focusRow pos)
  | .setStatus status => done (s.setStatus status)

/-- The actions that keys stand for while no dialog is open. -/
def keyActions (stamp : Text) : List Action :=
  [.focusSearch, .focusLog, .clearSearch, .shiftLevel 1, .shiftLevel (-1), .focusPane, .openNew,
    .openEdit, .delete, .selectAppOfFocus, .clearLog, .saveLog stamp, .goTop, .scrollToLatest]

end Screen

/-! ## §2 What an action leaves as it is -/

/-- The focus is on a row, if there is one. -/
def Rows.HasFocus (r : Rows) : Prop := r.messages = [] ∨ r.focus < r.size

/-- Other rows can be focused only where they are. -/
theorem Rows.HasFocus.setFocus {r : Rows} (h : r.HasFocus) (pos : Int) : (r.setFocus pos).HasFocus := by
  unfold Rows.setFocus
  split
  · next hin =>
    right
    show pos.toNat < r.size
    omega
  · exact h

theorem Rows.messages_setFocus (r : Rows) (pos : Int) : (r.setFocus pos).messages = r.messages := by
  unfold Rows.setFocus
  split <;> rfl

namespace Panel

@[simp] theorem level_refreshIf (p : Panel) (changed : Bool) (saved : Except RuleFile.SaveFault Unit) :
    (p.refreshIf changed saved).1.level = p.level := by
  cases saved with
  | ok _ => cases changed <;> rfl
  | error _ => rfl

theorem level_remove (p : Panel) (index : Int) : (p.remove index).1.level = p.level := by
  rcases p.remove_eq index with hrefused | hsaved
  · rw [hrefused]
  · rw [hsaved, level_refreshIf]
    rfl

theorem level_edit (p : Panel) (index : Int) (r : Rule) : (p.edit index r).1.level = p.level := by
  rcases p.edit_eq index r with hrefused | hsaved
  · rw [hrefused]
  · rw [hsaved, level_refreshIf]
    rfl

theorem level_selectApp {p q : Panel} {app : Text} {i : Nat} (h : p.selectApp app = .ok (q, i)) :
    q.level = p.level := by
  rw [← step_of_selectApp h]
  rcases p.step_selectApp_cases app with hstep | ⟨index, hstep⟩ | ⟨r, _, hstep⟩
  · rw [hstep]
  · rw [hstep]
    rfl
  · rw [hstep]
    rfl

/-- Writing messages to a file changes the disk. -/
theorem exists_disk_of_export (p : Panel) (ms : List Message) (path : Path) :
    ∃ disk, (p.exportMessages ms path).1 = { p with disk } := by
  unfold exportMessages
  split
  · exact ⟨p.disk, rfl⟩
  · dsimp only
    split
    · exact ⟨p.disk, rfl⟩
    · exact ⟨_, rfl⟩

/-- A removal that says it did not happen has changed nothing. -/
theorem eq_of_remove_false {p q : Panel} {index : Int} (h : p.remove index = (q, .ok false)) :
    q = p := by
  rcases p.remove_eq index with hrefused | hsaved
  · rw [hrefused] at h
    cases h
    rfl
  · rw [hsaved] at h
    unfold refreshIf at h
    split at h <;> cases h

end Panel

namespace Screen

/-- If the dialog is for a rule, that is the selected one. -/
def EditsSelected (s : Screen) : Prop :=
  ∀ d position, s.dialog = some d → d.goal = .edit position → position = s.panel.rules.selected

theorem EditsSelected.of_closed {s : Screen} (h : s.dialog = none) : s.EditsSelected := by
  intro d position hdialog
  rw [h] at hdialog
  cases hdialog

/-- What stays as it is when nothing is drawn but the level pills and the line at the bottom. -/
structure Undrawn (s s' : Screen) : Prop where
  source : s'.source = s.source
  visible : s'.visible = s.visible
  messages : s'.rows.messages = s.rows.messages
  pane : s'.pane = s.pane
  /-- The focus of the pane does not leave its rows. -/
  paneFocus : s.paneFocus < s.pane.length → s'.paneFocus < s.pane.length
  title : s'.title = s.title
  /-- The focus does not leave the rows. -/
  focus : s.rows.HasFocus → s'.rows.HasFocus
  /-- The pill of the level stays marked. -/
  marked : s.pills = Pill.row s.panel.level → s'.pills = Pill.row s'.panel.level
  /-- The counts stay, or they are those of the moment. -/
  counts : s'.footer.visible = s.footer.visible ∧ s'.footer.stored = s.footer.stored ∨
    s'.footer.visible = s.visible.length ∧ s'.footer.stored = s.panel.store.size
  /-- A dialog that has been opened is for the selected rule. -/
  opened : s.dialog = none → s'.EditsSelected

namespace Undrawn

variable {s t : Screen}

theorem refl (s : Screen) : Undrawn s s :=
  ⟨rfl, rfl, rfl, rfl, id, rfl, id, id, .inl ⟨rfl, rfl⟩, fun h => .of_closed h⟩

/-- The search text and the alarm do not matter before. -/
theorem of_searching {search : LineEdit} {alarm : Bool} (h : Undrawn { s with search, alarm } t) :
    Undrawn s t :=
  ⟨h.source, h.visible, h.messages, h.pane, h.paneFocus, h.title, h.focus, h.marked, h.counts, h.opened⟩

/-- The search text and the part with the focus do not matter afterwards. -/
theorem leaving (h : Undrawn s t) (search : LineEdit) (part : Part) :
    Undrawn s { t with search, part } :=
  ⟨h.source, h.visible, h.messages, h.pane, h.paneFocus, h.title, h.focus, h.marked, h.counts, h.opened⟩

/-- A panel with the same level does not matter, nor do the parts with the focus, nor does a dialog
for the selected rule. -/
theorem of_dialog (s : Screen) (panel : Panel) (hlevel : panel.level = s.panel.level) (part : Part)
    (column : Column) (dialog : Option Dialog)
    (hopened : s.dialog = none → EditsSelected { s with panel, part, column, dialog }) :
    Undrawn s { s with panel, part, column, dialog } := by
  refine ⟨rfl, rfl, rfl, rfl, id, rfl, id, ?_, .inl ⟨rfl, rfl⟩, hopened⟩
  intro hmarked
  show s.pills = Pill.row panel.level
  rw [hlevel]
  exact hmarked

theorem of_panel (s : Screen) (panel : Panel) (hlevel : panel.level = s.panel.level) (part : Part)
    (column : Column) : Undrawn s { s with panel, part, column } :=
  of_dialog s panel hlevel part column s.dialog fun h => .of_closed h

/-- A status can be shown with the counts of the moment. -/
theorem of_setStatus (s : Screen) (panel : Panel) (hlevel : panel.level = s.panel.level)
    (hstore : panel.store = s.panel.store) (status : Text) :
    Undrawn s (setStatus { s with panel } status) := by
  refine ⟨rfl, rfl, rfl, rfl, id, rfl, id, ?_, .inr ⟨rfl, ?_⟩, fun h => .of_closed h⟩
  · intro hmarked
    show s.pills = Pill.row panel.level
    rw [hlevel]
    exact hmarked
  · show panel.store.size = s.panel.store.size
    rw [hstore]

/-- Another row can be focused. -/
theorem of_focusRow (s : Screen) (pos : Int) : Undrawn s (s.focusRow pos) :=
  ⟨rfl, rfl, s.rows.messages_setFocus pos, rfl, id, rfl, fun h => h.setFocus pos, id, .inl ⟨rfl, rfl⟩,
    fun h => .of_closed h⟩

end Undrawn

theorem undrawn_applySearch (s : Screen) (level : Level) : Undrawn s (s.applySearch level).1 := by
  unfold applySearch
  split
  · -- The pills are marked anew.
    exact ⟨rfl, rfl, rfl, rfl, id, rfl, id, fun _ => rfl, .inl ⟨rfl, rfl⟩, fun h => .of_closed h⟩
  · split
    · exact ⟨rfl, rfl, rfl, rfl, id, rfl, id, fun _ => rfl, .inl ⟨rfl, rfl⟩, fun h => .of_closed h⟩
    · exact .refl s

theorem undrawn_setSearch (s : Screen) (text : Text) : Undrawn s (s.setSearch text).1 := by
  unfold setSearch searchChanged
  split
  · exact ⟨rfl, rfl, rfl, rfl, id, rfl, id, id, .inl ⟨rfl, rfl⟩, fun h => .of_closed h⟩
  · exact (undrawn_applySearch _ _).of_searching

theorem undrawn_press (s : Screen) (effect : LineEdit.Effect) : Undrawn s (s.press effect).1 := by
  unfold press
  cases effect with
  | refused => exact .refl s
  | moved cursor => exact (Undrawn.refl s).leaving _ _
  | changed text cursor =>
    have hset := s.undrawn_setSearch text
    dsimp only
    split
    · next hresult =>
      -- The cursor moves only if the text could be applied.
      rw [hresult] at hset
      exact hset.leaving _ _
    · next hresult =>
      rw [hresult] at hset
      exact hset

theorem undrawn_ring (s : Screen) : Undrawn s s.ring.1 := by
  unfold ring
  split
  · exact (undrawn_applySearch _ _).of_searching
  · exact .refl s

theorem undrawn_clearSearch (s : Screen) : Undrawn s s.clearSearch.1 := by
  have hset := s.undrawn_setSearch ""
  unfold clearSearch
  split
  · next hresult =>
    rw [hresult] at hset
    exact hset.leaving _ _
  · next hresult =>
    rw [hresult] at hset
    exact hset

theorem undrawn_select (s : Screen) (index : Int) : Undrawn s (s.select index) :=
  .of_panel s (s.panel.select index).1 rfl _ _

theorem undrawn_click (s : Screen) (index : Int) : Undrawn s (s.click index).1 := by
  unfold click
  split
  · exact s.undrawn_select _
  · exact .refl s

theorem undrawn_delete (s : Screen) : Undrawn s s.delete.1 := by
  have hlevel := s.panel.level_remove s.panel.rules.selected
  unfold delete
  split
  · next panel hresult =>
    rw [hresult] at hlevel
    exact .of_panel s panel hlevel _ _
  · next panel hresult =>
    obtain rfl := Panel.eq_of_remove_false hresult
    exact .of_setStatus s _ rfl rfl _
  · next panel e hresult =>
    rw [hresult] at hlevel
    exact .of_panel s panel hlevel _ _

theorem undrawn_selectAppOfFocus (s : Screen) : Undrawn s s.selectAppOfFocus.1 := by
  unfold selectAppOfFocus
  split
  · exact .of_setStatus s _ rfl rfl _
  · next app _ =>
    split
    · next panel i hselect =>
      exact .of_panel s panel (Panel.level_selectApp hselect) _ _
    · exact .refl s

theorem undrawn_openNew (s : Screen) : Undrawn s s.openNew := by
  apply Undrawn.of_dialog s s.panel rfl
  -- The goal of the dialog is to add a rule.
  rintro - d position ⟨⟩ ⟨⟩

theorem undrawn_openEdit (s : Screen) : Undrawn s s.openEdit := by
  unfold openEdit
  split
  · exact .of_setStatus s _ rfl rfl _
  · apply Undrawn.of_dialog s s.panel rfl
    -- The dialog is opened for the position that is selected.
    rintro - d position ⟨⟩ ⟨⟩
    rfl

theorem undrawn_fill (s : Screen) (fields : DialogFields) : Undrawn s (s.fill fields) := by
  apply Undrawn.of_dialog s s.panel rfl
  intro hnone
  apply EditsSelected.of_closed
  show s.dialog.map _ = none
  rw [hnone]
  rfl

theorem undrawn_commit (s : Screen) (goal : DialogGoal) (r : Rule) : Undrawn s (s.commit goal r).1 := by
  unfold commit
  cases goal with
  | add =>
    dsimp only
    have hlevel : (s.panel.add r).1.level = s.panel.level := rfl
    -- The dialog is closed if the rules could be saved, and stays open otherwise.
    split
    · next panel i hadd =>
      rw [hadd] at hlevel
      exact .of_dialog s (panel.select i).1 hlevel _ _ none fun _ => .of_closed rfl
    · next panel e hadd =>
      rw [hadd] at hlevel
      exact .of_panel s panel hlevel _ _
  | edit position =>
    dsimp only
    have hlevel := s.panel.level_edit position r
    split
    · next panel _ hedit =>
      rw [hedit] at hlevel
      exact .of_dialog s panel hlevel _ _ none fun _ => .of_closed rfl
    · next panel e hedit =>
      rw [hedit] at hlevel
      exact .of_panel s panel hlevel _ _

theorem undrawn_complain {s : Screen} {d : Dialog} (h : s.dialog = some d)
    (refusal : Dialog.Refusal) : Undrawn s (s.complain d refusal).1 := by
  have hshown : Undrawn s { s with dialog := some { d with complaint := refusal.message } } := by
    apply Undrawn.of_dialog s s.panel rfl
    intro hnone
    rw [h] at hnone
    cases hnone
  unfold complain
  cases refusal with
  | rule e =>
    dsimp only
    split
    · exact .refl s
    · exact hshown
  | blankName => exact hshown
  | level e => exact hshown

/-- A dialog whose texts are a rule is committed. -/
theorem saveDialog_of_ok {s : Screen} {d : Dialog} {r : Rule} (hdialog : s.dialog = some d)
    (hrule : d.rule = .ok r) :
    s.saveDialog = ((s.commit d.goal r).1, (s.commit d.goal r).2.map fun _ => true) := by
  unfold saveDialog
  rw [hdialog]
  simp only [hrule]

/-- A dialog whose texts are no rule complains. -/
theorem saveDialog_of_error {s : Screen} {d : Dialog} {refusal : Dialog.Refusal}
    (hdialog : s.dialog = some d) (hrule : d.rule = .error refusal) :
    s.saveDialog = ((s.complain d refusal).1, (s.complain d refusal).2.map fun _ => true) := by
  unfold saveDialog
  rw [hdialog]
  simp only [hrule]

theorem undrawn_saveDialog (s : Screen) : Undrawn s s.saveDialog.1 := by
  cases hdialog : s.dialog with
  | none =>
    unfold saveDialog
    rw [hdialog]
    exact .refl s
  | some d =>
    cases hrule : d.rule with
    | ok r =>
      rw [saveDialog_of_ok hdialog hrule]
      exact s.undrawn_commit _ _
    | error refusal =>
      rw [saveDialog_of_error hdialog hrule]
      exact undrawn_complain hdialog _

/-- Saving the log writes to the disk, and it breaks off or the footer says what came of it. -/
theorem saveLog_cases (s : Screen) (stamp : Text) : ∃ disk,
    (s.saveLog stamp).1 = { s with panel := { s.panel with disk } } ∨
    ∃ status, (s.saveLog stamp).1 = setStatus { s with panel := { s.panel with disk } } status := by
  unfold saveLog
  dsimp only
  split
  · exact ⟨s.panel.disk, .inr ⟨_, rfl⟩⟩
  · next folder _ =>
    obtain ⟨disk, hdisk⟩ :=
      s.panel.exists_disk_of_export s.visible (folder.child (logFileName stamp))
    split
    · next hexport =>
      rw [hexport] at hdisk
      obtain rfl := hdisk
      exact ⟨disk, .inr ⟨_, rfl⟩⟩
    · exact ⟨s.panel.disk, .inr ⟨_, rfl⟩⟩
    · next hexport =>
      rw [hexport] at hdisk
      obtain rfl := hdisk
      exact ⟨disk, .inl rfl⟩

theorem undrawn_saveLog (s : Screen) (stamp : Text) : Undrawn s (s.saveLog stamp).1 := by
  obtain ⟨disk, hbroken | ⟨status, hsaid⟩⟩ := s.saveLog_cases stamp
  · rw [hbroken]
    exact .of_panel s { s.panel with disk } rfl s.part s.column
  · rw [hsaid]
    exact .of_setStatus s { s.panel with disk } rfl rfl status

theorem undrawn_focusPaneRow (s : Screen) (pos : Int) : Undrawn s (s.focusPaneRow pos) := by
  unfold focusPaneRow
  split
  · next hin =>
    refine ⟨rfl, rfl, rfl, rfl, fun _ => ?_, rfl, id, id, .inl ⟨rfl, rfl⟩, fun h => .of_closed h⟩
    show pos.toNat < s.pane.length
    omega
  · exact .refl s

theorem undrawn_goTop (s : Screen) : Undrawn s s.goTop := by
  unfold goTop
  split
  · exact .refl s
  · exact .of_focusRow s _

theorem undrawn_scrollToLatest (s : Screen) : Undrawn s s.scrollToLatest := by
  unfold scrollToLatest
  split
  · exact .refl s
  · exact .of_focusRow s _

/-- An action draws nothing but the level pills and the line at the bottom. -/
theorem undrawn_perform (s : Screen) (a : Action) : Undrawn s (s.perform a).1 := by
  cases a with
  | search text => exact s.undrawn_setSearch text
  | press effect => exact s.undrawn_press effect
  | ring => exact s.undrawn_ring
  | pill level => exact s.undrawn_applySearch level
  | shiftLevel step => exact s.undrawn_applySearch _
  | clearSearch => exact s.undrawn_clearSearch
  | focusSearch => exact .of_panel s s.panel rfl _ _
  | focusPane => exact .of_panel s s.panel rfl _ _
  | focusPaneRow pos => exact s.undrawn_focusPaneRow pos
  | focusLog => exact .of_panel s s.panel rfl _ _
  | select index => exact s.undrawn_select index
  | click index => exact s.undrawn_click index
  | delete => exact s.undrawn_delete
  | selectAppOfFocus => exact s.undrawn_selectAppOfFocus
  | openNew => exact s.undrawn_openNew
  | openEdit => exact s.undrawn_openEdit
  | fill fields => exact s.undrawn_fill fields
  | saveDialog => exact s.undrawn_saveDialog
  | closeDialog => exact .of_dialog s s.panel rfl _ _ none fun _ => .of_closed rfl
  | clearLog => exact .of_panel s s.panel.clear rfl _ _
  | saveLog stamp => exact s.undrawn_saveLog stamp
  | goTop => exact s.undrawn_goTop
  | scrollToLatest => exact s.undrawn_scrollToLatest
  | focusRow pos => exact .of_focusRow s pos
  | setStatus status => exact .of_setStatus s _ rfl rfl status

/-! ## §3 What an action does to the panel -/

end Screen

namespace Panel

/-- A refresh has been asked for between two moments. -/
def Asked (p q : Panel) : Prop :=
  ∃ scroll, q.refresher = p.refresher.map fun r => (r.request scroll).1

/-- What an action that succeeds does to a panel: it does no more than write to the disk, or it does
some operations, none of which brings messages, and asks for a refresh. -/
inductive Acted (p : Panel) : Panel → Prop
  | quiet (disk : Disk) : Acted p { p with disk }
  | asked (ops : List Op) (silent : ∀ batch, .receive batch ∉ ops) (asks : Asked p (p.run ops)) :
      Acted p (p.run ops)

namespace Acted

theorem refl (p : Panel) : Acted p p := .quiet p.disk

/-- A single operation that asks. -/
theorem of_asks {p : Panel} (op : Op) (silent : ∀ batch, op ≠ .receive batch) (h : p.Asks op) :
    Acted p (p.step op) := by
  have hrun : p.run [op] = p.step op := rfl
  rw [← hrun]
  apply Acted.asked [op]
  · intro batch hmem
    exact silent batch (List.mem_singleton.1 hmem).symm
  · exact h

theorem select (p : Panel) (index : Int) : Acted p (p.select index).1 :=
  of_asks (.select index) (by simp) ⟨true, rfl⟩

theorem clear (p : Panel) : Acted p p.clear := of_asks .clear (by simp) ⟨true, rfl⟩

theorem setQuery {p q : Panel} {query : Text} {level : Level} (h : p.setQuery query level = .ok q) :
    Acted p q := by
  have hstep : p.step (.setQuery query level) = q := by
    show p.orKeep (p.setQuery query level) = q
    rw [h]
    rfl
  rw [← hstep]
  apply of_asks _ (by simp)
  obtain ⟨live, _, hq⟩ := bind_eq_ok_iff.1 h
  cases hq
  exact ⟨true, congrArg refresher hstep⟩

theorem selectApp {p q : Panel} {app : Text} {i : Nat} (h : p.selectApp app = .ok (q, i)) :
    Acted p q := by
  rw [← step_of_selectApp h]
  rcases p.step_selectApp_cases app with hstep | ⟨index, hstep⟩ | ⟨r, _, hstep⟩
  · rw [hstep]
    exact refl p
  · exact of_asks _ (by simp) ⟨true, congrArg refresher hstep⟩
  · exact of_asks _ (by simp) ⟨true, congrArg refresher hstep⟩

/-- A new rule is added, which asks for nothing, and then selected. -/
theorem add {p q : Panel} {r : Rule} {i : Nat} (h : p.add r = (q, .ok i)) :
    Acted p (q.select i).1 := by
  have hadd : (p.add r).1 = q := congrArg Prod.fst h
  have hrun : p.run [.add r, .select i] = (q.select i).1 := by
    rw [← hadd]
    rfl
  rw [← hrun]
  apply Acted.asked
  · simp
  · exact ⟨true, rfl⟩

/-- A change of the selected rule that is saved asks for a refresh, and one that is refused leaves
the panel alone. -/
theorem of_saved {p : Panel} (op : Op) {rules : RuleSet}
    {after : Panel × Except RuleFile.SaveFault Bool} {done : Bool} (hstep : p.step op = after.1)
    (silent : ∀ batch, op ≠ .receive batch) (hafter : after = (p, .ok false) ∨
      after = (save { p with rules }).1.refreshIf true (save { p with rules }).2)
    (hdone : after.2 = .ok done) : Acted p after.1 := by
  rcases hafter with rfl | rfl
  · exact refl p
  · rw [← hstep]
    apply of_asks op silent
    -- The refresh is asked for after the saving.
    cases hsaved : (save { p with rules }).2 with
    | ok _ =>
      rw [hsaved] at hstep
      exact ⟨true, congrArg refresher hstep⟩
    | error e =>
      rw [hsaved] at hdone
      cases hdone

theorem remove {p q : Panel} {done : Bool} (h : p.remove p.rules.selected = (q, .ok done)) :
    Acted p q := by
  -- The removed rule is the selected one, so a refresh is asked for.
  have hcases := p.remove_eq p.rules.selected
  rw [decide_eq_true rfl] at hcases
  have hdone : (p.remove p.rules.selected).2 = .ok done := congrArg Prod.snd h
  have hacted := of_saved (.remove p.rules.selected) rfl (by simp) hcases hdone
  rw [h] at hacted
  exact hacted

theorem edit {p q : Panel} {r : Rule} {done : Bool} (h : p.edit p.rules.selected r = (q, .ok done)) :
    Acted p q := by
  have hcases := p.edit_eq p.rules.selected r
  rw [decide_eq_true rfl] at hcases
  have hdone : (p.edit p.rules.selected r).2 = .ok done := congrArg Prod.snd h
  have hacted := of_saved (.edit p.rules.selected r) rfl (by simp) hcases hdone
  rw [h] at hacted
  exact hacted

end Acted

end Panel

namespace Screen

theorem acted_applySearch {s : Screen} {level : Level} (h : (s.applySearch level).2 = .ok ()) :
    s.panel.Acted (s.applySearch level).1.panel := by
  unfold applySearch at h ⊢
  cases hset : s.panel.setQuery s.search.text level with
  | ok panel => exact .setQuery hset
  | error e =>
    simp only [hset] at h ⊢
    cases hreason : e.reason? with
    | some reason => exact .refl s.panel
    | none =>
      rw [hreason] at h
      cases h

theorem acted_setSearch {s : Screen} (text : Text) (h : (s.setSearch text).2 = .ok ()) :
    s.panel.Acted (s.setSearch text).1.panel := by
  unfold setSearch searchChanged at h ⊢
  dsimp only at h ⊢
  split
  · exact .refl s.panel
  · next hdeferred =>
    rw [if_neg hdeferred] at h
    exact acted_applySearch (s := { s with search := s.search.setText text }) h

theorem acted_press {s : Screen} {effect : LineEdit.Effect}
    (h : (dropping (s.press effect)).2 = .ok ()) : s.panel.Acted (s.press effect).1.panel := by
  unfold press at h ⊢
  cases effect with
  | refused => exact .refl s.panel
  | moved cursor => exact .refl s.panel
  | changed text cursor =>
    dsimp only at h ⊢
    cases hset : s.setSearch text with
    | mk t outcome =>
      have hacted := acted_setSearch (s := s) text
      rw [hset] at h hacted
      cases outcome with
      | ok _ => exact hacted rfl
      | error e => cases h

theorem acted_ring {s : Screen} (h : (dropping s.ring).2 = .ok ()) :
    s.panel.Acted s.ring.1.panel := by
  obtain ⟨_, hdone⟩ := dropping_eq_ok_iff.1 h
  unfold ring at hdone ⊢
  split
  · next halarm =>
    rw [if_pos halarm] at hdone
    obtain ⟨⟨⟩, happly, _⟩ := map_eq_ok_iff.1 hdone
    exact acted_applySearch (s := { s with alarm := false }) happly
  · exact .refl s.panel

theorem acted_clearSearch {s : Screen} (h : s.clearSearch.2 = .ok ()) :
    s.panel.Acted s.clearSearch.1.panel := by
  have hacted := acted_setSearch (s := s) ""
  unfold clearSearch at h ⊢
  cases hset : s.setSearch "" with
  | mk t outcome =>
    rw [hset] at h hacted
    cases outcome with
    | ok _ => exact hacted rfl
    | error e => cases h

theorem acted_click {s : Screen} {index : Int} : s.panel.Acted (s.click index).1.panel := by
  unfold click
  split
  · exact .select s.panel _
  · exact .refl s.panel

theorem acted_delete {s : Screen} (h : s.delete.2 = .ok ()) : s.panel.Acted s.delete.1.panel := by
  unfold delete at h ⊢
  cases hremove : s.panel.remove s.panel.rules.selected with
  | mk panel outcome =>
    simp only [hremove] at h ⊢
    match outcome, h, hremove with
    | .ok true, _, hremove => exact .remove hremove
    | .ok false, _, hremove => exact .remove hremove

theorem acted_selectAppOfFocus {s : Screen} (h : s.selectAppOfFocus.2 = .ok ()) :
    s.panel.Acted s.selectAppOfFocus.1.panel := by
  unfold selectAppOfFocus at h ⊢
  cases happ : s.appOfFocus? with
  | none => exact .refl s.panel
  | some app =>
    simp only [happ] at h ⊢
    cases hselect : s.panel.selectApp app with
    | ok selected => exact .selectApp hselect
    | error e =>
      rw [hselect] at h
      cases h

theorem acted_commit {s : Screen} {goal : DialogGoal} {r : Rule}
    (hgoal : ∀ position, goal = .edit position → position = s.panel.rules.selected)
    (h : (s.commit goal r).2 = .ok ()) : s.panel.Acted (s.commit goal r).1.panel := by
  unfold commit at h ⊢
  cases goal with
  | add =>
    dsimp only at h ⊢
    cases hadd : s.panel.add r with
    | mk panel outcome =>
      rw [hadd] at h
      cases outcome with
      | ok i => exact .add hadd
      | error e => cases h
  | edit position =>
    obtain rfl := hgoal position rfl
    dsimp only at h ⊢
    cases hedit : s.panel.edit s.panel.rules.selected r with
    | mk panel outcome =>
      rw [hedit] at h
      cases outcome with
      | ok done => exact .edit hedit
      | error e => cases h

theorem panel_complain (s : Screen) (d : Dialog) (refusal : Dialog.Refusal) :
    (s.complain d refusal).1.panel = s.panel := by
  unfold complain
  cases refusal with
  | rule e =>
    dsimp only
    split <;> rfl
  | blankName => rfl
  | level e => rfl

theorem acted_saveDialog {s : Screen} (hedits : s.EditsSelected)
    (h : (dropping s.saveDialog).2 = .ok ()) : s.panel.Acted s.saveDialog.1.panel := by
  obtain ⟨_, hdone⟩ := dropping_eq_ok_iff.1 h
  cases hdialog : s.dialog with
  | none =>
    unfold saveDialog
    rw [hdialog]
    exact .refl s.panel
  | some d =>
    cases hrule : d.rule with
    | ok r =>
      rw [saveDialog_of_ok hdialog hrule] at hdone ⊢
      obtain ⟨⟨⟩, hcommit, _⟩ := map_eq_ok_iff.1 hdone
      exact acted_commit (fun position => hedits d position hdialog) hcommit
    | error refusal =>
      rw [saveDialog_of_error hdialog hrule]
      show s.panel.Acted (s.complain d refusal).1.panel
      rw [panel_complain]
      exact .refl s.panel

theorem panel_openEdit (s : Screen) : s.openEdit.panel = s.panel := by
  unfold openEdit
  split <;> rfl

theorem panel_saveLog (s : Screen) (stamp : Text) :
    ∃ disk, (s.saveLog stamp).1.panel = { s.panel with disk } := by
  obtain ⟨disk, hbroken | ⟨status, hsaid⟩⟩ := s.saveLog_cases stamp
  · exact ⟨disk, congrArg panel hbroken⟩
  · exact ⟨disk, congrArg panel hsaid⟩

theorem acted_saveLog (s : Screen) (stamp : Text) : s.panel.Acted (s.saveLog stamp).1.panel := by
  obtain ⟨disk, hpanel⟩ := s.panel_saveLog stamp
  rw [hpanel]
  exact .quiet disk

theorem panel_focusPaneRow (s : Screen) (pos : Int) : (s.focusPaneRow pos).panel = s.panel := by
  unfold focusPaneRow
  split <;> rfl

theorem panel_goTop (s : Screen) : s.goTop.panel = s.panel := by
  unfold goTop
  split <;> rfl

theorem panel_scrollToLatest (s : Screen) : s.scrollToLatest.panel = s.panel := by
  unfold scrollToLatest
  split <;> rfl

/-- An action that succeeds does no more to the panel than to write to the disk, or it asks for a
refresh. -/
theorem panel_perform {s : Screen} {a : Action} (hedits : a = .saveDialog → s.EditsSelected)
    (h : (s.perform a).2 = .ok ()) : s.panel.Acted (s.perform a).1.panel := by
  cases a with
  | search text => exact acted_setSearch text h
  | press effect => exact acted_press h
  | ring => exact acted_ring h
  | pill level => exact acted_applySearch h
  | shiftLevel step => exact acted_applySearch h
  | clearSearch => exact acted_clearSearch h
  | select index => exact .select s.panel index
  | click index => exact acted_click
  | delete => exact acted_delete h
  | selectAppOfFocus => exact acted_selectAppOfFocus h
  | openEdit =>
    show s.panel.Acted s.openEdit.panel
    rw [panel_openEdit]
    exact .refl s.panel
  | saveDialog => exact acted_saveDialog (hedits rfl) h
  | clearLog => exact .clear s.panel
  | saveLog stamp => exact acted_saveLog s stamp
  | focusPaneRow pos =>
    show s.panel.Acted (s.focusPaneRow pos).panel
    rw [panel_focusPaneRow]
    exact .refl s.panel
  | goTop =>
    show s.panel.Acted s.goTop.panel
    rw [panel_goTop]
    exact .refl s.panel
  | scrollToLatest =>
    show s.panel.Acted s.scrollToLatest.panel
    rw [panel_scrollToLatest]
    exact .refl s.panel
  -- The other actions do nothing to the panel.
  | focusSearch => exact .refl s.panel
  | focusPane => exact .refl s.panel
  | focusLog => exact .refl s.panel
  | openNew => exact .refl s.panel
  | fill fields => exact .refl s.panel
  | closeDialog => exact .refl s.panel
  | focusRow pos => exact .refl s.panel
  | setStatus status => exact .refl s.panel

/-! ## §4 Keys -/

/-- A key ends the program. -/
def Quits (s : Screen) (key : String) : Prop :=
  s.dialog = none ∧ (key = "q" ∨ key = "Q")

theorem handle_of_quits {s : Screen} {key : String} (h : s.Quits key) (stamp : Text) :
    s.handle key stamp = (s, .ok .quit) := by
  obtain ⟨hdialog, hkey⟩ := h
  unfold handle
  rw [hdialog]
  rcases hkey with rfl | rfl <;> rfl

/-- Without a dialog, any other key does nothing or is one of the actions of keys. -/
theorem handleKey_cases (s : Screen) {key : String} (hq : key ≠ "q") (hQ : key ≠ "Q")
    (stamp : Text) : s.handleKey key stamp = goingOn s ∨
      ∃ a ∈ keyActions stamp, s.handleKey key stamp = goingOnAfter (s.perform a) ∧
        (a = .saveLog stamp → key = "s") := by
  unfold handleKey
  split
  · exact absurd rfl hq
  · exact absurd rfl hQ
  · exact .inr ⟨.focusSearch, by simp [keyActions], rfl, nofun⟩
  · -- The enter key leaves the search bar.
    split
    · exact .inr ⟨.focusLog, by simp [keyActions], rfl, nofun⟩
    · exact .inl rfl
  · exact .inr ⟨.clearSearch, by simp [keyActions], rfl, nofun⟩
  · exact .inr ⟨.shiftLevel 1, by simp [keyActions], rfl, nofun⟩
  · exact .inr ⟨.shiftLevel (-1), by simp [keyActions], rfl, nofun⟩
  · exact .inr ⟨.focusPane, by simp [keyActions], rfl, nofun⟩
  · exact .inr ⟨.openNew, by simp [keyActions], rfl, nofun⟩
  · exact .inr ⟨.openEdit, by simp [keyActions], rfl, nofun⟩
  · exact .inr ⟨.delete, by simp [keyActions], rfl, nofun⟩
  · exact .inr ⟨.delete, by simp [keyActions], rfl, nofun⟩
  · exact .inr ⟨.selectAppOfFocus, by simp [keyActions], rfl, nofun⟩
  · exact .inr ⟨.clearLog, by simp [keyActions], rfl, nofun⟩
  · exact .inr ⟨.saveLog stamp, by simp [keyActions], rfl, fun _ => rfl⟩
  · exact .inr ⟨.goTop, by simp [keyActions], rfl, nofun⟩
  · exact .inr ⟨.scrollToLatest, by simp [keyActions], rfl, nofun⟩
  · exact .inl rfl

/-- A key that does not end the program does nothing or is an action: while a dialog is open, it
closes it. -/
theorem handle_cases {s : Screen} {key : String} (h : ¬ s.Quits key) (stamp : Text) :
    s.handle key stamp = goingOn s ∨
    ∃ a, s.handle key stamp = goingOnAfter (s.perform a) ∧
      (a = .closeDialog ∨ s.dialog = none ∧ a ∈ keyActions stamp ∧
      (a = .saveLog stamp → key = "s")) := by
  unfold handle
  split
  · split
    · exact .inr ⟨.closeDialog, rfl, .inl rfl⟩
    · exact .inl rfl
  · next hclosed =>
    have hdialog : s.dialog = none := by simpa using hclosed
    have hq : key ≠ "q" := fun hkey => h ⟨hdialog, .inl hkey⟩
    have hQ : key ≠ "Q" := fun hkey => h ⟨hdialog, .inr hkey⟩
    rcases s.handleKey_cases hq hQ stamp with hnothing | ⟨a, ha, haction, hkey⟩
    · exact .inl hnothing
    · exact .inr ⟨a, haction, .inr ⟨hdialog, ha, hkey⟩⟩

/-- A key leaves the screen alone or does to it what an action does, and if the key succeeds, then
so does the action. -/
theorem screen_handle (s : Screen) (key : String) (stamp : Text) :
    (s.handle key stamp).1 = s ∨
    ∃ a, (s.handle key stamp).1 = (s.perform a).1 ∧
      (∀ effect, (s.handle key stamp).2 = .ok effect → (s.perform a).2 = .ok ()) ∧
      (a = .closeDialog ∨ s.dialog = none ∧ a ∈ keyActions stamp) := by
  by_cases hquits : s.Quits key
  · exact .inl (congrArg Prod.fst (handle_of_quits hquits stamp))
  rcases handle_cases hquits stamp with hnothing | ⟨a, haction, ha⟩
  · exact .inl (congrArg Prod.fst hnothing)
  · refine .inr ⟨a, congrArg Prod.fst haction, ?_, ha.imp_right fun h => ⟨h.1, h.2.1⟩⟩
    intro effect hdone
    rw [haction] at hdone
    obtain ⟨⟨⟩, hperform, _⟩ := map_eq_ok_iff.1 hdone
    exact hperform

/-! ## §5 Everything that happens -/

/-- What happens to a screen: an action of the user, a key, or an event. -/
inductive Input where
  | act (a : Action)
  | key (key : String) (stamp : Text)
  | event (e : Event)

/-- An input that succeeds, and what it leads to. -/
inductive Input.Step : Viewing → Input → Viewing → Prop
  | act (s : Screen) (running : Option Task) (a : Action) (succeeds : (s.perform a).2 = .ok ()) :
      Step ⟨s, running⟩ (.act a) ⟨(s.perform a).1, running⟩
  | key (s : Screen) (running : Option Task) (key : String) (stamp : Text) (effect : KeyEffect)
      (succeeds : (s.handle key stamp).2 = .ok effect) :
      Step ⟨s, running⟩ (.key key stamp) ⟨(s.handle key stamp).1, running⟩
  | event {v w : Viewing} {e : Event} (step : Screen.Step v e w) : Step v (.event e) w

/-- An event that comes about without the user: messages come in, their number is limited anew,
their source changes, or a refresh goes on. -/
def Event.IsOutside : Event → Prop
  | .op (.receive _) => True
  | .op (.setMaximum _) => True
  | .op .resetSource => True
  | .op _ => False
  | _ => True

/-- The end of a refresh moves the focus and nothing else. -/
theorem scroll_eq (s : Screen) (follow : Bool) : ∃ focus,
    (if follow then s.scrollToLatest else s) = { s with rows := { s.rows with focus } } := by
  cases follow with
  | true => exact s.scrollToLatest_eq
  | false => exact ⟨s.rows.focus, rfl⟩

/-- An operation from outside does nothing, or it asks for a refresh and leaves the level and the
selected position alone. -/
theorem step_outside_cases {op : Panel.Op} (h : (Event.op op).IsOutside) (p : Panel) :
    p.step op = p ∨ p.Asks op ∧ (p.step op).level = p.level ∧
      (p.step op).rules.selected = p.rules.selected := by
  cases op with
  | receive batch =>
    cases batch with
    | nil => exact .inl rfl
    | cons m batch => exact .inr ⟨⟨false, rfl⟩, rfl, rfl⟩
  | setMaximum n =>
    rcases p.step_setMaximum_cases n with hstep | ⟨store, hstep⟩
    · exact .inl hstep
    · right
      refine ⟨⟨false, congrArg Panel.refresher hstep⟩, ?_, ?_⟩
      · rw [hstep]
        rfl
      · rw [hstep]
        rfl
  | resetSource => exact .inr ⟨⟨true, rfl⟩, rfl, rfl⟩
  | _ => exact h.elim

/-- What stays as it is when nothing but messages, capacities, sources and refreshes come in: the
selected rule up to its count, the live query, and what belongs to the user's hands. -/
structure Untouched (s s' : Screen) : Prop where
  selected : s'.panel.rules.selected = s.panel.rules.selected
  rule : s'.panel.rules.selectedRule.Same s.panel.rules.selectedRule
  query : s'.panel.query = s.panel.query
  level : s'.panel.level = s.panel.level
  live : s'.panel.live = s.panel.live
  dialog : s'.dialog = s.dialog
  search : s'.search = s.search
  searchError : s'.searchError = s.searchError
  pills : s'.pills = s.pills

/-- An operation from outside does not touch what the user has set. -/
theorem untouched_operate (s : Screen) {op : Panel.Op} (h : (Event.op op).IsOutside) :
    Untouched s (s.operate op) := by
  cases op with
  | receive batch =>
    -- Counting leaves the selection and all that a rule asks for.
    have hrules := s.panel.rules_receive batch
    have hselected : (s.panel.receive batch).rules.selected = s.panel.rules.selected := by
      rw [hrules]
      rfl
    have hrule : (s.panel.receive batch).rules.selectedRule.Same s.panel.rules.selectedRule := by
      rw [hrules]
      show (s.panel.rules.perform (.countUnread batch)).selectedRule.Same _
      exact RuleSet.selectedRule_perform id
    cases batch with
    | nil => exact ⟨hselected, hrule, rfl, rfl, rfl, rfl, rfl, rfl, rfl⟩
    | cons m batch => exact ⟨hselected, hrule, rfl, rfl, rfl, rfl, rfl, rfl, rfl⟩
  | setMaximum n =>
    have hpanel := s.panel.step_setMaximum_cases n
    unfold operate
    rcases hpanel with hsame | ⟨store, hsame⟩
    · rw [hsame]
      exact ⟨rfl, .refl _, rfl, rfl, rfl, rfl, rfl, rfl, rfl⟩
    · rw [hsame]
      exact ⟨rfl, .refl _, rfl, rfl, rfl, rfl, rfl, rfl, rfl⟩
  | resetSource =>
    have hrule : (s.panel.rules.perform .markRead).selectedRule.Same s.panel.rules.selectedRule :=
      RuleSet.selectedRule_perform id
    exact ⟨rfl, hrule, rfl, rfl, rfl, rfl, rfl, rfl, rfl⟩
  | _ => exact h.elim

/-- An event from outside does not touch what the user has set. -/
theorem untouched_outside {v w : Viewing} {e : Event} (hstep : Step v e w) (h : e.IsOutside) :
    Untouched v.screen w.screen := by
  cases hstep with
  | op s running op => exact s.untouched_operate h
  | start s r attached waiting => exact ⟨rfl, .refl _, rfl, rfl, rfl, rfl, rfl, rfl, rfl⟩
  | read s forced => exact ⟨rfl, .refl _, rfl, rfl, rfl, rfl, rfl, rfl, rfl⟩
  | draw s follow messages => exact ⟨rfl, .refl _, rfl, rfl, rfl, rfl, rfl, rfl, rfl⟩
  | scroll s follow =>
    obtain ⟨focus, hscroll⟩ := s.scroll_eq follow
    rw [hscroll]
    exact ⟨rfl, .refl _, rfl, rfl, rfl, rfl, rfl, rfl, rfl⟩

end Screen

end LogViewer
