import LogViewer.Proofs.Screen.Actions

/-!
# The screen is a picture of the panel

The counters, names, selection and level of a panel change in many places, and the screen draws them
in others. Adding a rule asks for no refresh, and neither does removing or replacing a rule that is
not selected; but a user selects the rule that was added, and removes and edits none but the
selected rule. So whatever is done, the screen at rest shows the panel as it is, as long as nothing
but the dialog is used while one is open.

## Main definitions

- `Screen.Projects`: the screen shows the panel as it is
- `Screen.Allowed`, `Screen.Usage`: inputs, where an open dialog comes first
- `Screen.Faithful`: a refresh waits or what is shown will be right

## Main statements

- `Screen.Faithful.usage`: an input keeps the screen faithful
- `Screen.projects_panel`: the level pills at every moment, and the screen at rest
-/

namespace LogViewer.Screen

/-! ## §1 Usage -/

/-- An action of the dialog. The alarm for the search text may ring as well. -/
def Action.IsOfDialog : Action → Prop
  | .fill _ => True
  | .saveDialog => True
  | .closeDialog => True
  | .ring => True
  | _ => False

/-- While a dialog is open, a user acts on nothing else. Keys are for the dialog anyway. -/
def Allowed (s : Screen) : Input → Prop
  | .act a => s.dialog = none ∨ a.IsOfDialog
  | .key _ _ => True
  | .event e => e.IsOutside

/-- An input that is allowed and succeeds. -/
def Usage (v : Viewing) (i : Input) (w : Viewing) : Prop :=
  Input.Step v i w ∧ v.screen.Allowed i

/-! ## §2 What is shown -/

/-- The screen shows the panel as it is. -/
structure Projects (s : Screen) : Prop where
  visible : s.visible = s.panel.visible
  messages : s.rows.messages = s.panel.visible
  pane : s.pane = LogViewer.pane s.panel.rules
  title : s.title = titleText s.source s.panel.rules.selectedRule.name
  counts : s.footer.visible = s.panel.visible.length ∧ s.footer.stored = s.panel.store.size

/-- A running refresh has yet to read the panel, or it has read what is visible, or the screen shows
the panel. -/
def Viewing.Projecting (v : Viewing) : Prop :=
  match v.running with
  | some (.started _) => True
  | some (.reading _ messages) => messages = v.panel.visible
  | _ => v.screen.Projects

/-- A refresh waits or what is shown will be right. The pill of the level is marked, and a dialog is
for the selected rule. -/
structure Faithful (v : Viewing) : Prop where
  attached : ∃ r, v.panel.refresher = some r ∧ r.InStep
  marked : v.screen.pills = Pill.row v.panel.level
  edits : v.screen.EditsSelected
  shows : 0 < v.panel.outstanding ∨ v.Projecting

/-- What is drawn later goes on being right if all that it depends on is the same. -/
theorem Projects.of_undrawn {s s' : Screen} (h : s.Projects) (hscreen : Undrawn s s')
    {disk : Disk} (hpanel : s'.panel = { s.panel with disk }) : s'.Projects := by
  have hvisible : s'.panel.visible = s.panel.visible := by
    rw [hpanel]
    rfl
  constructor
  · rw [hscreen.visible, hvisible, h.visible]
  · rw [hscreen.messages, hvisible, h.messages]
  · rw [hscreen.pane, h.pane, hpanel]
  · rw [hscreen.title, hscreen.source, h.title, hpanel]
  · rw [hvisible, hpanel]
    rcases hscreen.counts with ⟨hshown, hstored⟩ | ⟨hshown, hstored⟩
    · rw [hshown, hstored]
      exact h.counts
    · rw [hshown, hstored, h.visible]
      exact ⟨rfl, rfl⟩

namespace Faithful

variable {s s' : Screen} {running : Option Task}

/-- After a request a refresh waits, so nothing need be shown yet. -/
theorem asked (h : Faithful ⟨s, running⟩) (hasked : Panel.Asked s.panel s'.panel)
    (hmarked : s'.pills = Pill.row s'.panel.level) (hedits : s'.EditsSelected) :
    Faithful ⟨s', running⟩ := by
  obtain ⟨r, hr, hin⟩ := h.attached
  obtain ⟨scroll, hasked⟩ := hasked
  have hr' : s'.panel.refresher = some (r.request scroll).1 := by
    rw [hasked, show s.panel.refresher = some r from hr]
    rfl
  refine ⟨⟨_, hr', hin.request scroll⟩, hmarked, hedits, ?_⟩
  -- The request hands over a task, or it is absorbed because one is waiting.
  left
  show 0 < s'.panel.outstanding
  rw [outstanding_of_attached hr']
  exact waiting_request hin scroll

/-- Where no more than the disk changes, what was right stays right. -/
theorem quiet (h : Faithful ⟨s, running⟩) (hscreen : Undrawn s s') {disk : Disk}
    (hpanel : s'.panel = { s.panel with disk }) (hedits : s'.EditsSelected) :
    Faithful ⟨s', running⟩ := by
  obtain ⟨r, hr, hin⟩ := h.attached
  have hr' : s'.panel.refresher = some r := by
    rw [hpanel]
    exact hr
  refine ⟨⟨r, hr', hin⟩, hscreen.marked h.marked, hedits, ?_⟩
  rcases h.shows with hwaits | hshows
  · left
    show 0 < s'.panel.outstanding
    rw [outstanding_of_attached hr', ← outstanding_of_attached hr]
    exact hwaits
  · right
    have hvisible : s'.panel.visible = s.panel.visible := by
      rw [hpanel]
      rfl
    -- A refresh that has not read the panel yet will read it as it is then.
    match running, hshows with
    | some (.started _), _ => exact trivial
    | some (.reading _ _), hread => exact hread.trans hvisible.symm
    | some (.drawn _), hprojects => exact hprojects.of_undrawn hscreen hpanel
    | none, hprojects => exact hprojects.of_undrawn hscreen hpanel

/-- An action keeps the screen faithful, whatever else it does. -/
theorem acted (h : Faithful ⟨s, running⟩) (hscreen : Undrawn s s')
    (hpanel : s.panel.Acted s'.panel) (hedits : s'.EditsSelected) : Faithful ⟨s', running⟩ := by
  generalize hq : s'.panel = q at hpanel
  cases hpanel with
  | quiet disk => exact h.quiet hscreen hq hedits
  | asked ops silent asks =>
    rw [← hq] at asks
    exact h.asked asks (hscreen.marked h.marked) hedits

end Faithful

/-! ## §3 Dialogs -/

/-- Applying the search text leaves the dialog and the rules alone. -/
theorem applySearch_dialog (s : Screen) (level : Level) :
    (s.applySearch level).1.dialog = s.dialog ∧
      (s.applySearch level).1.panel.rules = s.panel.rules := by
  unfold applySearch
  cases hset : s.panel.setQuery s.search.text level with
  | ok panel =>
    obtain ⟨live, _, hpanel⟩ := bind_eq_ok_iff.1 hset
    cases hpanel
    exact ⟨rfl, rfl⟩
  | error e =>
    dsimp only
    split <;> exact ⟨rfl, rfl⟩

theorem EditsSelected.ring {s : Screen} (h : s.EditsSelected) : s.ring.1.EditsSelected := by
  unfold Screen.ring
  split
  · obtain ⟨hdialog, hrules⟩ := applySearch_dialog { s with alarm := false } s.panel.level
    intro d position hd hgoal
    show position = (applySearch { s with alarm := false } s.panel.level).1.panel.rules.selected
    rw [hrules]
    exact h d position (hdialog.symm.trans hd) hgoal
  · exact h

theorem EditsSelected.fill {s : Screen} (h : s.EditsSelected) (fields : DialogFields) :
    (s.fill fields).EditsSelected := by
  intro d position hd hgoal
  obtain ⟨d', hd', rfl⟩ := Option.map_eq_some_iff.1 hd
  exact h d' position hd' hgoal

theorem EditsSelected.complain {s : Screen} (h : s.EditsSelected) {d : Dialog}
    (hdialog : s.dialog = some d) (refusal : Dialog.Refusal) :
    (s.complain d refusal).1.EditsSelected := by
  have hshown :
      EditsSelected { s with dialog := some { d with complaint := refusal.message } } := by
    rintro d' position ⟨⟩ hgoal
    exact h d position hdialog hgoal
  unfold Screen.complain
  cases refusal with
  | rule e =>
    dsimp only
    split
    · exact h
    · exact hshown
  | blankName => exact hshown
  | level e => exact hshown

/-- A dialog that is committed is closed. -/
theorem dialog_commit {s : Screen} {goal : DialogGoal} {r : Rule}
    (h : (s.commit goal r).2 = .ok ()) : (s.commit goal r).1.dialog = none := by
  unfold commit at h ⊢
  cases goal with
  | add =>
    dsimp only at h ⊢
    cases hadd : s.panel.add r with
    | mk panel outcome =>
      rw [hadd] at h
      cases outcome with
      | ok i => rfl
      | error e => cases h
  | edit position =>
    dsimp only at h ⊢
    cases hedit : s.panel.edit position r with
    | mk panel outcome =>
      rw [hedit] at h
      cases outcome with
      | ok done => rfl
      | error e => cases h

theorem EditsSelected.saveDialog {s : Screen} (h : s.EditsSelected)
    (hdone : (dropping s.saveDialog).2 = .ok ()) : s.saveDialog.1.EditsSelected := by
  obtain ⟨_, hdone⟩ := dropping_eq_ok_iff.1 hdone
  cases hdialog : s.dialog with
  | none =>
    unfold Screen.saveDialog
    rw [hdialog]
    exact h
  | some d =>
    cases hrule : d.rule with
    | ok r =>
      rw [saveDialog_of_ok hdialog hrule] at hdone ⊢
      obtain ⟨⟨⟩, hcommit, _⟩ := map_eq_ok_iff.1 hdone
      exact .of_closed (dialog_commit hcommit)
    | error refusal =>
      rw [saveDialog_of_error hdialog hrule]
      exact h.complain hdialog refusal

/-- An action that is allowed keeps the dialog for the selected rule. -/
theorem EditsSelected.perform {s : Screen} (h : s.EditsSelected) {a : Action}
    (hallowed : s.Allowed (.act a)) (hdone : (s.perform a).2 = .ok ()) :
    (s.perform a).1.EditsSelected := by
  rcases hallowed with hclosed | hdialog
  · -- A dialog that the action opens is for the selected rule.
    exact (s.undrawn_perform a).opened hclosed
  · cases a with
    | fill fields => exact h.fill fields
    | saveDialog => exact h.saveDialog hdone
    | closeDialog => exact .of_closed rfl
    | ring => exact h.ring
    | _ => exact hdialog.elim

/-! ## §4 One input -/

namespace Faithful

variable {v w : Viewing} {s : Screen} {running : Option Task}

theorem perform (h : Faithful ⟨s, running⟩) {a : Action} (hallowed : s.Allowed (.act a))
    (hdone : (s.perform a).2 = .ok ()) : Faithful ⟨(s.perform a).1, running⟩ :=
  h.acted (s.undrawn_perform a) (panel_perform (fun _ => h.edits) hdone)
    (h.edits.perform hallowed hdone)

theorem handle (h : Faithful ⟨s, running⟩) {key : String} {stamp : Text} {effect : KeyEffect}
    (hdone : (s.handle key stamp).2 = .ok effect) : Faithful ⟨(s.handle key stamp).1, running⟩ := by
  rcases s.screen_handle key stamp with hnothing | ⟨a, haction, hperform, ha⟩
  · rw [hnothing]
    exact h
  · rw [haction]
    apply h.perform _ (hperform effect hdone)
    rcases ha with rfl | ⟨hclosed, _⟩
    · exact .inr trivial
    · exact .inl hclosed

/-- Messages, capacities and sources that come from outside keep the screen faithful. -/
theorem operate (h : Faithful ⟨s, running⟩) {op : Panel.Op} (hop : (Event.op op).IsOutside) :
    Faithful ⟨s.operate op, running⟩ := by
  rcases step_outside_cases hop s.panel with hsame | ⟨hasks, hlevel, hselected⟩
  · have hscreen : s.operate op = s := by
      unfold Screen.operate
      rw [hsame]
    rw [hscreen]
    exact h
  · have hasked : Panel.Asked s.panel (s.operate op).panel := hasks
    apply h.asked hasked
    · show s.pills = Pill.row (s.panel.step op).level
      rw [hlevel]
      exact h.marked
    · intro d position hd hgoal
      show position = (s.panel.step op).rules.selected
      rw [hselected]
      exact h.edits d position hd hgoal

/-- Drawing what is visible shows the panel. -/
theorem projects_drawMessages (s : Screen) {messages : List Message}
    (h : messages = s.panel.visible) : (s.drawMessages messages).countRefresh.Projects := by
  subst h
  exact ⟨rfl, rfl, rfl, rfl, rfl, rfl⟩

theorem event (h : Faithful v) {e : Event} (hstep : Screen.Step v e w) (he : e.IsOutside) :
    Faithful w := by
  cases hstep with
  | op s running op => exact h.operate he
  | start s r attached waiting =>
    obtain ⟨r', hr', hin⟩ := h.attached
    obtain rfl : r = r' := Option.some.inj (attached.symm.trans hr')
    exact ⟨⟨r.start.1, rfl, hin.start⟩, h.marked, h.edits, .inr trivial⟩
  | read s forced => exact ⟨h.attached, h.marked, h.edits, .inr rfl⟩
  | draw s follow messages =>
    obtain ⟨r, hr, hin⟩ := h.attached
    have hr' : (s.drawMessages messages).countRefresh.panel.refresher = some r.finish :=
      congrArg (Option.map Refresher.finish) hr
    refine ⟨⟨_, hr', hin.finish⟩, h.marked, h.edits, ?_⟩
    -- If the panel has changed since it was read, another refresh waits.
    rcases h.shows with hwaits | hread
    · left
      show 0 < (s.drawMessages messages).countRefresh.panel.outstanding
      rw [outstanding_of_attached hr']
      rw [outstanding_of_attached hr] at hwaits
      exact hwaits
    · exact .inr (projects_drawMessages s hread)
  | scroll s follow =>
    obtain ⟨focus, hscroll⟩ := s.scroll_eq follow
    rw [hscroll]
    refine ⟨h.attached, h.marked, h.edits, ?_⟩
    rcases h.shows with hwaits | hprojects
    · exact .inl hwaits
    · have hprojects : s.Projects := hprojects
      exact .inr ⟨hprojects.visible, hprojects.messages, hprojects.pane, hprojects.title,
        hprojects.counts⟩

/-- An input that is allowed and succeeds keeps the screen faithful. -/
theorem usage (h : Faithful v) {i : Input} (huse : Usage v i w) : Faithful w := by
  obtain ⟨hstep, hallowed⟩ := huse
  cases hstep with
  | act s running a succeeds => exact h.perform hallowed succeeds
  | key s running key stamp effect succeeds => exact h.handle succeeds
  | event step => exact h.event step hallowed

/-- A screen that has just been attached waits for its first refresh. -/
theorem ofPanel (panel : Panel) (source : Text) (deferred : Bool) :
    Faithful ⟨(ofPanel panel source deferred).attach, none⟩ := by
  have hr : (Screen.ofPanel panel source deferred).attach.panel.refresher
      = some (Refresher.idle.request true).1 := rfl
  exact ⟨⟨_, hr, Refresher.InStep.idle.request true⟩, rfl, .of_closed rfl, .inl Nat.one_pos⟩

end Faithful

/-! ## §5 Every run -/

/-- Exactly one pill is marked. -/
theorem filter_active_row (level : Level) :
    (Pill.row level).filter (·.active) = [⟨level, true⟩] := by
  cases level <;> rfl

/-- There is a pill for each level. -/
theorem map_level_row (level : Level) : (Pill.row level).map (·.level) = Level.all := by
  cases level <;> rfl

/-- The pane has a row for each rule, at the position of the rule. -/
theorem getElem?_pane {rules : RuleSet} {i : Nat} {r : Rule} (h : rules.rules[i]? = some r) :
    (LogViewer.pane rules)[i]? = some ⟨ruleLabel r.name r.transient r.unread (i = rules.selected),
      if i = rules.selected then "sp_sel" else if r.unread = 0 then "sp_body" else "sp_unread"⟩ := by
  unfold LogViewer.pane
  rw [List.getElem?_mapIdx, h]
  simp [Rule.paneRow, Rule.label]

/-- However a screen is used, exactly one level pill is marked at every moment, the one of the
panel's level. When no refresh waits or runs, the pane has exactly one row for each rule, in the
order of the rules, with the label and the style of the rule as it is now; the title names the
selected rule; and the counts are those of the visible and of the stored messages. -/
theorem projects_panel {panel : Panel} {source : Text} {deferred : Bool} {inputs : List Input}
    {v : Viewing}
    (h : Trace Usage ⟨(ofPanel panel source deferred).attach, none⟩ inputs v) :
    v.screen.pills.filter (·.active) = [⟨v.panel.level, true⟩] ∧
    v.screen.pills.map (·.level) = Level.all ∧
    (v.AtRest →
      v.screen.pane.length = v.panel.rules.size ∧
      (∀ (i : Nat) (r : Rule), v.panel.rules.rules[i]? = some r → v.screen.pane[i]? = some
        ⟨ruleLabel r.name r.transient r.unread (i = v.panel.rules.selected),
          if i = v.panel.rules.selected then "sp_sel"
          else if r.unread = 0 then "sp_body" else "sp_unread"⟩) ∧
      v.screen.title = titleText v.screen.source v.panel.rules.selectedRule.name ∧
      v.screen.footer.visible = v.panel.visible.length ∧
      v.screen.footer.stored = v.panel.store.size) := by
  have hfaithful : Faithful v := by
    apply h.invariant (fun _ _ _ hu huse => Faithful.usage hu huse)
    exact .ofPanel panel source deferred
  refine ⟨?_, ?_, ?_⟩
  · rw [hfaithful.marked]
    exact filter_active_row _
  · rw [hfaithful.marked]
    exact map_level_row _
  · rintro ⟨hnone, hzero⟩
    -- No refresh waits or runs, so what is to be shown is shown.
    have hprojects : v.screen.Projects := by
      rcases hfaithful.shows with hwaits | hprojects
      · exact absurd hzero (Nat.ne_of_gt hwaits)
      · unfold Viewing.Projecting at hprojects
        rw [hnone] at hprojects
        exact hprojects
    refine ⟨?_, ?_, hprojects.title, hprojects.counts⟩
    · rw [hprojects.pane]
      exact List.length_mapIdx
    · intro i r hr
      rw [hprojects.pane]
      exact getElem?_pane hr

/-- The texts of a dialog for a rule that lets errors through. -/
def errorsFields : DialogFields := ⟨"errors", "", "", "", "", "E"⟩

theorem rule_errorsFields (complaint : Text) :
    Dialog.rule ⟨.add, errorsFields, complaint⟩ = .ok errorsRule := by
  have hname : Text.trimmed "errors" = "errors" := by decide +kernel
  have hlevel : Dialog.readLevel "E" = .ok .error := by decide +kernel
  unfold Dialog.rule
  simp only [errorsFields, hname, hlevel]
  rfl

/-- A rule that is made in the dialog is shown as the selected one after a refresh, and the title
names it. -/
theorem projects_panel_newRule :
    ∃ (p : Panel) (v : Viewing), (Panel.start 5 (.memory "") .empty).result = .ok p ∧
      Trace Usage ⟨(ofPanel p "" false).attach, none⟩
        [.key "n" "", .act (.fill errorsFields), .act .saveDialog, .event .start, .event .read,
          .event .draw, .event .scroll] v ∧
      v.AtRest ∧ v.screen.pane.length = 2 ∧ v.screen.pane[1]? = some ⟨"▶errors", "sp_sel"⟩ ∧
      v.screen.title = titleText "" "errors" := by
  let s : Screen := (ofPanel .fresh "" false).attach
  have hopened : Trace Usage ⟨s, none⟩ [.key "n" ""] ⟨s.openNew, none⟩ :=
    .single ⟨.key s none "n" "" .goOn rfl, trivial⟩
  have hfilled := hopened.concat ⟨.act s.openNew none (.fill errorsFields) rfl, .inr trivial⟩
  -- The dialog adds the rule and selects it.
  let q : Panel := (Panel.fresh.attach.add errorsRule).1
  let t : Screen := select { s with panel := q } 1
  have hperform : (s.openNew.fill errorsFields).perform .saveDialog = (t, .ok ()) := by
    show dropping _ = _
    rw [saveDialog_of_ok rfl (rule_errorsFields "")]
    rfl
  have hsave := Input.Step.act (s.openNew.fill errorsFields) none .saveDialog
    (congrArg Prod.snd hperform)
  rw [hperform] at hsave
  have hsaved := hfilled.concat ⟨hsave, .inr trivial⟩
  have hstarted := hsaved.concat ⟨.event (.start t _ rfl (by decide)), trivial⟩
  have hread := hstarted.concat ⟨.event (.read _ _), trivial⟩
  have hdrawn := hread.concat ⟨.event (.draw _ _ _), trivial⟩
  have hfinished := hdrawn.concat ⟨.event (.scroll _ _), trivial⟩
  obtain ⟨_, _, hrest⟩ := projects_panel hfinished
  obtain ⟨hlength, hpane, htitle, _⟩ := hrest ⟨rfl, rfl⟩
  exact ⟨.fresh, _, Panel.start_fresh, hfinished, ⟨rfl, rfl⟩, hlength, hpane 1 _ rfl, htitle⟩

end LogViewer.Screen
