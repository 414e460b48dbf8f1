import LogViewer.Proofs.Panel.Saved
import LogViewer.Proofs.Screen.AtRest
import LogViewer.Proofs.Screen.Dialogs
import LogViewer.Proofs.Screen.Projection

/-!
# Saving a dialog

A dialog is opened for a new rule or for the selected one, and while it is open messages come in and
refreshes go on. Saving it changes the rules by the one rule of its texts, saves them, and closes
the dialog; or it leaves a complaint in the dialog and everything else alone. Two faults are in
between. A repetition number that is too large is not reported in the dialog. And where the rules
cannot be saved, they are changed although the dialog stays open.

## Main definitions

- `Screen.OpensFor`: opening a dialog
- `Screen.Within`: what happens while a dialog stays open
- `Screen.changedRules`, `Screen.Committed`: what saving changes

## Main statements

- `Screen.Opened.within`: a dialog goes on being for the rule that it was opened for
- `Screen.commit_of_saved`, `Screen.commit_of_unsaved`: putting a rule to its use
- `Screen.saveDialog_exact`: what saving comes to
-/

namespace LogViewer

namespace Screen

/-! ## §1 Complaints -/

/-- A complaint changes nothing but what the dialog says. -/
theorem complain_eq (s : Screen) (d : Dialog) {refusal : Dialog.Refusal}
    (hreported : ∀ e, refusal = .rule e → e.isUncounted = false) :
    s.complain d refusal = ({ s with dialog := some { d with complaint := refusal.message } }, .ok ()) := by
  cases refusal with
  | blankName => rfl
  | level e => rfl
  | rule e => simp [complain, hreported e rfl]

/-- A repetition number that is too large is not complained about. -/
theorem complain_uncounted (s : Screen) (d : Dialog) {e : RuleError} (h : e.isUncounted = true) :
    s.complain d (.rule e) = (s, .error (.rule e)) := by
  simp [complain, h]

/-! ## §2 While a dialog is open -/

/-- A dialog is opened: for a new rule, or for the selected one unless that is the default rule. -/
inductive OpensFor (s : Screen) : DialogGoal → Screen → Prop
  | add : OpensFor s .add s.openNew
  | edit (h : s.panel.rules.selected ≠ 0) : OpensFor s (.edit s.panel.rules.selected) s.openEdit

/-- An allowed input while a dialog is open, which leaves it open. -/
def Within (v : Viewing) (i : Input) (w : Viewing) : Prop :=
  Usage v i w ∧ v.screen.dialog ≠ none ∧ w.screen.dialog ≠ none

/-- A dialog is open for a goal. If that is to edit a rule, the rule is selected, and is not the
default rule. -/
structure Opened (goal : DialogGoal) (rule : Rule) (v : Viewing) : Prop where
  dialog : ∃ d, v.screen.dialog = some d ∧ d.goal = goal
  edits : ∀ position, goal = .edit position → 0 < position ∧ v.panel.rules.selected = position ∧
    v.panel.rules.selectedRule.Same rule

namespace Opened

variable {goal : DialogGoal} {rule : Rule} {s t : Screen} {running : Option Task}

/-- A dialog that has just been opened is for the selected rule. -/
theorem of_opensFor (h : s.OpensFor goal t) (running : Option Task) :
    Opened goal s.panel.rules.selectedRule ⟨t, running⟩ := by
  cases h with
  | add =>
    refine ⟨⟨.forNew, rfl, rfl⟩, ?_⟩
    intro position hgoal
    cases hgoal
  | edit hselected =>
    have hopen : s.openEdit = { s with
        dialog := some (.forRule s.panel.rules.selected s.panel.rules.selectedRule) } := by
      unfold openEdit
      rw [if_neg hselected]
    rw [hopen]
    refine ⟨⟨_, rfl, rfl⟩, ?_⟩
    intro position hgoal
    cases hgoal
    exact ⟨Nat.pos_of_ne_zero hselected, rfl, Rule.Same.refl _⟩

/-- The dialog stays for the same rule if its goal and the rules stay. -/
theorem keep (h : Opened goal rule ⟨s, running⟩) {d d' : Dialog} (hd : s.dialog = some d)
    (hd' : t.dialog = some d') (hgoal : d'.goal = d.goal) (hrules : t.panel.rules = s.panel.rules) :
    Opened goal rule ⟨t, running⟩ := by
  obtain ⟨d₀, hd₀, hgoal₀⟩ := h.dialog
  obtain rfl : d = d₀ := Option.some.inj (hd.symm.trans hd₀)
  refine ⟨⟨d', hd', hgoal.trans hgoal₀⟩, ?_⟩
  intro position hposition
  have hedits := h.edits position hposition
  show 0 < position ∧ t.panel.rules.selected = position ∧ t.panel.rules.selectedRule.Same rule
  rw [hrules]
  exact hedits

/-- An action of the dialog that leaves it open leaves it for the same rule. -/
theorem perform (h : Opened goal rule ⟨s, running⟩) {a : Action} (ha : a.IsOfDialog)
    (hdone : (s.perform a).2 = .ok ()) (hopen : (s.perform a).1.dialog ≠ none) :
    Opened goal rule ⟨(s.perform a).1, running⟩ := by
  obtain ⟨d, hd, -⟩ := h.dialog
  have hd : s.dialog = some d := hd
  cases a with
  | fill fields =>
    have hfilled : (s.fill fields).dialog = some { d with fields } := by
      show s.dialog.map _ = _
      rw [hd]
      rfl
    exact h.keep (t := s.fill fields) hd hfilled rfl rfl
  | closeDialog => exact absurd rfl hopen
  | ring =>
    show Opened goal rule ⟨s.ring.1, running⟩
    unfold ring
    split
    · obtain ⟨hdialog, hrules⟩ := applySearch_dialog { s with alarm := false } s.panel.level
      exact h.keep hd (hdialog.trans hd) rfl hrules
    · exact h
  | saveDialog =>
    obtain ⟨_, hsaved⟩ := dropping_eq_ok_iff.1 hdone
    show Opened goal rule ⟨s.saveDialog.1, running⟩
    have hopen : s.saveDialog.1.dialog ≠ none := hopen
    cases hrule : d.rule with
    | ok r =>
      -- A dialog that is committed is closed.
      rw [saveDialog_of_ok hd hrule] at hsaved hopen
      obtain ⟨⟨⟩, hcommit, _⟩ := map_eq_ok_iff.1 hsaved
      exact absurd (dialog_commit hcommit) hopen
    | error refusal =>
      have hreported : ∀ e, refusal = .rule e → e.isUncounted = false := by
        rintro e rfl
        by_contra huncounted
        rw [saveDialog_of_error hd hrule, complain_uncounted s d (by simpa using huncounted)] at hsaved
        cases hsaved
      rw [saveDialog_of_error hd hrule, complain_eq s d hreported]
      exact h.keep hd rfl rfl rfl
  | _ => exact ha.elim

/-- While it stays open, a dialog is for the rule that it was opened for. -/
theorem within {v w : Viewing} {i : Input} (h : Opened goal rule v) (hwithin : Within v i w) :
    Opened goal rule w := by
  obtain ⟨⟨hstep, hallowed⟩, hbefore, hafter⟩ := hwithin
  cases hstep with
  | act s running a succeeds =>
    have hdialog : a.IsOfDialog := by
      rcases hallowed with hclosed | hdialog
      · exact absurd hclosed hbefore
      · exact hdialog
    exact h.perform hdialog succeeds hafter
  | key s running key stamp effect succeeds =>
    -- While a dialog is open, a key closes it or does nothing.
    have hhandle : s.handle key stamp = goingOn (if key = "esc" then s.closeDialog else s) := by
      unfold handle
      rw [if_pos (Option.isSome_iff_ne_none.2 hbefore)]
    have hafter : (s.handle key stamp).1.dialog ≠ none := hafter
    rw [hhandle] at hafter ⊢
    by_cases hkey : key = "esc"
    · rw [if_pos hkey] at hafter
      exact absurd rfl hafter
    · rw [if_neg hkey]
      exact h
  | event step =>
    -- Messages count in the rule, but it is the same rule.
    have huntouched := untouched_outside step hallowed
    obtain ⟨d, hd, hgoal⟩ := h.dialog
    refine ⟨⟨d, huntouched.dialog.trans hd, hgoal⟩, ?_⟩
    intro position hposition
    obtain ⟨hpos, hselected, hsame⟩ := h.edits position hposition
    exact ⟨hpos, huntouched.selected.trans hselected, huntouched.rule.trans hsame⟩

end Opened

/-! ## §3 Putting a rule to its use -/

/-- The rules after a dialog's rule has been put to its use. -/
def changedRules (rules : RuleSet) (r : Rule) : DialogGoal → RuleSet
  | .add => (rules.add r).1
  | .edit position => (rules.replace position r).1

/-- What saving changed rules comes to. -/
def saving (s : Screen) (goal : DialogGoal) (r : Rule) : Storage.Saved :=
  s.panel.storage.save s.panel.disk (SavedRules.exportRules (changedRules s.panel.rules r goal))

/-- The panel after changed rules have been saved, well or not. -/
def savedPanel (s : Screen) (goal : DialogGoal) (r : Rule) : Panel :=
  { s.panel with
    rules := changedRules s.panel.rules r goal
    storage := (s.saving goal r).storage
    disk := (s.saving goal r).disk
    warnings := s.panel.warnings ++ (s.saving goal r).warnings }

/-- What saving a dialog changes if the rules can be saved. -/
structure Committed (s : Screen) (goal : DialogGoal) (r : Rule) (t : Screen) : Prop where
  /-- The dialog is closed, and nothing is drawn. -/
  screen : t = { s with panel := t.panel, dialog := none, part := t.part, column := t.column }
  /-- A new rule stands behind all others and is selected. A changed one is in the place of the rule that
  it was made from. -/
  rules : match goal with
    | .add => t.panel.rules.rules = s.panel.rules.rules ++ [r] ∧
        t.panel.rules.selected = s.panel.rules.size
    | .edit position => t.panel.rules.rules = s.panel.rules.rules.set position r ∧
        t.panel.rules.selected = position
  /-- The rules as they are now have been saved. -/
  saved : s.saving goal r = s.panel.storage.save s.panel.disk t.panel.exportRules
  /-- A refresh has been asked for, and nothing else in the panel changes. -/
  panel : t.panel = { s.savedPanel goal r with
    rules := t.panel.rules
    refresher := s.panel.refresher.map fun r => (r.request true).1 }

theorem add_eq (s : Screen) (r : Rule) : s.panel.add r
    = (s.savedPanel .add r, (s.saving .add r).result.map fun _ => s.panel.rules.size) := rfl

/-- A rule that is not the default rule is replaced, and if it is the selected one and the rules can
be saved, then a refresh is asked for. -/
theorem edit_eq {s : Screen} {position : Nat} (hpos : 0 < position)
    (hselected : s.panel.rules.selected = position) (r : Rule) :
    s.panel.edit position r = Panel.refreshIf (s.savedPanel (.edit position) r) true
      (s.saving (.edit position) r).result := by
  have hlt := s.panel.rules.selected_lt
  rcases s.panel.rules.replace_cases position r with ⟨-, hrefused⟩ | ⟨k, -, -, -, hdone, hkept, -⟩
  · have hle := hrefused position rfl
    omega
  · unfold Panel.edit
    simp only [hdone, if_true]
    have hsame : decide ((position : Int) = (Panel.save { s.panel with
        rules := (s.panel.rules.replace position r).1 }).1.rules.selected) = true := by
      rw [Panel.rules_save, hkept, hselected, decide_eq_true rfl]
    rw [hsame]
    rfl

variable {s : Screen} {goal : DialogGoal} {r : Rule}

/-- A dialog for a rule is for the selected one, which is not the default rule. -/
def ForSelected (s : Screen) (goal : DialogGoal) : Prop :=
  ∀ position, goal = .edit position → 0 < position ∧ s.panel.rules.selected = position

theorem forSelected_add (s : Screen) : s.ForSelected .add := by
  intro position hgoal
  cases hgoal

/-- A rule is put to its use, and the dialog is closed. -/
theorem commit_of_saved (hgoal : s.ForSelected goal) (hread : r.unread = 0)
    (hsaved : (s.saving goal r).result = .ok ()) :
    (s.commit goal r).2 = .ok () ∧ Committed s goal r (s.commit goal r).1 := by
  cases goal with
  | add =>
    have hcommit : s.commit .add r
        = (select (closeDialog { s with panel := s.savedPanel .add r }) s.panel.rules.size, .ok ()) := by
      unfold commit
      simp only [add_eq, hsaved]
      rfl
    have hlt : s.panel.rules.size < (changedRules s.panel.rules r .add).rules.length := by
      simp [changedRules, RuleSet.size]
    -- Nothing is unread in the new rule, so selecting it changes no rule.
    have hselect : ((changedRules s.panel.rules r .add).select s.panel.rules.size).1
        = (changedRules s.panel.rules r .add).selectAt s.panel.rules.size hlt := by
      rw [RuleSet.select_of_lt hlt]
    have hexport := (changedRules s.panel.rules r .add).exportRules_select s.panel.rules.size
    rw [hcommit]
    refine ⟨rfl, ⟨rfl, ⟨?_, ?_⟩, ?_, rfl⟩⟩
    · show ((changedRules s.panel.rules r .add).select s.panel.rules.size).1.rules = _
      rw [hselect]
      exact RuleSet.modify_concat s.panel.rules.rules hread
    · show ((changedRules s.panel.rules r .add).select s.panel.rules.size).1.selected = _
      rw [hselect]
      rfl
    · show s.panel.storage.save _ _ = s.panel.storage.save _ (SavedRules.exportRules
        ((changedRules s.panel.rules r .add).select s.panel.rules.size).1)
      rw [hexport]
  | edit position =>
    obtain ⟨hpos, hselected⟩ := hgoal position rfl
    have hlt : position < s.panel.rules.size := by
      rw [← hselected]
      exact s.panel.rules.selected_lt
    have hcommit : s.commit (.edit position) r = (closeDialog { s with
        panel := (s.savedPanel (.edit position) r).requestRefresh true }, .ok ()) := by
      unfold commit
      simp only [edit_eq hpos hselected, hsaved]
      rfl
    obtain ⟨hrules, hkept⟩ := s.panel.rules.replace_rules hpos hlt r
    rw [hcommit]
    exact ⟨rfl, ⟨rfl, ⟨hrules, hkept.trans hselected⟩, rfl, rfl⟩⟩

/-- If the rules cannot be saved, they are changed all the same, and the dialog stays open. -/
theorem commit_of_unsaved (hgoal : s.ForSelected goal) {e : RuleFile.SaveFault}
    (hsaved : (s.saving goal r).result = .error e) :
    s.commit goal r = ({ s with panel := s.savedPanel goal r }, .error (.save e)) := by
  cases goal with
  | add =>
    unfold commit
    simp only [add_eq, hsaved]
    rfl
  | edit position =>
    obtain ⟨hpos, hselected⟩ := hgoal position rfl
    unfold commit
    simp only [edit_eq hpos hselected, hsaved]
    rfl

/-! ## §4 Saving a dialog -/

end Screen

end LogViewer
