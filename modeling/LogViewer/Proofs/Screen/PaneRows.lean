import LogViewer.Proofs.Panel.Positions
import LogViewer.Proofs.Screen.Calls
import LogViewer.Proofs.Screen.Keyboard

/-!
# The rows of the pane between two refreshes

A row of the pane is drawn for the rule of a position, and pressing it selects whatever rule has
that position by then. Rules are removed at once, but the pane is drawn by the next refresh only. So
a row that is pressed in between selects its rule as long as no rule above it was removed; otherwise
it selects the rule that has come to that position, or the default rule if there is none.

## Main definitions

- `Screen.Doing`: inputs with the operations that they do
- `Screen.DrawnIn`: the pane was drawn in one state, and some operations have been done since

## Main statements

- `Screen.pane_drawnIn`: what the pane shows
- `Screen.click_drawn`: pressing a row in every state
-/

namespace LogViewer.Screen

/-! ## §1 Since the pane was drawn -/

/-- Inputs that lead from one state to another, with the operations that they do on the panel. -/
inductive Doing : Viewing → List Input → List Panel.Op → Viewing → Prop
  | nil (v : Viewing) : Doing v [] [] v
  | concat {u v w : Viewing} {inputs : List Input} {ops : List Panel.Op} {i : Input} :
      Doing u inputs ops v → Occurs v i w → Doing u (inputs ++ [i]) (ops ++ v.calls i) w

/-- Among the inputs that lead from one state to another, the pane was drawn for the last time in a
state between them, or has not been drawn, and some operations have been done since. -/
def DrawnIn (s : Viewing) (inputs : List Input) (u : Viewing) (ops : List Panel.Op) (v : Viewing) : Prop :=
  ∃ earlier later, inputs = earlier ++ later ∧ Trace Occurs s earlier u ∧ Doing u later ops v ∧
    (earlier = [] ∨ ∃ before, earlier = before ++ [.event .draw]) ∧ .event .draw ∉ later

variable {s u v w : Viewing} {inputs : List Input} {ops : List Panel.Op}

/-- There is such a state. -/
theorem exists_drawnIn (h : Trace Occurs s inputs v) : ∃ u ops, DrawnIn s inputs u ops v := by
  induction h with
  | nil => exact ⟨s, [], [], [], rfl, .nil s, .nil s, .inl rfl, List.not_mem_nil⟩
  | concat hrun hstep ih =>
    rename_i v w inputs i
    by_cases hdraw : i = .event .draw
    · subst hdraw
      exact ⟨w, [], inputs ++ [.event .draw], [], by simp, hrun.concat hstep, .nil w, .inr ⟨inputs, rfl⟩,
        List.not_mem_nil⟩
    · obtain ⟨u, ops, earlier, later, rfl, hearlier, hdoing, hdrawn, hnot⟩ := ih
      refine ⟨u, ops ++ v.calls i, earlier, later ++ [i], by simp, hearlier, hdoing.concat hstep, hdrawn, ?_⟩
      simp only [List.mem_append, List.mem_singleton, not_or]
      exact ⟨hnot, Ne.symm hdraw⟩

/-- Until it is drawn again, the pane stays as it is. -/
theorem pane_doing (h : Doing u inputs ops v) (hdraw : .event .draw ∉ inputs) :
    v.screen.pane = u.screen.pane := by
  induction h with
  | nil => rfl
  | concat hdoing hstep ih =>
    simp only [List.mem_append, List.mem_singleton, not_or] at hdraw
    exact (pane_occurs hstep (Ne.symm hdraw.2)).trans (ih hdraw.1)

/-- The pane has the rows of the rules that there were when it was drawn. -/
theorem pane_drawnIn (h : DrawnIn s inputs u ops v)
    (hs : s.screen.pane = LogViewer.pane s.panel.rules) :
    v.screen.pane = LogViewer.pane u.panel.rules := by
  obtain ⟨earlier, later, -, hearlier, hdoing, hdrawn, hnot⟩ := h
  rw [pane_doing hdoing hnot]
  rcases hdrawn with rfl | ⟨before, rfl⟩
  · rw [hearlier.eq_of_nil]
    exact hs
  · obtain ⟨t, -, hdraw⟩ := hearlier.of_concat
    cases hdraw with
    | event step =>
      cases step with
      | draw => rfl

open Panel (follow Replaced RemovedAbove)

/-- A rule that was there when the pane was drawn is where the operations since then have moved it.
-/
theorem exists_doing (h : Doing u inputs ops v) {i j : Nat} {r : Rule}
    (hr : u.panel.rules.rules[i]? = some r) (hj : follow ops i = some j) :
    ∃ r', v.panel.rules.rules[j]? = some r' ∧ (Replaced ops i ∨ r'.Same r) := by
  induction h generalizing j with
  | nil =>
    cases hj
    exact ⟨r, hr, .inr (Rule.Same.refl r)⟩
  | concat hdoing hstep ih =>
    rw [Panel.follow_append] at hj
    obtain ⟨k, hk, hmoved⟩ := Option.bind_eq_some_iff.1 hj
    obtain ⟨r₁, hr₁, hsame₁⟩ := ih hk
    obtain ⟨r₂, hr₂, hsame₂⟩ := Panel.exists_follow hr₁ hmoved
    rw [rules_occurs hstep]
    refine ⟨r₂, hr₂, ?_⟩
    rcases hsame₁ with hreplaced | hsame₁
    · exact .inl (hreplaced.append _)
    · rcases hsame₂ with hreplaced | hsame₂
      · exact .inl (.after hk hreplaced)
      · exact .inr (hsame₂.trans hsame₁)

/-! ## §2 Pressing a row -/

/-- Pressing a drawn row selects its position, or the default rule if there is no rule at that
position. -/
theorem selected_click {s : Screen} {i : Nat} (h : i < s.pane.length) :
    (s.click i).2 = .ok () ∧
      (s.click i).1.panel.rules.selected = if i < s.panel.rules.size then i else 0 := by
  rw [click_eq h]
  exact ⟨rfl, s.selected_select i⟩

/-- Whatever has happened to a screen since it was attached to its panel, whether it succeeded or
not, and whether or not a refresh waits: the pane has the rows of the rules that there were when it
was drawn for the last time, and pressing a row succeeds. If the rule that the row was drawn for has
not been removed since, it is the same as it was unless it has been replaced. Pressing its row then
selects it exactly if it has not moved, and that is exactly if no rule above it has been removed
since. -/
theorem click_drawn {panel : Panel} {source : Text} {deferred : Bool}
    (h : Trace Occurs ⟨(ofPanel panel source deferred).attach, none⟩ inputs v) :
    (∃ u ops, DrawnIn ⟨(ofPanel panel source deferred).attach, none⟩ inputs u ops v) ∧
    ∀ u ops, DrawnIn ⟨(ofPanel panel source deferred).attach, none⟩ inputs u ops v →
      v.screen.pane = LogViewer.pane u.panel.rules ∧
      ∀ (i : Nat) r, u.panel.rules.rules[i]? = some r →
        v.screen.pane[i]? = some (r.paneRow (i = u.panel.rules.selected)) ∧
        (v.screen.click i).2 = .ok () ∧
        ∀ j, follow ops i = some j →
          (∃ r', v.panel.rules.rules[j]? = some r' ∧ (Replaced ops i ∨ r'.Same r)) ∧ j ≤ i ∧
          ((v.screen.click i).1.panel.rules.selected = j ↔ j = i) ∧
          (j = i ↔ ¬ RemovedAbove ops i) := by
  refine ⟨exists_drawnIn h, ?_⟩
  intro u ops hdrawn
  have hpane : v.screen.pane = LogViewer.pane u.panel.rules := pane_drawnIn hdrawn rfl
  refine ⟨hpane, ?_⟩
  intro i r hr
  have hrow : v.screen.pane[i]? = some (r.paneRow (i = u.panel.rules.selected)) := by
    rw [hpane]
    unfold LogViewer.pane
    rw [List.getElem?_mapIdx, hr]
    rfl
  obtain ⟨hdone, hselected⟩ := selected_click (List.getElem?_eq_some_iff.1 hrow).1
  refine ⟨hrow, hdone, ?_⟩
  intro j hj
  obtain ⟨earlier, later, -, -, hdoing, -, -⟩ := hdrawn
  obtain ⟨r', hr', hsame⟩ := exists_doing hdoing hr hj
  obtain ⟨hle, hpos, hmoved⟩ := Panel.follow_le hj
  have hlt : j < v.screen.panel.rules.size := (List.getElem?_eq_some_iff.1 hr').1
  refine ⟨⟨r', hr', hsame⟩, hle, ?_, hmoved⟩
  rw [hselected]
  -- Where there is no rule at the position any more, the rule has moved, but not to the first position.
  split <;> omega

/-- A rule with a name and nothing else. -/
def namedRule (name : Text) : Rule := ⟨.named name, ⟨none, none, none⟩, false, 0, rfl⟩

/-- The row of a rule is drawn, and another rule is added. Pressing the row selects the rule. -/
theorem click_drawn_added :
    ∃ (panel : Panel) (s v : Viewing), panel = Panel.fresh.step (.add (namedRule "a")) ∧
      s = ⟨(ofPanel panel "" false).attach, none⟩ ∧
      DrawnIn s [.event (.op (.add (namedRule "b")))] s [.add (namedRule "b")] v ∧
      v.screen.pane[1]? = some ((namedRule "a").paneRow false) ∧ (v.screen.click 1).2 = .ok () ∧
      (v.screen.click 1).1.panel.rules.selected = 1 := by
  let panel : Panel := Panel.fresh.step (.add (namedRule "a"))
  let s : Viewing := ⟨(ofPanel panel "" false).attach, none⟩
  have hadded : Occurs s (.event (.op (.add (namedRule "b")))) _ := .event (.op _ none _)
  have hdrawn := click_drawn (.single hadded)
  have hin : DrawnIn s [.event (.op (.add (namedRule "b")))] s [.add (namedRule "b")] _ :=
    ⟨[], _, rfl, .nil s, (Doing.nil s).concat hadded, .inl rfl, by simp⟩
  obtain ⟨-, hrows⟩ := hdrawn.2 s [.add (namedRule "b")] hin
  have hrule : s.panel.rules.rules[1]? = some (namedRule "a") := rfl
  obtain ⟨hrow, hdone, hrule⟩ := hrows 1 (namedRule "a") hrule
  obtain ⟨-, -, hselected, -⟩ := hrule 1 rfl
  exact ⟨panel, s, _, rfl, rfl, hin, hrow, hdone, hselected.2 rfl⟩

/-- Two rules are drawn, and the first of them, which is selected, is removed by its key. Until the
next refresh, pressing the row of the second one selects the default rule. -/
theorem click_movedRule :
    ∃ v : Viewing,
      Trace Occurs ⟨(ofPanel .fresh "" false).attach, none⟩
        [.event (.op (.add (namedRule "a"))), .event (.op (.add (namedRule "b"))), .act (.select 1),
          .event .start, .event .read, .event .draw, .event .scroll, .key "x" ""] v ∧
      v.screen.pane[2]? = some ((namedRule "b").paneRow false) ∧
      v.panel.rules.rules[1]? = some (namedRule "b") ∧ (v.screen.click 2).2 = .ok () ∧
      (v.screen.click 2).1.panel.rules.selectedRule.name = "All messages (no filters)" := by
  let s₁ : Screen :=
    ((ofPanel .fresh "" false).attach.operate (.add (namedRule "a"))).operate (.add (namedRule "b"))
  let s₂ : Screen := (s₁.perform (.select 1)).1
  let s₃ : Screen := (s₂.runTask.1.handle "x" "").1
  have hadded : Trace Occurs ⟨(ofPanel .fresh "" false).attach, none⟩
      [.event (.op (.add (namedRule "a"))), .event (.op (.add (namedRule "b")))] ⟨s₁, none⟩ :=
    (Trace.single (.event (.op _ none _))).concat (.event (.op _ none _))
  have hselected : Trace Occurs _ _ ⟨s₂, none⟩ := hadded.concat (.act s₁ none (.select 1))
  have hattached : s₂.panel.refresher = some ((Refresher.idle.request true).1.request true).1 := rfl
  have hdrawn := hselected.append (occurs_runTask hattached (by decide))
  have hremoved : Trace Occurs _ _ ⟨s₃, none⟩ := hdrawn.concat (.key _ none "x" "")
  refine ⟨_, hremoved, by decide +kernel, rfl, by decide +kernel, by decide +kernel⟩

end LogViewer.Screen
