import LogViewer.Proofs.Panel.Run
import LogViewer.Proofs.Rules.Selection

/-!
# Which operations ask for a refresh

Each operation decides for itself whether the view is to be refreshed. One that does not ask leaves
the visible messages alone, with one exception: the selected rule can be removed or replaced and the
saving of the rules fail after that, so that the call ends before it asks.

## Main definitions

- `Panel.SameView`: two panels have the same messages and let the same ones through
- `Panel.requests`, `Panel.requestsIn`: the requests of an operation and of several
- `Panel.Unsaved`: the selected rule is removed or replaced, and the rules are not saved
- `Panel.Asks`, `Panel.Silent`: an operation asks for a refresh or does not

## Main statements

- `Panel.refresher_step`, `Panel.refresher_run`: the refresher after the requests
- `Panel.requests_or_sameView`: an operation asks or leaves the view alone, except if unsaved
- `Panel.visible_run`: the same of several operations
-/

namespace LogViewer

namespace Panel

/-! ## §1 Removing and replacing -/

/-- Two panels have the same messages, and let the same ones through: the selected rule and the live
rules are the same. -/
structure SameView (p q : Panel) : Prop where
  store : p.store = q.store
  live : p.live = q.live
  rule : p.rules.selectedRule = q.rules.selectedRule

theorem SameView.refl (p : Panel) : p.SameView p := ⟨rfl, rfl, rfl⟩

/-- What is visible depends on the messages, the selected rule and the live rules. -/
theorem SameView.visible {p q : Panel} (h : p.SameView q) : p.visible = q.visible := by
  have hshows : p.shows = q.shows := by
    funext m
    unfold shows
    rw [h.rule, h.live]
  unfold Panel.visible
  rw [h.store, hshows]

/-- So does it whether a test breaks off when the visible messages are found. -/
theorem SameView.visible? {p q : Panel} (h : p.SameView q) : p.visible? = q.visible? := by
  unfold Panel.visible?
  rw [h.store, h.rule, h.live]

/-- A removal that is refused changes nothing. Otherwise the rules are saved, and a refresh is asked
for if the selected rule was removed and the saving went well. -/
theorem remove_eq (p : Panel) (index : Int) :
    p.remove index = (p, .ok false) ∨
      p.remove index = refreshIf (save { p with rules := (p.rules.remove index).1 }).1
        (index = p.rules.selected) (save { p with rules := (p.rules.remove index).1 }).2 := by
  rcases p.rules.remove_cases index with ⟨hsame, _⟩ | ⟨k, _, _, _, hdone, _⟩
  · left
    simp [remove, hsame]
  · right
    simp [remove, hdone]

/-- A replacement that is refused changes nothing. Otherwise the rules are saved, and a refresh is
asked for if the selected rule was replaced and the saving went well. -/
theorem edit_eq (p : Panel) (index : Int) (r : Rule) :
    p.edit index r = (p, .ok false) ∨
      p.edit index r = refreshIf (save { p with rules := (p.rules.replace index r).1 }).1
        (index = p.rules.selected) (save { p with rules := (p.rules.replace index r).1 }).2 := by
  rcases p.rules.replace_cases index r with ⟨hsame, _⟩ | ⟨k, _, _, _, hdone, hselected, _⟩
  · left
    simp [edit, hsame]
  · right
    simp only [edit, hdone, if_true]
    rw [rules_save, hselected]

/-! ## §2 The requests -/

end Panel

/-- The requests of two lists are made one after the other. -/
theorem Refresher.requests_append (r : Refresher) (first second : List Bool) :
    (r.requests (first ++ second)).1 = ((r.requests first).1.requests second).1 := by
  induction first generalizing r with
  | nil => rfl
  | cons scroll first ih => exact ih (r.request scroll).1

namespace Panel

/-- The request of an operation that makes none if it fails. -/
def ifOk {ε α : Type} (scroll : Bool) : Except ε α → List Bool
  | .ok _ => [scroll]
  | .error _ => []

/-- The requests that an operation makes, each with whether the refresh is to scroll: what comes in
and the capacity leave the reader where they are, and everything else shows the latest messages. -/
def requests (p : Panel) : Op → List Bool
  | .receive batch => if batch.isEmpty then [] else [false]
  | .setMaximum n => ifOk false (p.setMaximum n)
  | .clear | .resetSource | .select _ => [true]
  | .add _ => []
  | .remove index =>
    if index = p.rules.selected ∧ (p.remove index).2.toOption = some true then [true] else []
  | .edit index r =>
    if index = p.rules.selected ∧ (p.edit index r).2.toOption = some true then [true] else []
  | .selectApp app => ifOk true (p.selectApp app)
  | .setQuery query level => ifOk true (p.setQuery query level)

/-- The requests that some operations make. -/
def requestsIn (p : Panel) : List Op → List Bool
  | [] => []
  | op :: ops => p.requests op ++ (p.step op).requestsIn ops

/-- Without a request the refresher stays as it is. -/
theorem map_requests_nil (refresher : Option Refresher) :
    (refresher.map fun r => (r.requests []).1) = refresher := by
  cases refresher <;> rfl

/-- A saved change of the selected rule is followed by a request. -/
theorem refresher_refreshIf (p : Panel) (changed : Bool) (saved : Except RuleFile.SaveFault Unit) :
    (p.refreshIf changed saved).1.refresher = p.refresher.map fun r =>
      (r.requests (if changed ∧ (p.refreshIf changed saved).2.toOption = some true then [true]
        else [])).1 := by
  cases saved with
  | ok _ =>
    cases changed with
    | true => rfl
    | false => exact (map_requests_nil _).symm
  | error e =>
    rw [if_neg (by simp [refreshIf, Except.toOption]), map_requests_nil]
    rfl

/-- What a removal or a replacement requests. -/
theorem refresher_of_saved {p : Panel} {rules : RuleSet} {index : Int}
    {after : Panel × Except RuleFile.SaveFault Bool} (h : after = (p, .ok false) ∨
      after = (save { p with rules }).1.refreshIf (index = p.rules.selected)
        (save { p with rules }).2) :
    after.1.refresher = p.refresher.map fun r =>
      (r.requests (if index = p.rules.selected ∧ after.2.toOption = some true then [true] else [])).1 := by
  rcases h with rfl | rfl
  · rw [if_neg (by simp [Except.toOption]), map_requests_nil]
  · rw [refresher_refreshIf]
    simp only [decide_eq_true_eq]
    rfl

/-- After an operation the refresher has had its requests. -/
theorem refresher_step (p : Panel) (op : Op) :
    (p.step op).refresher = p.refresher.map fun r => (r.requests (p.requests op)).1 := by
  cases op with
  | receive batch =>
    cases batch with
    | nil => exact (map_requests_nil _).symm
    | cons m batch => rfl
  | clear => rfl
  | resetSource => rfl
  | select index => rfl
  | add r => exact (map_requests_nil _).symm
  -- The request of these comes after what may fail.
  | setMaximum n =>
    have hstep : p.step (.setMaximum n) = p.orKeep (p.setMaximum n) := rfl
    have hrequests : p.requests (.setMaximum n) = ifOk false (p.setMaximum n) := rfl
    rw [hstep, hrequests]
    unfold setMaximum
    cases p.store.resize n with
    | error e => exact (map_requests_nil _).symm
    | ok resized => rfl
  | remove index => exact refresher_of_saved (p.remove_eq index)
  | edit index r => exact refresher_of_saved (p.edit_eq index r)
  | selectApp app =>
    have hstep : p.step (.selectApp app) = p.orKeep ((p.selectApp app).map (·.1)) := rfl
    have hrequests : p.requests (.selectApp app) = ifOk true (p.selectApp app) := rfl
    rw [hstep, hrequests]
    cases hselect : p.selectApp app with
    | error e => exact (map_requests_nil _).symm
    | ok selected =>
      rcases selectApp_cases hselect with ⟨k, -, hq⟩ | ⟨r, -, -, hq⟩
      · obtain rfl : (p.select k) = selected := hq
        rfl
      · obtain rfl : select { p with rules := (p.rules.add r).1 } _ = selected := hq
        rfl
  | setQuery query level =>
    have hstep : p.step (.setQuery query level) = p.orKeep (p.setQuery query level) := rfl
    have hrequests : p.requests (.setQuery query level) = ifOk true (p.setQuery query level) := rfl
    rw [hstep, hrequests]
    unfold setQuery
    cases Query.rules query level with
    | error e => exact (map_requests_nil _).symm
    | ok live => rfl

/-- After some operations the refresher has had their requests. -/
theorem refresher_run (p : Panel) (ops : List Op) :
    (p.run ops).refresher = p.refresher.map fun r => (r.requests (p.requestsIn ops)).1 := by
  induction ops generalizing p with
  | nil => exact (map_requests_nil _).symm
  | cons op ops ih =>
    have hrun : p.run (op :: ops) = (p.step op).run ops := rfl
    rw [hrun, ih, refresher_step, Option.map_map]
    refine congrArg (fun f => p.refresher.map f) (funext fun r => ?_)
    exact (r.requests_append _ _).symm

/-! ## §3 What is visible -/

/-- An operation removes or replaces the selected rule, and the rules are not saved. -/
def Unsaved (p : Panel) : Op → Prop
  | .remove index => index = p.rules.selected ∧ ∃ e, (p.remove index).2 = .error e
  | .edit index r => index = p.rules.selected ∧ ∃ e, (p.edit index r).2 = .error e
  | _ => False

/-- One of some operations removes or replaces the selected rule, and the rules are not saved. -/
def UnsavedIn (p : Panel) (ops : List Op) : Prop :=
  ∃ before op after, ops = before ++ op :: after ∧ (p.run before).Unsaved op

theorem UnsavedIn.cons {p : Panel} {op : Op} {ops : List Op} (h : (p.step op).UnsavedIn ops) :
    p.UnsavedIn (op :: ops) := by
  obtain ⟨before, unsaved, after, rfl, hunsaved⟩ := h
  exact ⟨op :: before, unsaved, after, rfl, hunsaved⟩

/-- Saving changed rules asks for a refresh or leaves the view alone, unless the selected rule was
changed and the saving fails. -/
theorem sameView_of_saved {p : Panel} {rules : RuleSet} {index : Int}
    {after : Panel × Except RuleFile.SaveFault Bool} (h : after = (p, .ok false) ∨
      after = (save { p with rules }).1.refreshIf (index = p.rules.selected)
        (save { p with rules }).2)
    (hkeep : index ≠ p.rules.selected → rules.selectedRule = p.rules.selectedRule) :
    (index = p.rules.selected ∧ after.2.toOption = some true) ∨ after.1.SameView p ∨
      (index = p.rules.selected ∧ ∃ e, after.2 = .error e) := by
  rcases h with rfl | h
  · exact .inr (.inl (.refl p))
  by_cases hindex : index = p.rules.selected
  · rw [decide_eq_true hindex] at h
    cases hsaved : (save { p with rules }).2 with
    | ok _ =>
      left
      rw [h, hsaved]
      exact ⟨hindex, rfl⟩
    | error e =>
      -- The call ends here, after the rules were changed.
      right
      rw [h, hsaved]
      exact .inr ⟨hindex, e, rfl⟩
  · right
    have hafter : after.1 = (save { p with rules }).1 := by
      rw [h, decide_eq_false hindex]
      cases (save { p with rules }).2 <;> rfl
    rw [hafter]
    exact .inl ⟨rfl, rfl, hkeep hindex⟩

/-- An operation that makes no request leaves the view alone, unless it removes or replaces the
selected rule and fails to save the rules. Otherwise it makes a single one. -/
theorem requests_or_sameView (p : Panel) (op : Op) : (∃ scroll, p.requests op = [scroll]) ∨
    p.requests op = [] ∧ ((p.step op).SameView p ∨ p.Unsaved op) := by
  -- An operation that is refused changes nothing.
  have hrefused : ∀ {op : Op}, p.requests op = [] → p.step op = p →
      p.requests op = [] ∧ ((p.step op).SameView p ∨ p.Unsaved op) :=
    fun hnone hsame => ⟨hnone, .inl (by rw [hsame]; exact .refl p)⟩
  cases op with
  | receive batch =>
    cases batch with
    | nil => exact .inr (hrefused rfl rfl)
    | cons m batch => exact .inl ⟨false, rfl⟩
  | clear => exact .inl ⟨true, rfl⟩
  | resetSource => exact .inl ⟨true, rfl⟩
  | select index => exact .inl ⟨true, rfl⟩
  | setMaximum n =>
    cases hresult : p.setMaximum n with
    | ok q => exact .inl ⟨false, congrArg (ifOk false) hresult⟩
    | error e => exact .inr (hrefused (congrArg (ifOk false) hresult) (congrArg p.orKeep hresult))
  | setQuery query level =>
    cases hresult : p.setQuery query level with
    | ok q => exact .inl ⟨true, congrArg (ifOk true) hresult⟩
    | error e => exact .inr (hrefused (congrArg (ifOk true) hresult) (congrArg p.orKeep hresult))
  | selectApp app =>
    cases hresult : p.selectApp app with
    | ok selected => exact .inl ⟨true, congrArg (ifOk true) hresult⟩
    | error e =>
      have hsame : p.step (.selectApp app) = p := by
        show p.orKeep ((p.selectApp app).map (·.1)) = p
        rw [hresult]
        rfl
      exact .inr (hrefused (congrArg (ifOk true) hresult) hsame)
  | add r =>
    -- A new rule is not selected, so nothing else becomes visible.
    exact .inr ⟨rfl, .inl ⟨rfl, rfl, p.rules.selectedRule_add r⟩⟩
  | remove index =>
    dsimp only [requests]
    rcases sameView_of_saved (p.remove_eq index) RuleSet.selectedRule_remove with hasks | hquiet
    · exact .inl ⟨true, if_pos hasks⟩
    · split
      · exact .inl ⟨true, rfl⟩
      · exact .inr ⟨rfl, hquiet⟩
  | edit index r =>
    dsimp only [requests]
    rcases sameView_of_saved (p.edit_eq index r) (RuleSet.selectedRule_replace r) with hasks | hquiet
    · exact .inl ⟨true, if_pos hasks⟩
    · split
      · exact .inl ⟨true, rfl⟩
      · exact .inr ⟨rfl, hquiet⟩

/-- Some operations ask for a refresh or leave the visible messages alone, unless one of them
removes or replaces the selected rule and fails to save the rules. -/
theorem visible_run (p : Panel) (ops : List Op) :
    p.requestsIn ops ≠ [] ∨ (p.run ops).visible = p.visible ∨ p.UnsavedIn ops := by
  induction ops generalizing p with
  | nil => exact .inr (.inl rfl)
  | cons op ops ih =>
    have hrun : p.run (op :: ops) = (p.step op).run ops := rfl
    have hrequests : p.requestsIn (op :: ops) = p.requests op ++ (p.step op).requestsIn ops := rfl
    rw [hrun, hrequests]
    rcases p.requests_or_sameView op with ⟨scroll, hasks⟩ | ⟨hnone, hview⟩
    · left
      simp [hasks]
    rw [hnone, List.nil_append]
    rcases hview with hsame | hunsaved
    · rcases ih (p.step op) with hasks | hsame' | hunsaved
      · exact .inl hasks
      · exact .inr (.inl (hsame'.trans hsame.visible))
      · exact .inr (.inr hunsaved.cons)
    · exact .inr (.inr ⟨[], op, ops, rfl, hunsaved⟩)

/-! ## §4 Asking -/

/-- An operation asks for a refresh. -/
def Asks (p : Panel) (op : Op) : Prop :=
  ∃ scroll, (p.step op).refresher = p.refresher.map fun r => (r.request scroll).1

/-- An operation does not ask for a refresh. -/
def Silent (p : Panel) (op : Op) : Prop :=
  (p.step op).refresher = p.refresher

/-- An operation that does not ask for a refresh leaves the view alone, unless it removes or
replaces the selected rule and fails to save the rules. -/
theorem asks_or_quiet (p : Panel) (op : Op) :
    p.Asks op ∨ (p.Silent op ∧ ((p.step op).SameView p ∨ p.Unsaved op)) := by
  have hstep := p.refresher_step op
  rcases p.requests_or_sameView op with ⟨scroll, hasks⟩ | ⟨hnone, hview⟩
  · left
    rw [hasks] at hstep
    exact ⟨scroll, hstep⟩
  · right
    rw [hnone, map_requests_nil] at hstep
    exact ⟨hstep, hview⟩

end Panel

end LogViewer
