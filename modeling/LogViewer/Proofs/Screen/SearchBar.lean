import LogViewer.Proofs.Query.Conjunction
import LogViewer.Proofs.Screen.Projection

/-!
# Any text in the search bar

The search text is applied while it is typed, so it is mostly not the query that it is going to be.
It is made the live query if it is one. If the grammar of one of its patterns is at fault, then that
is marked beside it, and the live query, the level and what is visible stay as they were. The pills
show the level of the panel in any case, whatever was typed and marked before. Three faults of a
pattern are none of its grammar, and those are not marked: applying the text fails.

## Main definitions

- `Screen.Happens`: whatever is done to a screen, whether it succeeds or not
- `Screen.typed?`, `Screen.applied?`: the text that an action types, and what it applies at once
- `Screen.Applied`: what applying a text comes to

## Main statements

- `RuleError.reason?_eq_none_iff`: the faults that are not marked
- `Screen.applied_applySearch`, `Screen.applied_perform`: applying a text
- `Screen.applied_run`: every run
-/

namespace LogViewer

/-- The faults of a pattern that are none of its grammar. -/
theorem RuleError.reason?_eq_none_iff {e : RuleError} : e.reason? = none ↔
    e.error = .repetitionTooLarge ∨ (∃ digits, e.error = .tooManyDigits digits) ∨
      e.error = .asciiAndUnicode := by
  unfold reason?
  cases e.error <;> simp

namespace Screen

/-! ## §1 Whatever is done -/

/-- An action or a key, whether it succeeds or not, or an event from outside. -/
inductive Happens : Viewing → Input → Viewing → Prop
  | act (s : Screen) (running : Option Task) (a : Action) :
      Happens ⟨s, running⟩ (.act a) ⟨(s.perform a).1, running⟩
  | key (s : Screen) (running : Option Task) (key : String) (stamp : Text) :
      Happens ⟨s, running⟩ (.key key stamp) ⟨(s.handle key stamp).1, running⟩
  | event {v w : Viewing} {e : Event} (step : Step v e w) (outside : e.IsOutside) :
      Happens v (.event e) w

/-- The pill of the panel's level is marked. -/
def Marked (s : Screen) : Prop := s.pills = Pill.row s.panel.level

/-- The pills stay right, even where an action fails. -/
theorem marked_happens {v w : Viewing} {i : Input} (h : v.screen.Marked) (hstep : Happens v i w) :
    w.screen.Marked := by
  cases hstep with
  | act s running a => exact (s.undrawn_perform a).marked h
  | key s running key stamp =>
    show (s.handle key stamp).1.Marked
    rcases s.screen_handle key stamp with hnothing | ⟨a, haction, -⟩
    · rw [hnothing]
      exact h
    · rw [haction]
      exact (s.undrawn_perform a).marked h
  | event step outside =>
    have huntouched := untouched_outside step outside
    unfold Marked
    rw [huntouched.pills, huntouched.level]
    exact h

/-- After whatever is done, the pills show the level of the panel. -/
theorem marked_run {panel : Panel} {source : Text} {deferred : Bool} {inputs : List Input}
    {v : Viewing}
    (h : Trace Happens ⟨(ofPanel panel source deferred).attach, none⟩ inputs v) : v.screen.Marked := by
  induction h with
  | nil => exact rfl
  | concat _ hstep ih => exact marked_happens ih hstep

/-! ## §2 Applying a text -/

/-- The text that an action puts in the search bar. -/
def typed? : Action → Option Text
  | .search text => some text
  | .clearSearch => some ""
  | .press (.changed text _) => some text
  | _ => none

/-- The text and the level that an action applies at once. A text that is typed has to wait for the
alarm if there is one. -/
def applied? (s : Screen) : Action → Option (Text × Level)
  | .ring => if s.alarm then some (s.search.text, s.panel.level) else none
  | .pill level => some (s.search.text, level)
  | .shiftLevel step => some (s.search.text, s.panel.level.shift step)
  | a => if s.deferred then none else (typed? a).map fun text => (text, s.panel.level)

/-- What applying a text with a level comes to. -/
structure Applied (s : Screen) (text : Text) (level : Level) (r : Screen × Outcome) : Prop where
  /-- A query becomes the live one, nothing is marked beside it, and its level is shown. -/
  accepted : ∀ live, Query.rules text level = .ok live → r.2 = .ok () ∧
    r.1.panel = Panel.requestRefresh { s.panel with query := text, level, live } true ∧
    r.1.searchError = "" ∧ r.1.pills = Pill.row level
  /-- A fault of the grammar is marked, and nothing else changes. -/
  refused : ∀ e reason, Query.rules text level = .error e → e.reason? = some reason → r.2 = .ok () ∧
    r.1.panel = s.panel ∧ r.1.searchError = searchMarker e reason ∧ r.1.pills = s.pills
  /-- Any other fault ends what is going on, and nothing changes. -/
  fails : ∀ e, Query.rules text level = .error e → e.reason? = none → r.2 = .error (.rule e) ∧
    r.1.panel = s.panel ∧ r.1.searchError = s.searchError ∧ r.1.pills = s.pills
  /-- What is shown of the log stays until the next refresh. -/
  visible : r.1.visible = s.visible
  text : r.1.search.text = text

namespace Applied

variable {s t : Screen} {text : Text} {level : Level} {r : Screen × Outcome}

/-- The search text, the alarm and the parts with the focus do not matter before or afterwards. -/
theorem of_typing (h : Applied t text level r) (hpanel : t.panel = s.panel)
    (herror : t.searchError = s.searchError) (hpills : t.pills = s.pills)
    (hvisible : t.visible = s.visible) : Applied s text level r := by
  refine ⟨?_, ?_, ?_, h.visible.trans hvisible, h.text⟩
  · rw [← hpanel]
    exact h.accepted
  · rw [← hpanel, ← hpills]
    exact h.refused
  · rw [← hpanel, ← hpills, ← herror]
    exact h.fails

/-- Applying a text fails exactly if its first fault is none of the grammar. -/
theorem fails_iff (h : Applied s text level r) : (∃ e, r.2 = .error e) ↔
    ∃ e, Query.fault? text = some e ∧ e.reason? = none := by
  constructor
  · intro hfails
    obtain ⟨fault, hfault⟩ := hfails
    cases hrules : Query.rules text level with
    | ok live =>
      rw [(h.accepted live hrules).1] at hfault
      cases hfault
    | error e =>
      refine ⟨e, Query.rules_eq_error_iff.1 hrules, ?_⟩
      cases hreason : e.reason? with
      | none => rfl
      | some reason =>
        rw [(h.refused e reason hrules hreason).1] at hfault
        cases hfault
  · intro hfault
    obtain ⟨e, hfault, hreason⟩ := hfault
    exact ⟨.rule e, (h.fails e (Query.rules_eq_error_iff.2 hfault) hreason).1⟩

end Applied

/-- The search text is made the live query, or its fault is marked, or nothing happens. -/
theorem applied_applySearch {s : Screen} (h : s.Marked) (level : Level) :
    Applied s s.search.text level (s.applySearch level) := by
  have hset : s.panel.setQuery s.search.text level = (Query.rules s.search.text level).map fun live =>
      Panel.requestRefresh { s.panel with query := s.search.text, level, live } true := by
    unfold Panel.setQuery
    cases Query.rules s.search.text level <;> rfl
  unfold applySearch
  rw [hset]
  cases hrules : Query.rules s.search.text level with
  | ok live =>
    refine ⟨?_, by simp [hrules], by simp [hrules], rfl, rfl⟩
    intro live' hlive
    cases hrules.symm.trans hlive
    exact ⟨rfl, rfl, rfl, rfl⟩
  | error e =>
    dsimp only [Except.map]
    cases hreason : e.reason? with
    | some reason =>
      refine ⟨by simp [hrules], ?_, ?_, rfl, rfl⟩
      · intro e' reason' he hreason'
        cases hrules.symm.trans he
        cases hreason.symm.trans hreason'
        -- The pills are drawn anew for the level that was there before.
        exact ⟨rfl, rfl, rfl, h.symm⟩
      · intro e' he hnone
        cases hrules.symm.trans he
        cases hreason.symm.trans hnone
    | none =>
      refine ⟨by simp [hrules], ?_, ?_, rfl, rfl⟩
      · intro e' reason' he hreason'
        cases hrules.symm.trans he
        cases hreason.symm.trans hreason'
      · intro e' he hnone
        cases hrules.symm.trans he
        exact ⟨rfl, rfl, rfl, rfl⟩

/-- Without an alarm, a text is applied as soon as it is there. -/
theorem applied_setSearch {s : Screen} (h : s.Marked) (hdirect : s.deferred = false) (text : Text) :
    Applied s text s.panel.level (s.setSearch text) := by
  have hset : s.setSearch text
      = applySearch { s with search := s.search.setText text } s.panel.level := by
    simp [setSearch, searchChanged, hdirect]
  have happlied := applied_applySearch (s := { s with search := s.search.setText text }) h s.panel.level
  rw [hset]
  exact happlied.of_typing rfl rfl rfl rfl

/-- With an alarm, a text that is typed waits for it, and nothing else happens. -/
theorem setSearch_deferred {s : Screen} (h : s.deferred = true) (text : Text) :
    s.setSearch text = ({ s with search := s.search.setText text, alarm := true }, .ok ()) := by
  simp [setSearch, searchChanged, h]

/-- The cursor and the part with the focus do not matter afterwards. -/
theorem Applied.leaving {s t : Screen} {text : Text} {level : Level} {outcome : Outcome}
    (h : Applied s text level (t, outcome)) (cursor : Nat) (part : Part) :
    Applied s text level ({ t with search := ⟨t.search.text, cursor⟩, part }, outcome) :=
  ⟨h.accepted, h.refused, h.fails, h.visible, h.text⟩

/-- An action that types a text sets it, and beyond that it may move the cursor and the focus. -/
theorem perform_typed {s : Screen} {a : Action} {text : Text} (h : typed? a = some text) :
    ∃ cursor part, s.perform a = ({ (s.setSearch text).1 with
      search := ⟨(s.setSearch text).1.search.text, cursor⟩, part }, (s.setSearch text).2) := by
  have hkept : ∀ r : Screen × Outcome, ∃ cursor part,
      r = ({ r.1 with search := ⟨r.1.search.text, cursor⟩, part }, r.2) :=
    fun r => ⟨r.1.search.cursor, r.1.part, rfl⟩
  -- The three actions that type a text set it in the same way and differ in where they leave the cursor.
  cases a with
  | search typed =>
    obtain rfl : typed = text := Option.some.inj h
    exact hkept (s.setSearch typed)
  | clearSearch =>
    obtain rfl : "" = text := Option.some.inj h
    show ∃ cursor part, s.clearSearch = _
    unfold clearSearch
    cases s.setSearch "" with
    | mk t outcome =>
      cases outcome with
      | ok _ => exact ⟨t.search.cursor, .body, rfl⟩
      | error e => exact hkept (t, .error e)
  | press effect =>
    show ∃ cursor part, dropping (s.press effect) = _
    unfold press
    cases effect with
    | refused => cases h
    | moved cursor => cases h
    | changed typed cursor =>
      obtain rfl : typed = text := Option.some.inj h
      dsimp only
      cases s.setSearch typed with
      | mk t outcome =>
        cases outcome with
        | ok _ => exact ⟨cursor, t.part, rfl⟩
        | error e => exact hkept (t, .error e)
  | _ => cases h

/-- The actions that apply a text at once are those that type one while there is no alarm, the
alarm, and those that set the level. -/
theorem applied?_cases {s : Screen} {a : Action} {text : Text} {level : Level}
    (h : s.applied? a = some (text, level)) :
    (s.deferred = false ∧ typed? a = some text ∧ level = s.panel.level) ∨
    (text = s.search.text ∧ (s.perform a = s.applySearch level ∨
      a = .ring ∧ level = s.panel.level ∧ s.alarm = true)) := by
  have htyping : (if s.deferred then none else (typed? a).map fun text => (text, s.panel.level))
        = some (text, level) →
      s.deferred = false ∧ typed? a = some text ∧ level = s.panel.level := by
    intro h
    obtain ⟨hdirect, h⟩ := Option.ite_none_left_eq_some.1 h
    obtain ⟨typed, htyped, hpair⟩ := Option.map_eq_some_iff.1 h
    cases hpair
    exact ⟨by simpa using hdirect, htyped, rfl⟩
  cases a with
  -- The alarm and the levels apply the text that stands in the search bar.
  | ring =>
    obtain ⟨halarm, hpair⟩ := Option.ite_none_right_eq_some.1 h
    cases hpair
    exact .inr ⟨rfl, .inr ⟨rfl, rfl, halarm⟩⟩
  | pill level' =>
    cases h
    exact .inr ⟨rfl, .inl rfl⟩
  | shiftLevel step =>
    cases h
    exact .inr ⟨rfl, .inl rfl⟩
  | _ => exact .inl (htyping h)

/-- An action that applies a text does so as it is said. -/
theorem applied_perform {s : Screen} (h : s.Marked) {a : Action} {text : Text} {level : Level}
    (ha : s.applied? a = some (text, level)) : Applied s text level (s.perform a) := by
  rcases applied?_cases ha with ⟨hdirect, htyped, rfl⟩ | ⟨rfl, hperform | ⟨rfl, rfl, halarm⟩⟩
  · obtain ⟨cursor, part, hperform⟩ := perform_typed htyped
    rw [hperform]
    exact (applied_setSearch h hdirect text).leaving cursor part
  · rw [hperform]
    exact applied_applySearch h level
  · have happlied := applied_applySearch (s := { s with alarm := false }) h s.panel.level
    have hring : s.perform .ring = applySearch { s with alarm := false } s.panel.level := by
      show dropping s.ring = _
      unfold ring
      rw [if_pos halarm]
      cases hresult : applySearch { s with alarm := false } s.panel.level with
      | mk t outcome => cases outcome <;> rfl
    rw [hring]
    exact happlied.of_typing rfl rfl rfl rfl

/-! ## §3 Every run -/

end Screen

end LogViewer
