import LogViewer.Proofs.Panel.Export
import LogViewer.Proofs.Panel.Saved
import LogViewer.Proofs.Panel.Stored
import LogViewer.Proofs.Processes.Names
import LogViewer.Proofs.Query.Valid
import LogViewer.Proofs.Screen.Actions

/-!
# Which keys fail

What a key needs may be gone when it is pressed: the list of rows can shrink or become empty, a row
of the pane can stand for a rule that is no longer there, and the session rule makes a pattern of a
name that was learnt from the log. Whatever comes in between, only one key can fail as long as the
rules are kept in memory and the search text is a valid query: that for saving the log, if a message
that is shown has no bytes.

## Main definitions

- `Screen.Harmless`, `Screen.Typing`: inputs other than the dialog, with a valid search text
- `Screen.Unsavable`: saving the log breaks off
- `Screen.Steady`: what keys rely on
- `Screen.setPosition`: focusing a row that must exist

## Main statements

- `Screen.Steady.typing`: an input keeps what keys rely on
- `Screen.Steady.saveLog_cases`: when saving the log fails
- `Screen.Steady.perform_ok`: no other action fails
- `Screen.keys_succeed`: every run
-/

namespace LogViewer

/-! ## §1 What operations leave in a panel -/

namespace Panel

/-- The rules are kept in memory. -/
def InMemory (p : Panel) : Prop := ∃ text, p.storage = .memory text

theorem InMemory.step {p : Panel} (h : p.InMemory) (op : Op) : (p.step op).InMemory := by
  obtain ⟨text, htext⟩ := h
  rcases step_saves_or_keeps htext op with ⟨_, hsaved⟩ | ⟨_, hkept, _⟩
  · exact ⟨_, hsaved⟩
  · exact ⟨text, hkept.trans htext⟩

theorem InMemory.run {p : Panel} (h : p.InMemory) (ops : List Op) : (p.run ops).InMemory := by
  induction ops using List.reverseRecOn with
  | nil => exact h
  | append_singleton ops op ih =>
    rw [run_concat]
    exact ih.step op

/-- An action of the user keeps the rules in memory. -/
theorem Acted.inMemory {p q : Panel} (h : Acted p q) (hp : p.InMemory) : q.InMemory := by
  cases h with
  | quiet disk => exact hp
  | asked ops _ _ => exact hp.run ops

/-- An action of the user brings no messages. -/
theorem Acted.mem_messages {p q : Panel} (h : Acted p q) :
    ∀ m ∈ q.store.messages, m ∈ p.store.messages := by
  cases h with
  | quiet disk => exact fun m hm => hm
  | asked ops silent _ => exact mem_messages_run p silent

end Panel

namespace Screen

/-! ## §2 Inputs -/

/-- Every message of a batch is one that is read from some lines, beginning with no names. -/
def FromLines (batch : List Message) : Prop :=
  ∀ m ∈ batch, ∃ lines ms names, readLines .empty lines = .ok (ms, names) ∧ m ∈ ms

theorem FromLines.hasName {batch : List Message} (h : FromLines batch) :
    ∀ m ∈ batch, m.HasName := by
  intro m hm
  obtain ⟨lines, ms, names, hlines, hmem⟩ := h m hm
  exact hasName_of_readLines hlines m hmem

theorem FromLines.onOneLine {batch : List Message} (h : FromLines batch) :
    ∀ m ∈ batch, m.OnOneLine := by
  intro m hm
  obtain ⟨lines, ms, names, hlines, hmem⟩ := h m hm
  exact (Message.isRead_of_readLines hlines m hmem).onOneLine

/-- An input other than the saving of a dialog, where messages are read from lines. -/
def Harmless : Input → Prop
  | .act a => a ≠ .saveDialog
  | .key _ _ => True
  | .event (.op (.receive batch)) => FromLines batch
  | .event e => e.IsOutside

/-- A harmless input that succeeds and leaves a valid query in the search bar. -/
def Typing (v : Viewing) (i : Input) (w : Viewing) : Prop :=
  Input.Step v i w ∧ Harmless i ∧ Query.Valid w.screen.search.text

/-- No key saves the dialog. -/
theorem harmless_of_key {s : Screen} {a : Action} {stamp : Text}
    (h : a = .closeDialog ∨ s.dialog = none ∧ a ∈ keyActions stamp) : Harmless (.act a) := by
  rintro rfl
  rcases h with hclose | ⟨_, hmem⟩
  · cases hclose
  · simp [keyActions] at hmem

/-- Saving the log breaks off: no file can have the path, or the file can be written and a message
that is shown holds a surrogate. -/
def Unsavable (s : Screen) (stamp : Text) : Prop :=
  ∃ folder, s.panel.disk.workingPath = .ok folder ∧
    let path := folder.child (logFileName stamp)
    path.fault? ≠ none ∨ s.panel.disk.Writable path ∧ ∃ m ∈ s.visible, ¬ m.render.Encodable

/-! ## §3 What keys rely on -/

/-- All messages that can be focused come from lines, the rows are those that are shown, the focus
is on one of them, and the focus of the pane is on one of its rows. -/
structure Steady (v : Viewing) : Prop where
  memory : v.panel.InMemory
  query : Query.Valid v.screen.search.text
  stored : FromLines v.panel.store.messages
  shown : FromLines v.screen.visible
  read : ∀ follow messages, v.running = some (.reading follow messages) → FromLines messages
  rows : v.screen.rows.messages = v.screen.visible
  focus : v.screen.rows.HasFocus
  pane : v.screen.paneFocus < v.screen.pane.length

/-- A pane has a row for the default rule at least, so that its focus can be kept on a row. -/
theorem min_lt_length_pane (focus : Nat) (rules : RuleSet) :
    min focus ((LogViewer.pane rules).length - 1) < (LogViewer.pane rules).length := by
  have hlength : (LogViewer.pane rules).length = rules.rules.length := List.length_mapIdx
  have hselected := rules.selected_lt
  omega

/-- After a reset the focus is on a row, if there is one. -/
theorem hasFocus_reset (r : Rows) (messages : List Message) : (r.reset messages).HasFocus := by
  cases messages with
  | nil => exact .inl rfl
  | cons m messages =>
    right
    show min r.focus ((m :: messages).length - 1) < (m :: messages).length
    simp

namespace Steady

variable {v w : Viewing} {s : Screen} {running : Option Task}

/-- What is visible is stored. -/
theorem visible (h : Steady v) : FromLines v.panel.visible := by
  intro m hm
  exact h.stored m (List.mem_of_mem_filter hm)

theorem act (h : Steady ⟨s, running⟩) {a : Action} (ha : Harmless (.act a))
    (hdone : (s.perform a).2 = .ok ()) (hquery : Query.Valid (s.perform a).1.search.text) :
    Steady ⟨(s.perform a).1, running⟩ := by
  have hscreen := s.undrawn_perform a
  have hpanel := panel_perform (fun hsave => absurd hsave ha) hdone
  -- Rows and pane are not drawn, and the panel gets no messages.
  constructor
  · exact hpanel.inMemory h.memory
  · exact hquery
  · exact fun m hm => h.stored m (hpanel.mem_messages m hm)
  · show FromLines (s.perform a).1.visible
    rw [hscreen.visible]
    exact h.shown
  · exact h.read
  · show (s.perform a).1.rows.messages = (s.perform a).1.visible
    rw [hscreen.messages, hscreen.visible]
    exact h.rows
  · exact hscreen.focus h.focus
  · show (s.perform a).1.paneFocus < (s.perform a).1.pane.length
    rw [hscreen.pane]
    exact hscreen.paneFocus h.pane

theorem handle (h : Steady ⟨s, running⟩) {key : String} {stamp : Text} {effect : KeyEffect}
    (hdone : (s.handle key stamp).2 = .ok effect)
    (hquery : Query.Valid (s.handle key stamp).1.search.text) :
    Steady ⟨(s.handle key stamp).1, running⟩ := by
  rcases s.screen_handle key stamp with hnothing | ⟨a, haction, hperform, ha⟩
  · rw [hnothing]
    exact h
  · rw [haction] at hquery ⊢
    exact h.act (harmless_of_key ha) (hperform effect hdone) hquery

/-- Messages, capacities and sources that come from outside keep what keys rely on. -/
theorem operate (h : Steady ⟨s, running⟩) {op : Panel.Op} (hop : Harmless (.event (.op op))) :
    Steady ⟨s.operate op, running⟩ := by
  refine ⟨h.memory.step op, h.query, ?_, h.shown, h.read, h.rows, h.focus, h.pane⟩
  intro m hm
  rcases s.panel.mem_messages_step op m hm with hold | ⟨batch, rfl, hbatch⟩
  · exact h.stored m hold
  · exact hop m hbatch

theorem event (h : Steady v) {e : Event} (hstep : Screen.Step v e w) (he : Harmless (.event e)) :
    Steady w := by
  cases hstep with
  | op s running op => exact h.operate he
  | start s r attached waiting =>
    refine ⟨h.memory, h.query, h.stored, h.shown, ?_, h.rows, h.focus, h.pane⟩
    rintro follow messages ⟨⟩
  | read s forced =>
    refine ⟨h.memory, h.query, h.stored, h.shown, ?_, h.rows, h.focus, h.pane⟩
    rintro follow messages ⟨⟩
    exact h.visible
  | draw s follow messages =>
    -- The rows are now those that the refresh has read, and the pane is built anew.
    refine ⟨h.memory, h.query, h.stored, h.read follow messages rfl, ?_, rfl, ?_, ?_⟩
    · rintro follow messages ⟨⟩
    · exact hasFocus_reset s.rows messages
    · exact min_lt_length_pane s.paneFocus s.panel.rules
  | scroll s follow =>
    -- Only the focus moves, and it stays on a row.
    have hfocus : (if follow then s.scrollToLatest else s).rows.HasFocus := by
      cases follow with
      | true => exact s.undrawn_scrollToLatest.focus h.focus
      | false => exact h.focus
    obtain ⟨focus, hscroll⟩ := s.scroll_eq follow
    rw [hscroll] at hfocus ⊢
    refine ⟨h.memory, h.query, h.stored, h.shown, ?_, h.rows, hfocus, h.pane⟩
    rintro follow messages ⟨⟩

/-- A harmless input keeps what keys rely on. -/
theorem typing (h : Steady v) {i : Input} (htyping : Typing v i w) : Steady w := by
  obtain ⟨hstep, hharmless, hquery⟩ := htyping
  cases hstep with
  | act s running a succeeds => exact h.act hharmless succeeds hquery
  | key s running key stamp effect succeeds => exact h.handle succeeds hquery
  | event step => exact h.event step hharmless

/-- The screen of a panel that has just been started with its rules in memory. -/
theorem ofStart {maximum : Int} {text : Text} {disk : Disk} {p : Panel}
    (h : (Panel.start maximum (.memory text) disk).result = .ok p) (source : Text)
    (deferred : Bool) : Steady ⟨(ofPanel p source deferred).attach, none⟩ := by
  obtain ⟨store, text', rules, warnings, hstore, _, _, rfl⟩ := Panel.eq_of_start h
  obtain ⟨capacity, _, rfl⟩ := map_eq_ok_iff.1 hstore
  refine ⟨⟨text, rfl⟩, Query.valid_empty, ?_, ?_, ?_, rfl, .inl rfl,
    min_lt_length_pane _ _⟩
  · rintro m ⟨⟩
  · rintro m ⟨⟩
  · rintro follow messages ⟨⟩

end Steady

/-! ## §4 No action fails -/

theorem search_applySearch (s : Screen) (level : Level) :
    (s.applySearch level).1.search = s.search := by
  unfold applySearch
  split
  · rfl
  · split <;> rfl

/-- A valid query can be applied. -/
theorem applySearch_ok {s : Screen} (h : Query.Valid s.search.text) (level : Level) :
    (s.applySearch level).2 = .ok () := by
  obtain ⟨live, hlive⟩ := h.exists_rules level
  have hset : ∃ panel, s.panel.setQuery s.search.text level = .ok panel := by
    unfold Panel.setQuery
    rw [hlive]
    exact ⟨_, rfl⟩
  obtain ⟨panel, hset⟩ := hset
  unfold applySearch
  rw [hset]

theorem search_setSearch (s : Screen) (text : Text) :
    (s.setSearch text).1.search = s.search.setText text := by
  unfold setSearch searchChanged
  dsimp only
  split
  · rfl
  · exact search_applySearch _ _

theorem setSearch_ok (s : Screen) {text : Text} (h : Query.Valid text) :
    (s.setSearch text).2 = .ok () := by
  unfold setSearch searchChanged
  dsimp only
  split
  · rfl
  · apply applySearch_ok
    exact h

/-- A key that leaves a valid query in the search bar does not fail. -/
theorem press_ok {s : Screen} {effect : LineEdit.Effect}
    (h : Query.Valid (s.press effect).1.search.text) : (dropping (s.press effect)).2 = .ok () := by
  unfold press at h ⊢
  cases effect with
  | refused => rfl
  | moved cursor => rfl
  | changed text cursor =>
    have hsearch := s.search_setSearch text
    dsimp only at h ⊢
    cases hset : s.setSearch text with
    | mk t outcome =>
      rw [hset] at h hsearch
      cases outcome with
      | ok _ => rfl
      | error e =>
        -- The text is in the search bar although it was refused, so it is valid.
        have hvalid : Query.Valid t.search.text := h
        have hsearch : t.search = s.search.setText text := hsearch
        rw [hsearch] at hvalid
        have hdone := s.setSearch_ok hvalid
        have htext : (s.search.setText text).text = text := rfl
        rw [htext, hset] at hdone
        cases hdone

theorem ring_ok {s : Screen} (h : Query.Valid s.search.text) : (dropping s.ring).2 = .ok () := by
  rw [dropping_eq_ok_iff]
  unfold ring
  split
  · have hdone := applySearch_ok (s := { s with alarm := false }) h s.panel.level
    dsimp only
    rw [hdone]
    exact ⟨_, rfl⟩
  · exact ⟨0, rfl⟩

theorem clearSearch_ok (s : Screen) : s.clearSearch.2 = .ok () := by
  have hdone := s.setSearch_ok Query.valid_empty
  unfold clearSearch
  cases hset : s.setSearch "" with
  | mk t outcome =>
    rw [hset] at hdone
    cases outcome with
    | ok _ => rfl
    | error e => cases hdone

/-- A row of the pane that is drawn selects its position. -/
theorem click_eq {s : Screen} {i : Nat} (h : i < s.pane.length) :
    s.click i = (s.select i, .ok ()) := by
  have hitem : itemAt? (List.range s.pane.length) (i : Int) = some i := by
    unfold itemAt?
    rw [if_pos (Int.natCast_nonneg i), Int.toNat_natCast, List.getElem?_range h]
  unfold click
  rw [hitem]

/-- With the rules in memory, the selected rule can be removed, or the removal is refused. -/
theorem delete_ok {s : Screen} (h : s.panel.InMemory) : s.delete.2 = .ok () := by
  obtain ⟨text, htext⟩ := h
  have hremove : ∃ done, (s.panel.remove s.panel.rules.selected).2 = .ok done := by
    rcases s.panel.remove_eq s.panel.rules.selected with hrefused | hsaved
    · exact ⟨false, congrArg Prod.snd hrefused⟩
    · -- Saving in memory cannot fail.
      have hmemory : Panel.storage { s.panel with
          rules := (s.panel.rules.remove s.panel.rules.selected).1 } = .memory text := htext
      rw [hsaved, Panel.save_memory hmemory, decide_eq_true rfl]
      exact ⟨true, rfl⟩
  obtain ⟨done, hdone⟩ := hremove
  unfold delete
  cases hresult : s.panel.remove s.panel.rules.selected with
  | mk panel outcome =>
    rw [hresult] at hdone
    cases hdone
    cases done <;> rfl

namespace Steady

variable {v : Viewing} {s : Screen} {running : Option Task}

/-- The application of the focused message has a name. -/
theorem isName_appOfFocus (h : Steady v) {app : Text} (happ : v.screen.appOfFocus? = some app) :
    ProcessEvent.IsName app.toList := by
  unfold appOfFocus? at happ
  obtain ⟨pos, _, happ⟩ := Option.bind_eq_some_iff.1 happ
  obtain ⟨m, hm, happ⟩ := Option.bind_eq_some_iff.1 happ
  -- The focus is a position of the rows, and these are the messages that are shown.
  have hshown : m ∈ v.screen.visible := by
    rw [← h.rows]
    unfold Rows.messageAt? at hm
    split at hm
    · exact List.mem_of_getElem? hm
    · cases hm
  split at happ
  · cases happ
  · next hknown =>
    cases happ
    rcases FromLines.hasName h.shown m hshown with hunknown | hname
    · exact absurd hunknown hknown
    · exact hname

theorem selectAppOfFocus_ok (h : Steady ⟨s, running⟩) : s.selectAppOfFocus.2 = .ok () := by
  unfold selectAppOfFocus
  cases happ : s.appOfFocus? with
  | none => rfl
  | some app =>
    obtain ⟨q, i, hselect⟩ := s.panel.exists_selectApp (h.isName_appOfFocus happ)
    simp only [hselect]

/-- Saving the log fails exactly if the file has a path that no file can have, or can be written
while a message that is shown has no bytes. -/
theorem saveLog_cases (h : Steady ⟨s, running⟩) (stamp : Text) :
    s.Unsavable stamp ∧ (∃ e, (s.saveLog stamp).2 = .error (.export e)) ∨
    ¬ s.Unsavable stamp ∧ (s.saveLog stamp).2 = .ok () := by
  unfold Unsavable saveLog
  dsimp only
  cases hfolder : s.panel.disk.workingPath with
  | error fault => exact .inr ⟨by simp, rfl⟩
  | ok folder =>
    simp only [Except.ok.injEq, exists_eq_left']
    generalize folder.child (logFileName stamp) = path
    have hlines := FromLines.onOneLine h.shown
    cases hpath : path.fault? with
    | some fault =>
      have hexport : s.panel.exportMessages s.visible path = (s.panel, .error (.path fault)) := by
        simp only [Panel.exportMessages, hpath]
      rw [hexport]
      exact .inl ⟨.inl (by simp), _, rfl⟩
    | none =>
      -- Where a file can be written, it is the messages that decide.
      by_cases hwritable : s.panel.disk.Writable path
      · obtain ⟨disk, hexport, -⟩ := Panel.exportMessages_of_writable hwritable s.visible
        rw [hexport]
        have hall := Panel.exportLines_ok_iff hlines
        cases hdone : (Panel.exportLines s.visible).2 with
        | ok _ =>
          rw [hdone] at hall
          exact .inr ⟨by simpa [hwritable] using hall.1 rfl, rfl⟩
        | error e =>
          rw [hdone] at hall
          exact .inl ⟨.inr ⟨hwritable, by simpa using hall⟩, _, rfl⟩
      · -- The system refuses, which is said in the footer.
        have hrefused : ∃ e, s.panel.exportMessages s.visible path
            = (s.panel, .error (.refused e)) := by
          simp only [Panel.exportMessages, hpath]
          cases hwrite : s.panel.disk.write path (Panel.exportLines s.visible).1 with
          | error fault => exact ⟨_, rfl⟩
          | ok disk => exact absurd ((Disk.writable_iff hpath _).2 ⟨disk, hwrite⟩) hwritable
        obtain ⟨e, hrefused⟩ := hrefused
        rw [hrefused]
        exact .inr ⟨by simp [hwritable], rfl⟩

/-- No action fails, apart from the saving of a dialog or of a log, if it leaves a valid query in
the search bar and a row that is pressed is drawn. -/
theorem perform_ok (h : Steady ⟨s, running⟩) {a : Action} (ha : Harmless (.act a))
    (hquery : Query.Valid (s.perform a).1.search.text)
    (hrow : ∀ index, a = .click index → ∃ i : Nat, index = i ∧ i < s.pane.length)
    (hsave : ∀ stamp, a = .saveLog stamp → ¬ s.Unsavable stamp) :
    (s.perform a).2 = .ok () := by
  cases a with
  | search text =>
    have hvalid : Query.Valid (s.setSearch text).1.search.text := hquery
    rw [search_setSearch] at hvalid
    exact s.setSearch_ok hvalid
  | press effect => exact press_ok hquery
  | ring => exact ring_ok h.query
  | pill level => exact applySearch_ok h.query level
  | shiftLevel step => exact applySearch_ok h.query _
  | clearSearch => exact s.clearSearch_ok
  | click index =>
    obtain ⟨i, rfl, hi⟩ := hrow index rfl
    show (s.click i).2 = .ok ()
    rw [click_eq hi]
  | delete => exact delete_ok h.memory
  | selectAppOfFocus => exact h.selectAppOfFocus_ok
  | saveDialog => exact absurd rfl ha
  -- Nothing can go wrong with the other actions.
  | focusSearch => rfl
  | focusPane => rfl
  | focusPaneRow pos => rfl
  | focusLog => rfl
  | select index => rfl
  | openNew => rfl
  | openEdit => rfl
  | fill fields => rfl
  | closeDialog => rfl
  | clearLog => rfl
  | saveLog stamp =>
    rcases h.saveLog_cases stamp with ⟨hunsavable, -⟩ | ⟨-, hdone⟩
    · exact absurd hunsavable (hsave stamp rfl)
    · exact hdone
  | goTop => rfl
  | scrollToLatest => rfl
  | focusRow pos => rfl
  | setStatus status => rfl

/-- No action of a key fails but the saving of the log. -/
theorem keyAction_ok (h : Steady ⟨s, running⟩) {stamp : Text} {a : Action}
    (ha : a ∈ keyActions stamp) (hother : a ≠ .saveLog stamp) : (s.perform a).2 = .ok () := by
  -- Those that may fail need a query, the selected rule or a session rule.
  have hkeys : ∀ a ∈ keyActions stamp, a ≠ .saveLog stamp → (s.perform a).2 = .ok () := by
    simp only [keyActions, List.forall_mem_cons]
    refine ⟨fun _ => rfl, fun _ => rfl, fun _ => s.clearSearch_ok,
      fun _ => applySearch_ok h.query _, fun _ => applySearch_ok h.query _, fun _ => rfl,
      fun _ => rfl, fun _ => rfl, fun _ => delete_ok h.memory, fun _ => h.selectAppOfFocus_ok,
      fun _ => rfl, fun hother => absurd rfl hother, fun _ => rfl, fun _ => rfl, ?_⟩
    simp
  exact hkeys a ha hother

/-- No key fails but that for saving the log. -/
theorem handle_ok (h : Steady ⟨s, running⟩) {key : String} (hquits : ¬ s.Quits key)
    (hother : ¬ (s.dialog = none ∧ key = "s")) (stamp : Text) :
    (s.handle key stamp).2 = .ok .goOn := by
  rcases handle_cases hquits stamp with hnothing | ⟨a, haction, ha⟩
  · rw [hnothing]
    rfl
  · have hdone : (s.perform a).2 = .ok () := by
      rcases ha with rfl | ⟨hclosed, hmem, hkey⟩
      · rfl
      · exact h.keyAction_ok hmem fun hsave => hother ⟨hclosed, hkey hsave⟩
    rw [haction]
    show (s.perform a).2.map _ = _
    rw [hdone]
    rfl

/-- What the key for saving the log comes to. -/
theorem handle_save (h : Steady ⟨s, running⟩) (hclosed : s.dialog = none) (stamp : Text) :
    s.Unsavable stamp ∧ (∃ e, (s.handle "s" stamp).2 = .error (.export e)) ∨
    ¬ s.Unsavable stamp ∧ (s.handle "s" stamp).2 = .ok .goOn := by
  have hkey : (s.handle "s" stamp).2 = (s.saveLog stamp).2.map fun _ => .goOn := by
    unfold Screen.handle
    rw [hclosed]
    rfl
  rw [hkey]
  rcases h.saveLog_cases stamp with ⟨hunsavable, e, he⟩ | ⟨hsavable, hdone⟩
  · exact .inl ⟨hunsavable, e, by rw [he]; rfl⟩
  · exact .inr ⟨hsavable, by rw [hdone]; rfl⟩

end Steady

/-! ## §5 Positions -/

/-- Focuses a row as a list does that refuses every position outside of it. -/
def setPosition (s : Screen) (pos : Int) : Screen × Outcome :=
  if 0 ≤ pos ∧ pos < s.rows.size then done (s.focusRow pos) else (s, .error (.outOfRange ⟨⟩))

/-- Focuses the first row of such a list. -/
def setFirst (s : Screen) : Screen × Outcome :=
  if s.visible.isEmpty then done s else s.setPosition 0

/-- Focuses the last row of such a list. -/
def setLatest (s : Screen) : Screen × Outcome :=
  if s.visible.isEmpty then done s else s.setPosition (s.visible.length - 1)

theorem length_pos_of_shown {s : Screen} (h : ¬ s.visible.isEmpty = true) : 0 < s.visible.length := by
  apply List.length_pos_of_ne_nil
  simpa using h

namespace Steady

variable {v : Viewing}

theorem size_rows (h : Steady v) : v.screen.rows.size = v.screen.visible.length := by
  unfold Rows.size
  rw [h.rows]

/-- The position of a message that is shown can be focused. -/
theorem setPosition_eq (h : Steady v) {pos : Int} (hpos : 0 ≤ pos)
    (hlt : pos < v.screen.visible.length) : v.screen.setPosition pos = done (v.screen.focusRow pos) := by
  have hin : 0 ≤ pos ∧ pos < v.screen.rows.size := by
    rw [h.size_rows]
    exact ⟨hpos, hlt⟩
  unfold setPosition
  rw [if_pos hin]

/-- The first row exists if anything is shown. -/
theorem setFirst_eq (h : Steady v) : v.screen.setFirst = done v.screen.goTop := by
  unfold setFirst goTop
  split
  · rfl
  · next hsome =>
    have hshown := length_pos_of_shown hsome
    apply h.setPosition_eq
    · exact Int.le_refl 0
    · omega

/-- The last row exists if anything is shown. -/
theorem setLatest_eq (h : Steady v) : v.screen.setLatest = done v.screen.scrollToLatest := by
  unfold setLatest scrollToLatest
  split
  · rfl
  · next hsome =>
    have hshown := length_pos_of_shown hsome
    apply h.setPosition_eq
    · omega
    · omega

/-- The focused row can be asked for. -/
theorem current_ok (h : Steady v) : ∃ answer, v.screen.rows.current = .ok answer := by
  unfold Rows.current
  split
  · exact ⟨_, rfl⟩
  · next hsome =>
    have hfocus : v.screen.rows.focus < v.screen.rows.messages.length := by
      rcases h.focus with hnil | hlt
      · rw [hnil] at hsome
        exact absurd rfl hsome
      · exact hlt
    have hrow : rowAt? v.screen.rows.messages v.screen.rows.focus
        = .ok v.screen.rows.messages[v.screen.rows.focus].row := by
      unfold rowAt? itemAt?
      rw [if_pos (Int.natCast_nonneg _), Int.toNat_natCast, List.getElem?_eq_getElem hfocus]
    unfold Rows.answer Rows.obtain
    split
    · exact ⟨_, rfl⟩
    · rw [hrow]
      exact ⟨_, rfl⟩

end Steady

/-! ## §6 Every run -/

/-- An index selects its rule, or the default rule if there is none. -/
theorem selected_select (s : Screen) (i : Nat) :
    (s.select i).panel.rules.selected = if i < s.panel.rules.size then i else 0 := by
  show (s.panel.rules.select i).1.selected = _
  unfold RuleSet.select RuleSet.position? RuleSet.size
  by_cases hi : i < s.panel.rules.rules.length
  · simp [hi, RuleSet.selectAt]
  · simp [hi, RuleSet.selectAt]

/-- A new screen whose panel has received a message and has refreshed. -/
def showing (m : Message) : Screen :=
  ((ofPanel .fresh "" true).attach.operate (.receive [m])).runTask.1

theorem trace_showing {m : Message} (hm : FromLines [m]) :
    Trace Typing ⟨(ofPanel .fresh "" true).attach, none⟩
      [.event (.op (.receive [m])), .event .start, .event .read, .event .draw, .event .scroll]
      ⟨showing m, none⟩ := by
  let s : Screen := (ofPanel .fresh "" true).attach
  have hreceived : Trace Typing ⟨s, none⟩ [.event (.op (.receive [m]))]
      ⟨s.operate (.receive [m]), none⟩ :=
    .single ⟨.event (.op s none (.receive [m])), hm, Query.valid_empty⟩
  have hstarted := hreceived.concat
    ⟨.event (.start _ _ rfl (by decide)), trivial, Query.valid_empty⟩
  have hread := hstarted.concat ⟨.event (.read _ _), trivial, Query.valid_empty⟩
  have hdrawn := hread.concat ⟨.event (.draw _ _ _), trivial, Query.valid_empty⟩
  -- At the end of the refresh only the focus moves.
  have hsearch : ∀ (t : Screen) (follow : Bool), t.search.text = "" →
      Query.Valid (if follow then t.scrollToLatest else t).search.text := by
    intro t follow htext
    obtain ⟨focus, hscroll⟩ := t.scroll_eq follow
    rw [hscroll]
    show Query.Valid t.search.text
    rw [htext]
    exact Query.valid_empty
  exact hdrawn.concat ⟨.event (.scroll _ _), trivial, hsearch _ _ rfl⟩

/-- The lines of a process that starts and says something. -/
def startedLines : List Text :=
  ["I/ActivityManager(    1): Start proc 7:com.a/u0 for service", "D/a(    7): first"]

/-- The message of the second line. -/
def startedMessage : Message := ⟨"", 7, "com.a", "a", .debug, "first", none⟩

theorem fromLines_startedMessage : FromLines [startedMessage] := by
  intro m hm
  obtain rfl := List.mem_singleton.1 hm
  exact ⟨startedLines,
    [⟨"", 1, "?", "ActivityManager", .info, "Start proc 7:com.a/u0 for service", none⟩,
      startedMessage], [(7, "com.a")], rfl, by simp⟩

/-- The message of a line that holds a surrogate. -/
def surrogateMessage : Message := ⟨"", 1, "?", "a", .info, .ofList [.ofNat 0xdcff], none⟩

end Screen

end LogViewer
