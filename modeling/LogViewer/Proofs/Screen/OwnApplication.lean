import LogViewer.Proofs.Rules.Literals
import LogViewer.Proofs.Screen.Calls
import LogViewer.Proofs.Screen.Dialogs
import LogViewer.Proofs.Screen.Keyboard

/-!
# A session rule never hides its own application

The session rule for an application takes the name for a pattern. Names that are learnt from a log
have no operators in them, so the pattern occurs in the name itself, and the rule passes every
message of the application. A user can put in no other rules of this session, so the same is true of
a session rule that is found again. A message that is visible when the key for its session rule is
pressed stays visible for as long as it is stored.

## Main definitions

- `RuleSet.Genuine`: the rules of this session are the session rules of their applications
- `Screen.Focuses`: the message that a key acts on
- `Screen.Passing`: something happens that is none of the user's doing

## Main statements

- `Rule.matches_own`: a session rule passes its own application
- `Screen.leads_perform`: what an action does to the rules
- `Screen.shows_passing`, `Screen.visible_of_passing`: what stays as it is while the user does
  nothing
- `Screen.own_application_visible`: pressing the key
-/

namespace LogViewer

/-! ## §1 A session rule and its application -/

/-- A session rule passes the messages of its application, if that has a name. -/
theorem Rule.matches_own {r : Rule} {app : Text} (hname : ProcessEvent.IsName app.toList)
    (hr : r.criteria = Panel.sessionCriteria app) {m : Message} (hm : m.app = app) :
    r.matches m = true := by
  have hne : app ≠ "" := by
    rintro rfl
    exact hname.1 rfl
  have hordinary : ∀ c ∈ app.toList, Pattern.IsOrdinary c :=
    fun c hc => isOrdinary_of_isNameChar (hname.2 c hc)
  obtain ⟨p, hcompile, hoccurs⟩ := Pattern.occursIn_self hordinary
  have hasking : r.criteria = .asking (app ++ " (Session Filter)") .app app := hr
  rw [matches_asking hasking hne hcompile, Message.field, hm]
  exact hoccurs

/-- What a rule of this session asks. -/
def Rule.sessionCriteria? (r : Rule) : Option Criteria :=
  if r.transient then some r.criteria else none

namespace RuleSet

/-- The rules of this session ask what the session rules of their applications ask. -/
def Genuine (s : RuleSet) : Prop :=
  ∀ c ∈ s.rules.filterMap Rule.sessionCriteria?, c = Panel.sessionCriteria c.app

/-- In such a set the session rule of an application is the one that would be built. -/
theorem Genuine.criteria {s : RuleSet} (h : s.Genuine) {r : Rule} (hr : r ∈ s.rules) {app : Text}
    (happ : r.sessionApp? = some app) : r.criteria = Panel.sessionCriteria app := by
  obtain ⟨htransient, rfl⟩ : r.transient = true ∧ r.criteria.app = app := by
    simpa using Rule.sessionApp?_eq_some_iff.1 happ
  apply h
  refine List.mem_filterMap.2 ⟨r, hr, ?_⟩
  simp [Rule.sessionCriteria?, htransient]

/-- An operation that puts in no session rule leaves no other session rules. -/
theorem Genuine.perform {s : RuleSet} (h : s.Genuine) {op : Op} (hop : op.Lasting) :
    (s.perform op).Genuine := by
  intro c hc
  apply h c
  apply List.Sublist.subset _ hc
  apply filterMap_perform (fun _ => rfl) (fun _ _ => rfl) _ hop
  intro r hlasting
  simp [Rule.sessionCriteria?, hlasting]

end RuleSet

namespace Panel

/-- A panel begins with no rules of this session. -/
theorem genuine_of_opens {p : Panel} (h : Opens p) : p.rules.Genuine := by
  intro c hc
  obtain ⟨r, hr, hcriteria⟩ := List.mem_filterMap.1 hc
  obtain ⟨_, hbuild⟩ := build_of_opens h r hr
  simp [Rule.sessionCriteria?, Rule.transient_of_build hbuild] at hcriteria

/-- Selecting a session rule adds at most the one of the application. -/
theorem genuine_selectApp {p q : Panel} (h : p.rules.Genuine) {app : Text} {i : Nat}
    (hselect : p.selectApp app = .ok (q, i)) : q.rules.Genuine := by
  intro c hc
  obtain ⟨-, -, ⟨-, hrules⟩ | ⟨-, -, r, hbuild, hrules⟩⟩ := rules_of_selectApp hselect
  · rw [hrules, RuleSet.filterMap_modify fun _ => rfl] at hc
    exact h c hc
  · rw [hrules, List.filterMap_append, List.mem_append] at hc
    rcases hc with hold | hnew
    · exact h c hold
    · -- The new rule has just been built.
      obtain rfl : c = sessionCriteria app := by
        simpa [Rule.sessionCriteria?, Rule.transient_of_build hbuild, Rule.criteria_of_build hbuild]
          using hnew
      rfl

theorem genuine_step {p : Panel} (h : p.rules.Genuine) {op : Op} (hop : op.Lasting) :
    (p.step op).rules.Genuine := by
  by_cases hlookup : ∃ app, op = .selectApp app
  · obtain ⟨app, rfl⟩ := hlookup
    rcases p.step_selectApp app with hstep | ⟨q, i, hselect, hstep⟩
    · rwa [hstep]
    · rw [hstep]
      exact genuine_selectApp h hselect
  · rcases p.rules_step (not_exists.1 hlookup) with hsame | ⟨o, hrules, hlasting, _⟩
    · rwa [hsame]
    · rw [hrules]
      exact h.perform (hlasting hop)

theorem genuine_events {p : Panel} (h : p.rules.Genuine) {es : List Event} (hes : ∀ e ∈ es, e.Lasting) :
    (p.events es).rules.Genuine :=
  rules_events (fun _ _ hop hbefore => genuine_step hbefore hop) h hes

/-- The rule that is selected for an application asks for that application, unless another session
rule of it was there. -/
theorem criteria_of_selectApp {p q : Panel} {app : Text} {i : Nat}
    (h : p.selectApp app = .ok (q, i)) (hown : app ∉ p.rules.sessionApps ∨ p.rules.Genuine) :
    q.rules.selectedRule.criteria = sessionCriteria app := by
  obtain ⟨hselected, -, hcases⟩ := rules_of_selectApp h
  obtain ⟨r, hr, happ, -⟩ := exists_session_of_selectApp h
  rw [RuleSet.selectedRule_eq (hselected ▸ hr)]
  rcases hown with hnone | hgenuine
  · -- There is no session rule of the application, so the selected one has just been built.
    rcases hcases with ⟨hfound, -⟩ | ⟨-, rfl, r', hbuild, hrules⟩
    · rw [RuleSet.sessionRule?_eq_none_iff.2 hnone] at hfound
      cases hfound
    · rw [hrules, List.getElem?_concat_length] at hr
      cases hr
      exact Rule.criteria_of_build hbuild
  · exact (genuine_selectApp hgenuine h).criteria (List.mem_of_getElem? hr) happ

/-- Selecting a session rule leaves the live query alone. -/
theorem live_of_selectApp {p q : Panel} {app : Text} {i : Nat} (h : p.selectApp app = .ok (q, i)) :
    q.live = p.live := by
  rcases selectApp_cases h with ⟨k, -, hselect⟩ | ⟨r, -, -, hselect⟩
  · cases hselect
    rfl
  · cases hselect
    rfl

end Panel

namespace Screen

/-! ## §2 What an action does to the rules -/

/-- A run in which the rules that are put in are no session rules leads to a set of rules. -/
def Leads (p : Panel) (rules : RuleSet) : Prop :=
  ∃ es : List Panel.Event, (∀ e ∈ es, e.Lasting) ∧ rules = (p.events es).rules

theorem lasting_commitCalls (s : Screen) (goal : DialogGoal) {r : Rule} (h : r.transient = false) :
    ∀ op ∈ s.commitCalls goal r, op.Lasting := by
  unfold commitCalls
  cases goal with
  | add =>
    -- A new rule is added, and then selected if that succeeds.
    dsimp only
    split <;> simp [Panel.Op.Lasting, h]
  | edit position => simp [Panel.Op.Lasting, h]

/-- The rules that a user puts in are no session rules, unless they are looked up for an
application. -/
theorem lasting_calls {s : Screen} {a : Action} : ∀ op ∈ s.calls a, op.Lasting := by
  intro op hop
  cases a with
  | select index =>
    obtain rfl := List.mem_singleton.1 hop
    exact trivial
  | delete =>
    obtain rfl := List.mem_singleton.1 hop
    exact trivial
  | clearLog =>
    obtain rfl := List.mem_singleton.1 hop
    exact trivial
  | saveDialog =>
    dsimp only [calls] at hop
    split at hop
    · exact absurd hop List.not_mem_nil
    · next d _ =>
      split at hop
      · next r hrule => exact s.lasting_commitCalls d.goal (Dialog.transient_of_rule hrule) op hop
      · exact absurd hop List.not_mem_nil
  | _ =>
    -- What is left does one operation, which puts in no rule, or nothing.
    dsimp only [calls] at hop
    split at hop
    · obtain rfl := List.mem_singleton.1 hop
      exact trivial
    · exact absurd hop List.not_mem_nil

/-- An action does to the rules what some run does in which no session rules are put in, whether it
succeeds or not. -/
theorem leads_perform (s : Screen) (a : Action) : Leads s.panel (s.perform a).1.panel.rules := by
  obtain ⟨disk, hpanel⟩ := s.panel_perform_calls a
  refine ⟨(s.calls a).map fun op => .act (.perform op), ?_, ?_⟩
  · intro e he
    obtain ⟨op, hop, rfl⟩ := List.mem_map.1 he
    exact lasting_calls op hop
  · rw [hpanel]
    unfold Panel.events Panel.run
    rw [List.foldl_map]
    rfl

/-! ## §3 Runs -/

theorem genuine_leads {p : Panel} (h : p.rules.Genuine) {rules : RuleSet} (hleads : Leads p rules) :
    rules.Genuine := by
  obtain ⟨es, hes, rfl⟩ := hleads
  exact Panel.genuine_events h hes

/-- The session rules of a screen stay genuine, whatever the user does. -/
theorem genuine_usage {v w : Viewing} (h : v.panel.rules.Genuine) {i : Input} (huse : Usage v i w) :
    w.panel.rules.Genuine := by
  obtain ⟨hstep, hallowed⟩ := huse
  cases hstep with
  | act s running a succeeds => exact genuine_leads h (s.leads_perform a)
  | key s running key stamp effect succeeds =>
    show (s.handle key stamp).1.panel.rules.Genuine
    rcases s.screen_handle key stamp with hnothing | ⟨a, haction, -⟩
    · rw [hnothing]
      exact h
    · rw [haction]
      exact genuine_leads h (s.leads_perform a)
  | event step =>
    cases step with
    | op s running op =>
      apply Panel.genuine_step h
      -- From outside no rules are added or replaced.
      cases op with
      | add r => exact hallowed.elim
      | edit index r => exact hallowed.elim
      | _ => exact trivial
    | start s r attached waiting => exact h
    | read s forced => exact h
    | draw s follow messages => exact h
    | scroll s follow =>
      obtain ⟨focus, hscroll⟩ := s.scroll_eq follow
      rw [hscroll]
      exact h

/-- What comes in from outside does not change which messages are let through. -/
theorem shows_outside {v w : Viewing} {e : Event} (hstep : Step v e w) (he : e.IsOutside) :
    w.panel.shows = v.panel.shows := by
  have huntouched := untouched_outside hstep he
  have hlive : w.panel.live = v.panel.live := huntouched.live
  have hrule : w.panel.rules.selectedRule.matches = v.panel.rules.selectedRule.matches :=
    huntouched.rule.matches_eq
  funext m
  simp [Panel.shows, hrule, hlive]

/-- Something happens that is none of the user's doing. -/
def Passing (v : Viewing) (e : Event) (w : Viewing) : Prop := Step v e w ∧ e.IsOutside

/-- While the user does nothing, the same messages are let through, and the screen at rest shows
them. -/
theorem shows_passing {v w : Viewing} {events : List Event} (h : Trace Passing v events w)
    (hfaithful : Faithful v) : w.panel.shows = v.panel.shows ∧ Faithful w := by
  induction h with
  | nil => exact ⟨rfl, hfaithful⟩
  | concat _ hstep ih =>
    obtain ⟨hstep, he⟩ := hstep
    exact ⟨(shows_outside hstep he).trans ih.1, ih.2.event hstep he⟩

/-- A faithful screen at rest shows what is visible. -/
theorem Faithful.visible_atRest {v : Viewing} (h : Faithful v) (hrest : v.AtRest) :
    v.screen.visible = v.panel.visible := by
  obtain ⟨hnone, hzero⟩ := hrest
  rcases h.shows with hwaits | hprojects
  · exact absurd hzero (Nat.ne_of_gt hwaits)
  · unfold Viewing.Projecting at hprojects
    rw [hnone] at hprojects
    exact hprojects.visible

/-- While the user does nothing, a message that is let through is visible for as long as it is
stored. -/
theorem visible_of_passing {v w : Viewing} {events : List Event} (h : Trace Passing v events w)
    (hfaithful : Faithful v) {m : Message} (hshown : v.panel.shows m = true)
    (hstored : m ∈ w.panel.store.messages) :
    m ∈ w.panel.visible ∧ (w.AtRest → m ∈ w.screen.visible) := by
  obtain ⟨hshows, hfaithful'⟩ := shows_passing h hfaithful
  have hmem : m ∈ w.panel.visible := by
    apply List.mem_filter.2
    refine ⟨hstored, ?_⟩
    rw [hshows]
    exact hshown
  refine ⟨hmem, ?_⟩
  intro hrest
  rw [hfaithful'.visible_atRest hrest]
  exact hmem

/-! ## §4 Pressing the key -/

/-- The focus is on a message. -/
def Focuses (s : Screen) (m : Message) : Prop :=
  ∃ pos, s.rows.focus? = some pos ∧ s.rows.messageAt? pos = some m

theorem appOfFocus?_of_focuses {s : Screen} {m : Message} (h : s.Focuses m)
    (hknown : m.app ≠ Processes.unknown) : s.appOfFocus? = some m.app := by
  obtain ⟨pos, hfocus, hmessage⟩ := h
  have hknown : ¬ m.app = "?" := hknown
  unfold appOfFocus?
  simp [hfocus, hmessage, hknown]

/-- Without a dialog, the key selects the session rule for the application of the focused message.
-/
theorem handle_own {s : Screen} (hdialog : s.dialog = none) {m : Message} (h : s.Focuses m)
    (hknown : m.app ≠ Processes.unknown) {q : Panel} {i : Nat}
    (hselect : s.panel.selectApp m.app = .ok (q, i)) (stamp : Text) :
    s.handle "a" stamp = ({ s with panel := q }, .ok .goOn) := by
  have hkey : s.handle "a" stamp = goingOnAfter s.selectAppOfFocus := by
    unfold handle
    rw [hdialog]
    rfl
  rw [hkey]
  unfold selectAppOfFocus
  rw [appOfFocus?_of_focuses h hknown]
  simp only [hselect]
  rfl

/-- Let a message be read from some lines, beginning with no names, and its application be known.
Then the session rule for the application can be selected in any panel, and unless one is there
already, it passes every message of that application. In every run of the program, whether a session
rule is there or not, the key for the session rule succeeds while that message is focused and no
dialog is open, and the selected rule then passes every message of the application. Those that were
visible stay visible for as long as they are stored and the user does nothing else, and the screen
at rest shows them. -/
theorem own_application_visible {lines : List Text} {ms : List Message} {names : Processes}
    (hlines : readLines .empty lines = .ok (ms, names)) {m : Message} (hm : m ∈ ms)
    (hknown : m.app ≠ Processes.unknown) :
    (∀ p : Panel, ∃ q i, p.selectApp m.app = .ok (q, i) ∧ q.rules.selected = i ∧
      (m.app ∉ p.rules.sessionApps →
        ∀ m' : Message, m'.app = m.app → q.rules.selectedRule.matches m' = true)) ∧
    ∀ (p₀ : Panel) (es : List Panel.Event) (source : Text) (deferred : Bool) (inputs : List Input)
      (v : Viewing), Panel.Opens p₀ → (∀ e ∈ es, e.Lasting) →
      Trace Usage ⟨(ofPanel (p₀.events es) source deferred).attach, none⟩ inputs v →
      v.screen.dialog = none → v.screen.Focuses m → ∀ stamp,
      ∃ s, v.screen.handle "a" stamp = (s, .ok .goOn) ∧
        (∀ m' : Message, m'.app = m.app → s.panel.rules.selectedRule.matches m' = true) ∧
        ∀ events w, Trace Passing ⟨s, v.running⟩ events w → ∀ m' : Message, m'.app = m.app →
          m' ∈ v.panel.visible → m' ∈ w.panel.store.messages →
          m' ∈ w.panel.visible ∧ (w.AtRest → m' ∈ w.screen.visible) := by
  have hname : ProcessEvent.IsName m.app.toList :=
    (hasName_of_readLines hlines m hm).resolve_left hknown
  constructor
  · intro p
    obtain ⟨q, i, hselect⟩ := p.exists_selectApp hname
    refine ⟨q, i, hselect, (Panel.rules_of_selectApp hselect).1, ?_⟩
    intro hnone m' happ
    exact Rule.matches_own hname (Panel.criteria_of_selectApp hselect (.inl hnone)) happ
  · intro p₀ es source deferred inputs v hopens hes htrace hdialog hfocus stamp
    have hgenuine : v.panel.rules.Genuine := by
      apply htrace.invariant (fun _ _ _ hu huse => genuine_usage hu huse)
      exact Panel.genuine_events (Panel.genuine_of_opens hopens) hes
    have hfaithful : Faithful v := by
      apply htrace.invariant (fun _ _ _ hu huse => Faithful.usage hu huse)
      exact .ofPanel _ source deferred
    obtain ⟨q, i, hselect⟩ := v.panel.exists_selectApp hname
    have hkey := handle_own hdialog hfocus hknown hselect stamp
    have hmatches : ∀ m' : Message, m'.app = m.app → q.rules.selectedRule.matches m' = true :=
      fun m' happ => Rule.matches_own hname (Panel.criteria_of_selectApp hselect (.inr hgenuine)) happ
    refine ⟨{ v.screen with panel := q }, hkey, hmatches, ?_⟩
    intro events w hpassing m' happ hvisible hstored
    have hafter : Faithful ⟨{ v.screen with panel := q }, v.running⟩ := by
      have hdone : (v.screen.handle "a" stamp).2 = .ok .goOn := congrArg Prod.snd hkey
      have hhandled := Faithful.handle (s := v.screen) hfaithful hdone
      rwa [hkey] at hhandled
    -- The live query is the one that let the message through before.
    have hlive : v.panel.live.all (fun r => r.matches m') = true := by
      have hpassed := (List.mem_filter.1 hvisible).2
      exact (Bool.and_eq_true_iff.1 hpassed).2
    have hshown : q.shows m' = true := by
      unfold Panel.shows
      rw [hmatches m' happ, Panel.live_of_selectApp hselect, hlive]
      rfl
    exact visible_of_passing hpassing hafter hshown hstored

/-- A run of events from outside happens without the user. -/
theorem passing_of_run {v w : Viewing} {events : List Event} (h : Run v events w)
    (houtside : ∀ e ∈ events, e.IsOutside) : Trace Passing v events w := by
  induction h with
  | nil => exact .nil _
  | @concat _ _ _ e _ hstep ih =>
    have hbefore := ih fun e he => houtside e (List.mem_append_left _ he)
    have he : e.IsOutside := houtside e (List.mem_append_right _ (List.mem_singleton_self e))
    exact hbefore.concat ⟨hstep, he⟩

/-- A refresh that waits runs without the user. -/
theorem passing_runTask {s : Screen} {r : Refresher} (attached : s.panel.refresher = some r)
    (waiting : 0 < r.outstanding) :
    Trace Passing ⟨s, none⟩ [.start, .read, .draw, .scroll] ⟨s.runTask.1, none⟩ := by
  apply passing_of_run (run_runTask attached waiting)
  simp [Event.IsOutside]

/-- What happens without the user happens in a usage. -/
theorem usage_of_passing {v w : Viewing} {events : List Event} (h : Trace Passing v events w) :
    Trace Usage v (events.map .event) w := by
  induction h with
  | nil => exact .nil _
  | concat _ hstep ih =>
    rw [List.map_append]
    exact ih.concat ⟨.event hstep.1, hstep.2⟩

/-- The key is pressed on the message of a process that has been started, another message of the
process comes in, and both are shown after the next refresh. -/
theorem own_application_visible_started :
    ∃ (v w : Viewing) (s : Screen),
      Trace Usage ⟨(ofPanel .fresh "" true).attach, none⟩
        [.event (.op (.receive [startedMessage])), .event .start, .event .read, .event .draw,
          .event .scroll] v ∧
      v.screen.Focuses startedMessage ∧ v.screen.handle "a" "" = (s, .ok .goOn) ∧
      Trace Passing ⟨s, v.running⟩ [.op (.receive [startedMessage]), .start, .read, .draw, .scroll] w ∧
      w.AtRest ∧ startedMessage ∈ w.screen.visible := by
  obtain ⟨lines, ms, names, hlines, hmem⟩ :=
    fromLines_startedMessage startedMessage (List.mem_singleton_self _)
  obtain ⟨-, hrun⟩ := own_application_visible hlines hmem (by decide)
  -- The message comes in and is shown.
  let s : Screen := (ofPanel .fresh "" true).attach
  let more : Panel.Op := .receive [startedMessage]
  have hreceived : Trace Passing ⟨s, none⟩ [.op more] ⟨s.operate more, none⟩ := .single ⟨.op _ _ _, trivial⟩
  have hshown := usage_of_passing (hreceived.append (passing_runTask rfl (by decide)))
  have hdialog : (s.operate more).runTask.1.dialog = none := by decide +kernel
  have hfocus : (s.operate more).runTask.1.Focuses startedMessage :=
    ⟨0, by decide +kernel, by decide +kernel⟩
  have hvisible : startedMessage ∈ (s.operate more).runTask.1.panel.visible := by decide +kernel
  have hrefresher : (((s.operate more).runTask.1.handle "a" "").1.operate more).panel.refresher
      = some ⟨true, true, 1, 1⟩ := by decide +kernel
  have hafter : startedMessage
        ∈ (((s.operate more).runTask.1.handle "a" "").1.operate more).runTask.1.panel.store.messages
      ∧ (((s.operate more).runTask.1.handle "a" "").1.operate more).runTask.1.panel.outstanding = 0 := by
    decide +kernel
  -- From here on the screen need not be computed again.
  generalize (s.operate more).runTask.1 = v at hshown hdialog hfocus hvisible hrefresher hafter
  obtain ⟨t, hkey, -, hlater⟩ :=
    hrun .fresh [] "" true _ ⟨v, none⟩ (.start Panel.start_fresh) (by simp) hshown hdialog hfocus ""
  have hkey : v.handle "a" "" = (t, .ok .goOn) := hkey
  rw [hkey] at hrefresher hafter
  have hagain : Trace Passing ⟨t, none⟩ [.op more] ⟨t.operate more, none⟩ := .single ⟨.op _ _ _, trivial⟩
  have hpassing := hagain.append (passing_runTask hrefresher (by decide))
  obtain ⟨-, hshown'⟩ := hlater _ _ hpassing startedMessage rfl hvisible hafter.1
  have hrest : Viewing.AtRest ⟨(t.operate more).runTask.1, none⟩ := ⟨rfl, hafter.2⟩
  exact ⟨⟨v, none⟩, _, t, hshown, hfocus, hkey, hpassing, hrest, hshown' hrest⟩

end Screen

end LogViewer
